import SeismicSite.Decimal.Layout
import SeismicSite.Json.Basic
/-!
# Writing JSON texts

The two written forms of a value: compact, with no blanks at all, and
pretty, with one item or member to a line. Strings escape quotes,
backslashes and control characters below U+0020 and nothing else.
-/

namespace SeismicSite

/-- A number in a JSON text. -/
def JsonNumber.write : JsonNumber → String
  | integer value _ _ => toString value
  | float value _ => Layout.document.writeFloat value

namespace Json

/-- A character as it stands in a quoted string. -/
def escape (c : Char) : List Char :=
  match c with
  | '"' => ['\\', '"']
  | '\\' => ['\\', '\\']
  | '\x08' => ['\\', 'b']
  | '\x0c' => ['\\', 'f']
  | '\n' => ['\\', 'n']
  | '\r' => ['\\', 'r']
  | '\t' => ['\\', 't']
  | _ =>
    if c.toNat < 32 then
      ['\\', 'u', '0', '0', Nat.digitChar (c.toNat / 16), Nat.digitChar (c.toNat % 16)]
    else [c]

/-- A string in quotes. -/
def quote (text : String) : String :=
  String.ofList ('"' :: text.toList.flatMap escape ++ ['"'])

/-! ## The compact form -/

mutual

/-- A value without any blanks. -/
def compact : Json → String
  | null => "null"
  | bool value => if value then "true" else "false"
  | number value => value.write
  | string value => quote value
  | array items => "[" ++ ",".intercalate (compactItems items) ++ "]"
  | object members => "\x7b" ++ ",".intercalate (compactMembers members) ++ "\x7d"

/-- The items of an array, each written. -/
def compactItems : List Json → List String
  | [] => []
  | item :: items => compact item :: compactItems items

/-- The members of an object, each written. -/
def compactMembers : List (String × Json) → List String
  | [] => []
  | (name, value) :: members => (quote name ++ ":" ++ compact value) :: compactMembers members

end

/-! ## The pretty form -/

/-- The blanks that a line starts with. -/
def indentation (level : Nat) : String :=
  String.ofList (List.replicate (2 * level) ' ')

/-- Written parts in brackets, each on a line of its own one level in;
brackets with nothing in them stay together. -/
def block (level : Nat) (opening closing : String) (parts : List String) : String :=
  if parts.isEmpty then opening ++ closing
  else
    opening ++ "\n" ++ indentation (level + 1)
      ++ (",\n" ++ indentation (level + 1)).intercalate parts
      ++ "\n" ++ indentation level ++ closing

mutual

/-- A value that starts at the given level. -/
def prettyAt (level : Nat) : Json → String
  | null => "null"
  | bool value => if value then "true" else "false"
  | number value => value.write
  | string value => quote value
  | array items => block level "[" "]" (prettyItems (level + 1) items)
  | object members => block level "\x7b" "\x7d" (prettyMembers (level + 1) members)

/-- The items of an array, each written at the given level. -/
def prettyItems (level : Nat) : List Json → List String
  | [] => []
  | item :: items => prettyAt level item :: prettyItems level items

/-- The members of an object, each written at the given level. -/
def prettyMembers (level : Nat) : List (String × Json) → List String
  | [] => []
  | (name, value) :: members =>
    (quote name ++ ": " ++ prettyAt level value) :: prettyMembers level members

end

/-- A value over several lines, two blanks to a level. -/
def pretty (value : Json) : String :=
  prettyAt 0 value

end Json

end SeismicSite
