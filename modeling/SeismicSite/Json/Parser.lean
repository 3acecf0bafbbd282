import SeismicSite.Json.Number
/-!
# Reading JSON texts

A strict reader of JSON. Blanks are space, tab, line feed and carriage
return; nothing but blanks may follow the value; a string holds no raw
control character and no half of a surrogate pair; arrays and objects nest
at most 127 deep. A scanner splits a value off the front of a text and
gives what follows it.
-/

namespace SeismicSite

namespace Json

/-! ## Strings -/

/-- A piece of a string: a character that stands for itself or by a short
escape, or the UTF-16 unit of a numeric escape. -/
inductive Piece where
  | char (c : Char)
  | unit (value : Nat)

/-- The value of a hexadecimal digit. -/
def hexDigit? (c : Char) : Option Nat :=
  if '0' ≤ c ∧ c ≤ '9' then some (c.toNat - 48)
  else if 'a' ≤ c ∧ c ≤ 'f' then some (c.toNat - 87)
  else if 'A' ≤ c ∧ c ≤ 'F' then some (c.toNat - 55)
  else none

/-- The unit that four hexadecimal digits spell. -/
def hexUnit? (a b c d : Char) : Option Nat := do
  let digits ← [a, b, c, d].mapM hexDigit?
  return digits.foldl (fun value digit => 16 * value + digit) 0

/-- The character that a short escape stands for. -/
def shortEscape? : Char → Option Char
  | '"' => some '"'
  | '\\' => some '\\'
  | '/' => some '/'
  | 'b' => some '\x08'
  | 'f' => some '\x0c'
  | 'n' => some '\n'
  | 'r' => some '\r'
  | 't' => some '\t'
  | _ => none

/-- The pieces of a string up to its closing quote, and what follows. -/
def scanPieces : List Char → Option (List Piece × List Char)
  | [] => none
  | '"' :: rest => some ([], rest)
  | '\\' :: 'u' :: a :: b :: c :: d :: rest => do
    let value ← hexUnit? a b c d
    let (pieces, left) ← scanPieces rest
    return (.unit value :: pieces, left)
  | '\\' :: c :: rest => do
    let escaped ← shortEscape? c
    let (pieces, left) ← scanPieces rest
    return (.char escaped :: pieces, left)
  | c :: rest => do
    guard (c ≠ '\\' ∧ 32 ≤ c.toNat)
    let (pieces, left) ← scanPieces rest
    return (.char c :: pieces, left)

/-- A unit that starts a surrogate pair. -/
def isHighSurrogate (value : Nat) : Bool :=
  0xD800 ≤ value && value < 0xDC00

/-- A unit that ends a surrogate pair. -/
def isLowSurrogate (value : Nat) : Bool :=
  0xDC00 ≤ value && value < 0xE000

/-- The characters that pieces stand for; two units of a surrogate pair
make one, and either half alone makes none. -/
def joinPieces : List Piece → Option (List Char)
  | [] => some []
  | .char c :: rest => (c :: ·) <$> joinPieces rest
  | .unit high :: .unit low :: rest =>
    if isHighSurrogate high && isLowSurrogate low then
      (Char.ofNat (0x10000 + (high - 0xD800) * 0x400 + (low - 0xDC00)) :: ·) <$> joinPieces rest
    else if isHighSurrogate high || isLowSurrogate high then none
    else (Char.ofNat high :: ·) <$> joinPieces (.unit low :: rest)
  | .unit value :: rest =>
    if isHighSurrogate value || isLowSurrogate value then none
    else (Char.ofNat value :: ·) <$> joinPieces rest

/-- The string behind an opening quote, and what follows it. -/
def scanString (text : List Char) : Option (String × List Char) := do
  let (pieces, left) ← scanPieces text
  let characters ← joinPieces pieces
  return (String.ofList characters, left)

/-! ## Values -/

/-- A blank of JSON. -/
def isBlank (c : Char) : Bool :=
  c == ' ' || c == '\t' || c == '\n' || c == '\r'

/-- A text without its leading blanks. -/
def skipBlanks (text : List Char) : List Char :=
  text.dropWhile isBlank

/-- Parts of a list up to the closing bracket: one, then as many as follow
a comma, but no more than `limit` in all. -/
def scanParts {α : Type} (close : Char) (part : List Char → Option (α × List Char)) :
    (limit : Nat) → List Char → Option (List α × List Char)
  | 0, _ => none
  | limit + 1, text => do
    let (first, afterFirst) ← part text
    match skipBlanks afterFirst with
    | [] => none
    | c :: rest =>
      if c = ',' then do
        let (more, left) ← scanParts close part limit rest
        return (first :: more, left)
      else if c = close then return ([first], rest)
      else none

/-- A bracketed list behind its opening bracket: nothing, or parts between
commas. -/
def scanBracketed {α : Type} (close : Char) (part : List Char → Option (α × List Char))
    (limit : Nat) (text : List Char) : Option (List α × List Char) :=
  match skipBlanks text with
  | [] => none
  | c :: rest => if c = close then some ([], rest) else scanParts close part limit text

/-- A member of an object: its name, a colon and its value. -/
def scanMember (value : List Char → Option (Json × List Char)) (text : List Char) :
    Option ((String × Json) × List Char) :=
  match skipBlanks text with
  | '"' :: rest => do
    let (name, afterName) ← scanString rest
    match skipBlanks afterName with
    | ':' :: afterColon =>
      let (content, left) ← value afterColon
      return ((name, content), left)
    | _ => none
  | _ => none

/-- The value at the front of a text, in which arrays and objects nest at
most `depth` deep and hold at most `limit` parts each, and what follows
it. -/
def scan (limit depth : Nat) (text : List Char) : Option (Json × List Char) :=
  match skipBlanks text with
  | 'n' :: 'u' :: 'l' :: 'l' :: rest => some (null, rest)
  | 't' :: 'r' :: 'u' :: 'e' :: rest => some (bool true, rest)
  | 'f' :: 'a' :: 'l' :: 's' :: 'e' :: rest => some (bool false, rest)
  | '"' :: rest => (scanString rest).map fun (value, left) => (string value, left)
  | '[' :: rest =>
    match depth with
    | 0 => none
    | inner + 1 =>
      (scanBracketed ']' (scan limit inner) limit rest).map fun (items, left) => (array items, left)
  | '\x7b' :: rest =>
    match depth with
    | 0 => none
    | inner + 1 =>
      (scanBracketed '\x7d' (scanMember (scan limit inner)) limit rest).map
        fun (members, left) => (ofMembers members, left)
  | rest => do
    let (numeral, left) ← Numeral.scan rest
    let value ← JsonNumber.ofNumeral? numeral
    return (number value, left)

/-- The value of a whole text in which arrays and objects nest at most
`depth` deep. Every part of an array or object takes a character of the
text, so the length of the text limits their number. -/
def parseWithin? (depth : Nat) (text : String) : Option Json :=
  let characters := text.toList
  match scan characters.length depth characters with
  | some (value, left) => if left.all isBlank then some value else none
  | none => none

/-- The value of a JSON text. -/
def parse? (text : String) : Option Json :=
  parseWithin? 127 text

end Json

end SeismicSite
