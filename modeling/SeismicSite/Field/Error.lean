import SeismicSite.Vocabulary.Kind
import SeismicSite.Vocabulary.Topography
/-!
# Field errors and checks

Building an entity fails at one field: the field holds a value of the
wrong kind, or none where one is required, or a word outside a closed set.
The error names the field and what would have been accepted; where in a
document the entity stands is for the reader to add. Two checks guard every
field, one for each cause: a check returns what it was given, or the error.
-/

namespace SeismicSite

/-- Why a field was rejected. -/
inductive FieldError where
  /-- The field holds a value of the kind `actual`, or nothing at all,
  where one of the kinds `expected` is required. -/
  | typeMismatch (field : String) (expected : List ValueKind) (actual : Option ValueKind)
  /-- The field holds the text `value`, which is none of the tags
  `allowed`. -/
  | unknownTag (field : String) (allowed : List String) (value : String)
  deriving DecidableEq

namespace FieldError

/-- The name of the rejected field. -/
def field : FieldError → String
  | typeMismatch field _ _ => field
  | unknownTag field _ _ => field

/-- A list of words in brackets. -/
def bracketed (words : List String) : String :=
  "[" ++ ", ".intercalate words ++ "]"

/-- What was expected: the kind itself if there is just one. -/
def expectation : List ValueKind → String
  | [kind] => kind.typeName
  | kinds => "one of " ++ bracketed (kinds.map ValueKind.typeName)

/-- What was found in place of it. -/
def finding : Option ValueKind → String
  | some kind => ", but got " ++ kind.typeName ++ " instead"
  | none => ", but no value was given"

/-- The text of an error. -/
def message : FieldError → String
  | typeMismatch field expected actual =>
    "Expected '" ++ field ++ "' to be of type " ++ expectation expected ++ finding actual
  | unknownTag field allowed value =>
    "Invalid value for '" ++ field ++ "'. Expected one of " ++ bracketed allowed
      ++ ", but got '" ++ value ++ "'"

/-- The rejection of `value` in a field that takes the tags of `α`. -/
def outside (α : Type) [TagSet α] (field value : String) : FieldError :=
  .unknownTag field (TagSet.tags α) value

end FieldError

/-! ## The checks -/

/-- Values whose kind can be inspected. -/
class HasKind (α : Type) where
  /-- The kind of a value. -/
  kind : α → ValueKind

/-- Accepts a value of one of the kinds `expected`. -/
def expectKind {α : Type} [HasKind α] (field : String) (expected : List ValueKind) (value : α) :
    Except FieldError α :=
  if HasKind.kind value ∈ expected then .ok value
  else .error (.typeMismatch field expected (some (HasKind.kind value)))

/-- Accepts a value of one of the kinds `expected`, and an absent one if
`allowAbsent`. -/
def checkKind {α : Type} [HasKind α] (field : String) (expected : List ValueKind)
    (allowAbsent : Bool) : Option α → Except FieldError (Option α)
  | some value => some <$> expectKind field expected value
  | none => if allowAbsent then .ok none else .error (.typeMismatch field expected none)

/-- The member of the closed set `α` that `text` is the tag of. -/
def expectTag (α : Type) [TagSet α] (field : String) (text : String) : Except FieldError α :=
  match TagSet.ofTag? text with
  | some member => .ok member
  | none => .error (.outside α field text)

/-- Accepts a tag of the closed set `α`, and an absent one if
`allowAbsent`; an absent one that is not allowed is reported as the empty
text. -/
def checkTag (α : Type) [TagSet α] (field : String) (allowAbsent : Bool) :
    Option String → Except FieldError (Option α)
  | some text => some <$> expectTag α field text
  | none => if allowAbsent then .ok none else .error (.outside α field "")

/-- Reads a tag standing alone; an error names the field that the set
belongs to. -/
def TagSet.read (α : Type) [TagSet α] (text : String) : Except FieldError α :=
  expectTag α (TagSet.field α) text

end SeismicSite
