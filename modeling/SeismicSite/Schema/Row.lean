import SeismicSite.Schema.Record
/-!
# Rows

A schema is the list of fields that an entity kind declares, in the order
in which they are read and written. `Row.take` reads a schema off a record:
it removes one declared field after the other, checks it, and stops at the
first one that does not conform, so fields behind that one stay in the
record. A `Row` holds what was read, one component per field.
-/

namespace SeismicSite

/-- The two schemes of topography tags. -/
inductive Scheme where
  | slopeClass
  | landform
  deriving DecidableEq

namespace Scheme

/-- The members of a scheme. -/
@[reducible] def Carrier : Scheme → Type
  | slopeClass => SlopeClass
  | landform => Landform

instance (scheme : Scheme) : TagSet scheme.Carrier :=
  match scheme with
  | slopeClass => inferInstanceAs (TagSet SlopeClass)
  | landform => inferInstanceAs (TagSet Landform)

end Scheme

/-- What a field holds and whether it may be missing. -/
inductive Content where
  /-- One value, which must be there. -/
  | required (type : FieldType)
  /-- One value or none. -/
  | optional (type : FieldType)
  /-- Any number of values; a value that stands alone counts as a list of
  one. -/
  | repeated (type : FieldType)
  /-- A tag of the scheme or nothing. -/
  | tag (scheme : Scheme)
  deriving DecidableEq

/-- What was read from a field with the given content. -/
@[reducible] def Content.Carrier : Content → Type
  | required type => type.Carrier
  | optional type => Option type.Carrier
  | repeated type => List type.Carrier
  | tag scheme => Option scheme.Carrier

/-- A declared field. -/
structure Field where
  name : String
  content : Content
  deriving DecidableEq

/-! ## Reading one field -/

/-- Checks the kind of a value and takes its content. -/
def FieldType.read (type : FieldType) (field : String) (value : FieldValue) :
    Except FieldError type.Carrier := do
  let accepted ← expectKind field type.expected value
  (type.unwrap accepted).mapError fun rejected =>
    .typeMismatch field type.expected (some rejected.kind)

/-- Reads a field from the value it holds, if any. -/
def Content.read (field : String) :
    (content : Content) → Option FieldValue → Except FieldError content.Carrier
  | required type, none => .error (.typeMismatch field type.expected none)
  | required type, some value => type.read field value
  | optional _, none => .ok none
  | optional type, some value => some <$> type.read field value
  | repeated _, none => .ok []
  | repeated type, some (.list items) => items.mapM (type.read field)
  | repeated type, some value => List.singleton <$> type.read field value
  | tag _, none => .ok none
  | tag scheme, some value => do
    let text ← FieldType.text.read field value
    some <$> expectTag scheme.Carrier field text

/-! ## Reading a schema -/

/-- The contents of the fields of a schema. -/
@[reducible] def Row : List Field → Type
  | [] => Unit
  | field :: fields => field.content.Carrier × Row fields

/-- What taking fields out of a record gives. -/
structure Taken (α : Type) where
  /-- What the fields make, or the error of the first that does not
  conform. -/
  result : Except FieldError α
  /-- The record without the fields that were read. -/
  left : Record

/-- Takes the fields of a schema out of a record, in order and up to the
first that does not conform. -/
def Row.take : (fields : List Field) → Record → Taken (Row fields)
  | [], record => ⟨.ok (), record⟩
  | field :: fields, record =>
    let rest := record.erase field.name
    match field.content.read field.name (record.get? field.name) with
    | .error error => ⟨.error error, rest⟩
    | .ok value =>
      let taken := Row.take fields rest
      ⟨taken.result.map fun values => (value, values), taken.left⟩

end SeismicSite
