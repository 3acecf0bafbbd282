import SeismicSite.Document.Encode
import SeismicSite.Proofs.Schema.Take
/-!
# Entities written field by field

An entity is written member by member under names of its own, apart from the
names under which its schema reads it. Here the two are brought together: what
is written for the entity of a row is what its fields are written as, in the
order of the schema, after the name that an indicator starts with.
-/

namespace SeismicSite

/-- The JSON value of a content. -/
def FieldType.encode : (type : FieldType) → type.Carrier → Json
  | text, value => .string value
  | number, value => .ofFloat value
  | integer, value => .ofInt64 value
  | year, value => .ofInt32 value
  | reading, value => value.toJson
  | element kind, value => (kind.toElement value).toJson

/-- The members that a field is written as. -/
def Content.members (name : String) : (content : Content) → content.Carrier → List (String × Json)
  | required type, value => [(name, type.encode value)]
  | optional type, value => Json.optional name type.encode value
  | repeated type, values => [(name, .array (values.map type.encode))]
  | tag _, value => Json.optional name TagSet.toJson value

/-- The members that a row is written as. -/
def Row.members : (fields : List Field) → Row fields → List (String × Json)
  | [], _ => []
  | field :: fields, (content, row) => field.content.members field.name content ++ members fields row

/-- The JSON value that a field is written as, unless it is left out. -/
def Content.encode : (content : Content) → content.Carrier → Option Json
  | required type, value => some (type.encode value)
  | optional type, value => value.map type.encode
  | repeated type, values => some (.array (values.map type.encode))
  | tag _, value => value.map TagSet.toJson

/-- **A member of a scheme is written as its tag**, so what is written can be read. -/
theorem TagSet.toJson_eq_tag {scheme : Scheme} (member : scheme.Carrier) :
    toJson member = .string (tag member) := by
  cases scheme <;> cases member <;> rfl

/-- A field is written as one member at most. -/
theorem Content.mem_members {content : Content} {taken : content.Carrier} {name other : String}
    {value : Json} :
    (other, value) ∈ content.members name taken ↔ name = other ∧ content.encode taken = some value := by
  cases content with
  | required type => simp [members, encode, eq_comm]
  | optional type => cases taken <;> simp [members, encode, Json.optional, eq_comm]
  | repeated type => simp [members, encode, eq_comm]
  | tag scheme => cases taken <;> simp [members, encode, Json.optional, eq_comm]

/-- The members of a row are those of its entries. -/
theorem Row.mem_members {fields : List Field} {row : Row fields} {name : String} {value : Json} :
    (name, value) ∈ members fields row ↔
      ∃ entry ∈ entries fields row,
        entry.field.name = name ∧ entry.field.content.encode entry.content = some value := by
  induction fields with
  | nil => simp [members, entries]
  | cons field fields ih =>
    rw [members, entries, List.mem_append, List.exists_mem_cons_iff, Content.mem_members, ih]

/-- The members in front of the fields: the name of an indicator. -/
def ElementKind.head : ElementKind → List (String × Json)
  | indicator name => [("name", .string name.label)]
  | _ => []

theorem Literature.toJson_ofRow (row : Row fields) :
    (ofRow row).toJson = .object (Row.members fields row) := by
  refine congrArg Json.object ((List.append_nil _).symm.trans ?_)
  simp only [List.append_assoc, List.cons_append]
  rfl

theorem VelocityLayer.toJson_ofRow (row : Row fields) :
    (ofRow row).toJson = .object (Row.members fields row) :=
  rfl

theorem VelocityProfile.toJson_ofRow (row : Row fields) :
    (ofRow row).toJson = .object (Row.members fields row) :=
  rfl

theorem Indicator.toJson_ofCommonRow (detail : IndicatorDetail) (row : Row commonFields) :
    (ofCommonRow detail row).toJson = .object (detail.members ++ Row.members commonFields row) := by
  refine congrArg Json.object ((List.append_nil _).symm.trans ?_)
  simp only [List.append_assoc, List.cons_append]
  rfl

/-- An indicator is written field by field behind its name. -/
theorem Indicator.toJson_ofRow (name : IndicatorName) (row : Row (fields name)) :
    (ofRow name row).toJson =
      .object (("name", .string name.label) :: Row.members (fields name) row) := by
  cases name with
  | geologicalUnit =>
    obtain ⟨scale, unit, row⟩ := row
    refine (toJson_ofCommonRow (.geologicalUnit scale unit) row).trans (congrArg Json.object ?_)
    simp only [IndicatorDetail.members, List.append_assoc, List.cons_append]
    rfl
  | velocityS30 =>
    obtain ⟨combined, manual, row⟩ := row
    refine (toJson_ofCommonRow (.velocityS30 combined manual) row).trans (congrArg Json.object ?_)
    simp only [IndicatorDetail.members, List.append_assoc, List.cons_append]
    rfl
  | _ => exact toJson_ofCommonRow _ row

theorem Description.toJson_ofRow (row : Row fields) :
    (ofRow row).toJson = .object (Row.members fields row) := by
  refine congrArg Json.object ((List.append_nil _).symm.trans ?_)
  simp only [List.append_assoc, List.cons_append]
  rfl

theorem Characterization.toJson_ofRow (row : Row fields) :
    (ofRow row).toJson = .object (Row.members fields row) := by
  refine congrArg Json.object ((List.append_nil _).symm.trans ?_)
  simp only [List.append_assoc, List.cons_append]
  rfl

/-- **A site is written field by field.** -/
theorem Site.toJson_ofRow (row : Row fields) :
    (ofRow row).toJson = .object (Row.members fields row) := by
  refine congrArg Json.object ((List.append_nil _).symm.trans ?_)
  simp only [List.append_assoc, List.cons_append]
  rfl

/-- **An element is written field by field**, whatever its kind. -/
theorem ElementKind.toJson_ofRow (kind : ElementKind) (row : Row kind.fields) :
    (kind.toElement (kind.ofRow row)).toJson = .object (kind.head ++ Row.members kind.fields row) := by
  cases kind with
  | literature => exact Literature.toJson_ofRow row
  | indicator name => exact Indicator.toJson_ofRow name row
  | layer => exact VelocityLayer.toJson_ofRow row
  | profile => exact VelocityProfile.toJson_ofRow row
  | description => exact Description.toJson_ofRow row
  | characterization => exact Characterization.toJson_ofRow row

end SeismicSite
