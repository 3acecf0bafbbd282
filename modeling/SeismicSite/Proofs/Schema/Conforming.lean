import SeismicSite.Proofs.Schema.Take
/-!
# Records that conform

What a record must hold to make an entity, said of the kinds of its values and
of the tags alone. A field conforms if what is found under its name does, and an
entity is made exactly of the records whose fields all conform; fields that the
kind does not declare play no part in it.
-/

namespace SeismicSite

namespace FieldType

/-- The value is one of the type: its kind is among those that the type
accepts, and a year fits 32 bits besides. -/
def Conforms : FieldType → FieldValue → Prop
  | year, .integer n => Int32.minValue.toInt ≤ n.toInt ∧ n.toInt ≤ Int32.maxValue.toInt
  | year, _ => False
  | type, value => value.kind ∈ type.expected

instance instDecidableConforms : (type : FieldType) → (value : FieldValue) →
    Decidable (type.Conforms value)
  | year, .integer _ => inferInstanceAs (Decidable (_ ∧ _))
  | year, .text _ => .isFalse id
  | year, .float _ => .isFalse id
  | year, .list _ => .isFalse id
  | year, .element _ => .isFalse id
  | text, value => inferInstanceAs (Decidable (value.kind ∈ _))
  | number, value => inferInstanceAs (Decidable (value.kind ∈ _))
  | integer, value => inferInstanceAs (Decidable (value.kind ∈ _))
  | reading, value => inferInstanceAs (Decidable (value.kind ∈ _))
  | element _, value => inferInstanceAs (Decidable (value.kind ∈ _))

/-- **A type has a content in exactly the values that conform.** -/
theorem exists_takes_iff_conforms {type : FieldType} {value : FieldValue} :
    (∃ content, type.Takes value content) ↔ type.Conforms value := by
  cases value with
  | text s =>
    rw [exists_takes_text]
    cases type <;> simp [Conforms, expected, FieldValue.kind]
  | float x =>
    rw [exists_takes_float]
    cases type <;> simp [Conforms, expected, FieldValue.kind]
  | integer n =>
    rw [exists_takes_integer]
    cases type <;> simp [Conforms, expected, FieldValue.kind]
  | list items =>
    simp only [not_takes_list, exists_false, false_iff]
    cases type <;> simp [Conforms, expected, FieldValue.kind]
  | element one =>
    rw [exists_takes_element]
    cases type <;> simp [Conforms, expected, FieldValue.kind, eq_comm]

end FieldType

namespace Content

/-- What is found under the name of a field conforms: a required field is
there, every item of a list is of the type, and so is a value that stands alone;
a tag is a text of its set. -/
def Conforms : Content → Option FieldValue → Prop
  | required _, none => False
  | required type, some value => type.Conforms value
  | optional _, none => True
  | optional type, some value => type.Conforms value
  | repeated _, none => True
  | repeated type, some (.list items) => ∀ item ∈ items, type.Conforms item
  | repeated type, some value => type.Conforms value
  | tag _, none => True
  | tag scheme, some (.text text) => text ∈ TagSet.tags scheme.Carrier
  | tag _, some _ => False

instance instDecidableConforms : (content : Content) → (found : Option FieldValue) →
    Decidable (content.Conforms found)
  | required _, none => .isFalse id
  | optional _, none => .isTrue trivial
  | repeated _, none => .isTrue trivial
  | tag _, none => .isTrue trivial
  | required type, some value => inferInstanceAs (Decidable (type.Conforms value))
  | optional type, some value => inferInstanceAs (Decidable (type.Conforms value))
  | repeated type, some (.list items) =>
    inferInstanceAs (Decidable (∀ item ∈ items, type.Conforms item))
  | repeated type, some (.text s) => inferInstanceAs (Decidable (type.Conforms (.text s)))
  | repeated type, some (.float x) => inferInstanceAs (Decidable (type.Conforms (.float x)))
  | repeated type, some (.integer n) => inferInstanceAs (Decidable (type.Conforms (.integer n)))
  | repeated type, some (.element e) => inferInstanceAs (Decidable (type.Conforms (.element e)))
  | tag scheme, some (.text text) =>
    inferInstanceAs (Decidable (text ∈ TagSet.tags scheme.Carrier))
  | tag _, some (.float _) => .isFalse id
  | tag _, some (.integer _) => .isFalse id
  | tag _, some (.list _) => .isFalse id
  | tag _, some (.element _) => .isFalse id

/-- **A field can be read exactly if what it finds conforms.** -/
theorem exists_takes_iff_conforms {content : Content} {found : Option FieldValue} :
    (∃ taken, content.Takes found taken) ↔ content.Conforms found := by
  have hsome : ∀ {type : FieldType} {value : FieldValue} {wrapped : type.Carrier → content.Carrier},
      (∃ taken, ∃ one, type.Takes value one ∧ taken = wrapped one) ↔ type.Conforms value := by
    intro type value wrapped
    rw [exists_comm, ← FieldType.exists_takes_iff_conforms]
    simp only [exists_and_left, exists_eq, and_true]
  cases content with
  | required type =>
    cases found with
    | none => simp [Takes, Conforms]
    | some value => exact FieldType.exists_takes_iff_conforms
  | optional type =>
    cases found with
    | none => simp [Takes, Conforms]
    | some value => exact hsome
  | repeated type =>
    cases found with
    | none => simp [Takes, Conforms]
    | some value =>
      cases value with
      | list items =>
        simp only [Takes, Conforms, exists_forall₂_iff, FieldType.exists_takes_iff_conforms]
      | _ => exact hsome
  | tag scheme =>
    cases found with
    | none => simp [Takes, Conforms]
    | some value => cases value <;> simp [Takes, Conforms, TagSet.mem_tags_iff]

end Content

/-- **An entity is made exactly of a record whose fields all conform.** -/
theorem EntityKind.exists_take_iff {kind : EntityKind} {record : Record} :
    (∃ entity, (kind.take record).result = .ok entity) ↔
      ∀ field ∈ kind.fields, field.content.Conforms (record.get? field.name) := by
  simp only [take_eq_ok, ← Content.exists_takes_iff_conforms, ← Row.exists_takes_iff]
  constructor
  · rintro ⟨_, row, hrow, -⟩
    exact ⟨row, hrow⟩
  · rintro ⟨row, hrow⟩
    exact ⟨_, row, hrow, rfl⟩

end SeismicSite
