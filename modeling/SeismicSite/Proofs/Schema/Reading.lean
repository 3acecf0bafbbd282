import SeismicSite.Proofs.Success
import SeismicSite.Schema.Row
/-!
# What a field takes

`Takes` says, without mention of errors, what a type or a field content gets
out of what it finds: it is the graph of a successful `read`. The readers of
one field are tied to it here once; whole schemas are read off it.
-/

namespace SeismicSite

/-- The type accepts the value and stands for `content` in it. -/
def FieldType.Takes (type : FieldType) (value : FieldValue) (content : type.Carrier) : Prop :=
  value.kind ∈ type.expected ∧ type.unwrap value = .ok content

/-- The field accepts what it finds and gets `content` out of it. -/
def Content.Takes : (content : Content) → Option FieldValue → content.Carrier → Prop
  | .required _, none, _ => False
  | .required type, some value, taken => type.Takes value taken
  | .optional _, none, taken => taken = none
  | .optional type, some value, taken => ∃ one, type.Takes value one ∧ taken = some one
  | .repeated _, none, taken => taken = []
  | .repeated type, some (.list items), taken => List.Forall₂ type.Takes items taken
  | .repeated type, some value, taken => ∃ one, type.Takes value one ∧ taken = [one]
  | .tag _, none, taken => taken = none
  | .tag scheme, some value, taken =>
    ∃ text member, value = .text text ∧ TagSet.ofTag? text = some member ∧
      taken = some (member : scheme.Carrier)

/-- The type of the values of a field. -/
def Content.type : Content → FieldType
  | required type => type
  | optional type => type
  | repeated type => type
  | tag _ => .text

namespace FieldType

/-- A type accepts a value of one of its kinds whose content it can unwrap. -/
theorem read_eq_ok {type : FieldType} {field : String} {value : FieldValue}
    {content : type.Carrier} : type.read field value = .ok content ↔ type.Takes value content := by
  have hkind : expectKind field type.expected value = .ok value ↔
      value.kind ∈ type.expected := by
    simp only [expectKind, HasKind.kind]
    split <;> simp_all
  by_cases h : value.kind ∈ type.expected
  · simp [read, bind_eq_ok, hkind.mpr h, mapError_eq_ok, Takes, h]
  · simp [read, expectKind, HasKind.kind, Takes, h, bind_eq_ok]

/-- No type accepts a list: lists belong to repeated fields. -/
theorem not_takes_list {type : FieldType} {items : List FieldValue} {content : type.Carrier} :
    ¬ type.Takes (.list items) content := by
  rintro ⟨h, -⟩
  cases type <;> simp [FieldValue.kind, expected] at h

@[simp] theorem takes_text {value : FieldValue} {content : String} :
    text.Takes value content ↔ value = .text content := by
  cases value <;> simp [Takes, expected, FieldValue.kind, unwrap]

/-! What each shape of value can be accepted as. -/

theorem exists_takes_text {type : FieldType} {value : String} :
    (∃ content, type.Takes (.text value) content) ↔ type = .text ∨ type = .reading := by
  cases type <;> simp [Takes, expected, FieldValue.kind, unwrap]

theorem exists_takes_float {type : FieldType} {value : Float} :
    (∃ content, type.Takes (.float value) content) ↔ type = .number ∨ type = .reading := by
  cases type <;> simp [Takes, expected, FieldValue.kind, unwrap]

theorem exists_takes_integer {type : FieldType} {value : Int64} :
    (∃ content, type.Takes (.integer value) content) ↔
      type = .number ∨ type = .integer ∨ type = .reading ∨
        type = .year ∧ Int32.minValue.toInt ≤ value.toInt ∧
          value.toInt ≤ Int32.maxValue.toInt := by
  cases type with
  | year =>
    by_cases h : Int32.minValue.toInt ≤ value.toInt ∧ value.toInt ≤ Int32.maxValue.toInt
    · have hfits : narrow? value = some (Int32.ofInt value.toInt) := if_pos h
      simp only [Takes, unwrap, hfits, h]
      simp [expected, FieldValue.kind]
    · have hover : narrow? value = none := if_neg h
      simp only [Takes, unwrap, hover, h]
      simp
  | _ => simp [Takes, expected, FieldValue.kind, unwrap]

theorem exists_takes_element {type : FieldType} {value : Element} :
    (∃ content, type.Takes (.element value) content) ↔ type = .element value.kind := by
  cases type with
  | element kind =>
    cases kind <;> cases value <;>
      simp [Takes, expected, FieldValue.kind, Element.kind, unwrap, eq_comm]
  | _ => simp [Takes, unwrap]

/-- An element is content of the type of its kind. -/
theorem takes_toElement {kind : ElementKind} {one : kind.Carrier}
    (h : (kind.toElement one).kind = kind) :
    (element kind).Takes (.element (kind.toElement one)) one := by
  refine ⟨?_, ?_⟩
  · rw [FieldValue.kind, h]
    exact List.mem_cons_self
  · cases kind <;> rfl

/-- An element that is taken is the value itself. -/
theorem eq_toElement_of_unwrap {kind : ElementKind} {value : FieldValue} {content : kind.Carrier}
    (h : (element kind).unwrap value = .ok content) :
    value = .element (kind.toElement content) := by
  cases value with
  | element one => cases kind <;> cases one <;> simp_all [unwrap, ElementKind.toElement]
  | _ => simp [unwrap] at h

/-- An element is content of its own type only as itself. -/
theorem eq_of_takes_toElement {kind : ElementKind} {one content : kind.Carrier}
    (h : (element kind).Takes (.element (kind.toElement one)) content) : content = one := by
  obtain ⟨-, hunwrap⟩ := h
  cases kind <;> exact (Except.ok.inj hunwrap).symm

/-- Unwrapping undoes wrapping. -/
theorem unwrap_wrap {type : FieldType} (content : type.Carrier) :
    type.unwrap (type.wrap content) = .ok content := by
  cases type with
  | year =>
    have hnarrow : narrow? content.toInt64 = some content := by
      rw [narrow?, Int32.toInt_toInt64, if_pos ⟨content.minValue_le_toInt, content.toInt_le⟩,
        Int32.ofInt_toInt]
    rw [wrap, unwrap, hnarrow]
  | reading => cases content <;> rfl
  | element kind => cases kind <;> rfl
  | _ => rfl

/-- **A content is taken from the value that holds it**; only an indicator has a
kind that is not told by the type. -/
theorem takes_wrap {type : FieldType} (htype : ∀ name, type ≠ .element (.indicator name))
    (content : type.Carrier) : type.Takes (type.wrap content) content := by
  refine ⟨?_, unwrap_wrap content⟩
  cases type with
  | reading => cases content <;> simp [wrap, FieldValue.kind, expected]
  | element kind =>
    cases kind with
    | indicator name => exact absurd rfl (htype name)
    | _ => exact List.mem_cons_self
  | _ => exact List.mem_cons_self

end FieldType

/-- The tags of a set are the words that it can read. -/
theorem TagSet.mem_tags_iff {α : Type} [TagSet α] {text : String} :
    text ∈ tags α ↔ ∃ member : α, ofTag? text = some member := by
  rw [← Option.isSome_iff_exists, ofTag?, List.find?_isSome, tags, List.mem_map]
  simp only [beq_iff_eq]

/-- The word that a member was read from is its tag. -/
theorem TagSet.tag_eq_of_ofTag? {α : Type} [TagSet α] {text : String} {member : α}
    (h : ofTag? text = some member) : tag member = text := by
  have hfound := List.find?_some h
  exact beq_iff_eq.mp hfound

/-- A tag is read as the member that it is written for. -/
theorem TagSet.ofTag?_tag {scheme : Scheme} (member : scheme.Carrier) :
    ofTag? (tag member) = some member := by
  cases scheme <;> cases member <;> decide

/-- A word is accepted exactly if it is a tag of the set. -/
theorem expectTag_eq_ok {α : Type} [TagSet α] {field text : String} {member : α} :
    expectTag α field text = .ok member ↔ TagSet.ofTag? text = some member := by
  unfold expectTag
  split <;> simp_all

namespace Content

/-- **A field reads exactly what its content takes.** -/
theorem read_eq_ok (field : String) {content : Content} {found : Option FieldValue}
    {taken : content.Carrier} :
    content.read field found = .ok taken ↔ content.Takes found taken := by
  cases content with
  | required type =>
    cases found with
    | none => simp [read, Takes]
    | some value => exact FieldType.read_eq_ok
  | optional type =>
    cases found with
    | none => simp [read, Takes, eq_comm]
    | some value => simp only [read, Takes, map_eq_ok, FieldType.read_eq_ok]
  | repeated type =>
    cases found with
    | none => simp [read, Takes, eq_comm]
    | some value =>
      cases value with
      | list items => simp only [read, Takes, mapM_eq_ok_iff, FieldType.read_eq_ok]
      | _ => simp only [read, Takes, map_eq_ok, FieldType.read_eq_ok, List.singleton]
  | tag scheme =>
    cases found with
    | none => simp [read, Takes, eq_comm]
    | some value =>
      simp only [read, Takes, bind_eq_ok, map_eq_ok, expectTag_eq_ok]
      constructor
      · rintro ⟨text, htext, member, hmember, rfl⟩
        exact ⟨text, member, FieldType.takes_text.mp (FieldType.read_eq_ok.mp htext), hmember, rfl⟩
      · rintro ⟨text, member, htext, hmember, rfl⟩
        exact ⟨text, FieldType.read_eq_ok.mpr (FieldType.takes_text.mpr htext), member, hmember, rfl⟩

/-- A repeated field takes a value that is no list as its only item. -/
theorem takes_repeated_single {type : FieldType} {found : FieldValue} {taken : List type.Carrier}
    (h : ∀ items, found ≠ .list items) :
    (repeated type).Takes (some found) taken ↔
      ∃ one, type.Takes found one ∧ taken = [one] := by
  cases found with
  | list items => exact absurd rfl (h items)
  | _ => rfl

end Content

end SeismicSite
