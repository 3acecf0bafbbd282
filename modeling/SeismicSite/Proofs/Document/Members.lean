import SeismicSite.Proofs.Json.Induction
import SeismicSite.Proofs.Schema.Lookup
import SeismicSite.Proofs.Schema.Take
import SeismicSite.Document.Reader
/-!
# What the reader finds in arrays and objects

The reader goes through items and members one by one. Where it succeeds, an
array holds the readings of its items in order, and the record of an object
maps every name but `type` to the reading of the member under it. An object is
then built exactly if its kind can read the record and declares all of its
names.
-/

namespace SeismicSite

namespace Document

/-! ## Arrays -/

/-- **Items are read exactly if every one is**, item by item. -/
theorem readEach_eq_ok {α : Type} {readItem : Json → Except Finding α} {index : Nat}
    {items : List Json} {values : List α} :
    readEach readItem index items = .ok values ↔
      List.Forall₂ (fun item value => readItem item = .ok value) items values := by
  induction items generalizing index values with
  | nil => simp [readEach, List.forall₂_nil_left_iff, eq_comm]
  | cons item items ih =>
    simp only [readEach, bind_eq_ok, mapError_eq_ok, pure_eq_ok, ih, List.forall₂_cons_left_iff]
    constructor
    · rintro ⟨value, hvalue, rest, hrest, rfl⟩
      exact ⟨value, rest, hvalue, hrest, rfl⟩
    · rintro ⟨value, rest, hvalue, hrest, rfl⟩
      exact ⟨value, hvalue, rest, hrest, rfl⟩

/-- An array inside a site is read like an array of sites, item by item. -/
theorem readItems_eq_readEach {index : Nat} {items : List Json} :
    readItems index items = readEach readValue index items := by
  induction items generalizing index with
  | nil => rfl
  | cons item items ih => rw [readItems, readEach, ih]

theorem readItems_eq_ok {index : Nat} {items : List Json} {values : List FieldValue} :
    readItems index items = .ok values ↔
      List.Forall₂ (fun item value => readValue item = .ok value) items values := by
  rw [readItems_eq_readEach, readEach_eq_ok]

/-! ## Members -/

/-- The members of an object that stand for fields. -/
def fieldMembers (members : List (String × Json)) : List (String × Json) :=
  members.filter fun member => member.1 ≠ typeMember

theorem mem_fieldMembers {members : List (String × Json)} {name : String} {content : Json} :
    (name, content) ∈ fieldMembers members ↔ (name, content) ∈ members ∧ name ≠ typeMember := by
  simp [fieldMembers]

/-- **The members are read exactly if every one but the type is**, one by
one and under their own names. -/
theorem readMembers_eq_ok {members : List (String × Json)}
    {fields : List (String × FieldValue)} :
    readMembers members = .ok fields ↔
      List.Forall₂ (fun member field => member.1 = field.1 ∧ readValue member.2 = .ok field.2)
        (fieldMembers members) fields := by
  induction members generalizing fields with
  | nil => simp [readMembers, fieldMembers, List.forall₂_nil_left_iff, eq_comm]
  | cons member members ih =>
    obtain ⟨name, content⟩ := member
    by_cases htype : name = typeMember
    · simp only [readMembers, htype, if_true, ih, fieldMembers]
      simp
    · have hcons : fieldMembers ((name, content) :: members) =
          (name, content) :: fieldMembers members := by
        simp [fieldMembers, htype]
      simp only [readMembers, htype, if_false, bind_eq_ok, mapError_eq_ok, pure_eq_ok, ih, hcons,
        List.forall₂_cons_left_iff]
      constructor
      · rintro ⟨value, hvalue, rest, hrest, rfl⟩
        exact ⟨(name, value), rest, ⟨rfl, hvalue⟩, hrest, rfl⟩
      · rintro ⟨⟨name', value⟩, rest, ⟨rfl, hvalue⟩, hrest, rfl⟩
        exact ⟨value, hvalue, rest, hrest, rfl⟩

/-- The members can be read exactly if each but the type can. -/
theorem exists_readMembers_iff {members : List (String × Json)} :
    (∃ fields, readMembers members = .ok fields) ↔
      ∀ name content, (name, content) ∈ members → name ≠ typeMember →
        ∃ value, readValue content = .ok value := by
  simp only [readMembers_eq_ok, exists_forall₂_iff, Prod.forall, Prod.exists, mem_fieldMembers]
  constructor
  · intro h name content hmem htype
    obtain ⟨_, value, rfl, hvalue⟩ := h name content ⟨hmem, htype⟩
    exact ⟨value, hvalue⟩
  · rintro h name content ⟨hmem, htype⟩
    obtain ⟨value, hvalue⟩ := h name content hmem htype
    exact ⟨name, value, rfl, hvalue⟩

/-- **The record of an object**: under every name but `type`, the reading of
the member of that name. -/
theorem get?_readMembers_eq_some {members : List (String × Json)} {fields : List (String × FieldValue)}
    (hnodup : (members.map Prod.fst).Nodup) (h : readMembers members = .ok fields)
    {name : String} {value : FieldValue} :
    (Record.ofList fields).get? name = some value ↔
      name ≠ typeMember ∧ ∃ content, (name, content) ∈ members ∧ readValue content = .ok value := by
  have hread := readMembers_eq_ok.mp h
  have hnames : (fieldMembers members).map Prod.fst = fields.map Prod.fst := by
    rw [← List.forall₂_eq_eq_eq, List.forall₂_map_left_iff, List.forall₂_map_right_iff]
    exact hread.imp fun _ _ hfield => hfield.1
  -- the type is left out, and what is left of distinct names is distinct
  have hfields : (fields.map Prod.fst).Nodup := by
    rw [← hnames]
    exact hnodup.sublist (List.filter_sublist.map _)
  rw [Record.get?_ofList hfields, Json.lookup_eq_some_iff hfields]
  have hunique : Relator.RightUnique fun (member : String × Json) (field : String × FieldValue) =>
      member.1 = field.1 ∧ readValue member.2 = .ok field.2 := by
    rintro ⟨_, _⟩ ⟨_, _⟩ ⟨_, _⟩ ⟨rfl, h₁⟩ ⟨rfl, h₂⟩
    exact congrArg _ (Except.ok.inj (h₁.symm.trans h₂))
  rw [mem_results_iff hunique hread]
  constructor
  · rintro ⟨⟨name, content⟩, hmem, rfl, hvalue⟩
    obtain ⟨hmem, htype⟩ := mem_fieldMembers.mp hmem
    exact ⟨htype, content, hmem, hvalue⟩
  · rintro ⟨htype, content, hmem, hvalue⟩
    exact ⟨(name, content), mem_fieldMembers.mpr ⟨hmem, htype⟩, rfl, hvalue⟩

/-- What is missing in the record is missing in the object. -/
theorem get?_readMembers_eq_none {members : List (String × Json)} {fields : List (String × FieldValue)}
    (hnodup : (members.map Prod.fst).Nodup) (h : readMembers members = .ok fields) {name : String}
    (htype : name ≠ typeMember) :
    (Record.ofList fields).get? name = none ↔ ∀ content, (name, content) ∉ members := by
  constructor
  · intro hnone content hmem
    obtain ⟨value, hvalue⟩ := exists_readMembers_iff.mp ⟨fields, h⟩ name content hmem htype
    rw [(get?_readMembers_eq_some hnodup h).mpr ⟨htype, content, hmem, hvalue⟩] at hnone
    cases hnone
  · intro hmissing
    refine Option.eq_none_iff_forall_ne_some.mpr fun value hvalue => ?_
    obtain ⟨-, content, hmem, -⟩ := (get?_readMembers_eq_some hnodup h).mp hvalue
    exact hmissing content hmem

end Document

end SeismicSite
