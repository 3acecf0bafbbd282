import Mathlib.Algebra.Order.Ring.Int
import SeismicSite.Proofs.Schema.Complaint
/-!
# Type errors that make sense

A field that is rejected for its type either is not there though it must be, or is of
a kind that the error does not list. There is one exception: a year is asked to be an
integer, and an integer of more than 32 bits is rejected as an integer. So a value of
an accepted kind can be unwrapped everywhere but there (`FieldType.exists_rejects_iff`),
and no field but the year of a literature source is of that type
(`EntityKind.eq_year_of_type`).
-/

namespace SeismicSite

/-! ## One value -/

/-- An integer that is no year: it does not fit 32 bits with a sign. -/
def OutOfRange (n : Int64) : Prop :=
  n.toInt < -2 ^ 31 ∨ 2 ^ 31 - 1 < n.toInt

namespace FieldType

/-- An integer is a year exactly if it is not out of range. -/
theorem conforms_year_integer {n : Int64} : year.Conforms (.integer n) ↔ ¬ OutOfRange n := by
  have hmin : Int32.minValue.toInt = -2 ^ 31 := by decide
  have hmax : Int32.maxValue.toInt = 2 ^ 31 - 1 := by decide
  rw [Conforms, OutOfRange, hmin, hmax]
  omega

/-- **Of an accepted kind only a year is rejected**, and it is out of range. -/
theorem eq_year_of_not_conforms {type : FieldType} {value : FieldValue}
    (hkind : value.kind ∈ type.expected) (h : ¬ type.Conforms value) :
    type = year ∧ ∃ n, value = .integer n ∧ OutOfRange n := by
  cases type with
  | year =>
    cases value with
    | integer n => exact ⟨rfl, n, rfl, not_not.mp (mt conforms_year_integer.mpr h)⟩
    | _ => simp [expected, FieldValue.kind] at hkind
  | _ => exact absurd hkind h

/-- **A value of an accepted kind is handed back exactly if it is to be a year** and
out of range. -/
theorem exists_rejects_iff {type : FieldType} {value : FieldValue}
    (hkind : value.kind ∈ type.expected) :
    (∃ rejected, type.unwrap value = .error rejected) ↔
      type = year ∧ ∃ n, value = .integer n ∧ OutOfRange n := by
  have hconforms : (∃ content, type.unwrap value = .ok content) ↔ type.Conforms value := by
    rw [← exists_takes_iff_conforms]
    simp only [Takes, hkind, true_and]
  rw [exists_error_iff, hconforms]
  refine ⟨eq_year_of_not_conforms hkind, ?_⟩
  rintro ⟨rfl, n, rfl, hrange⟩ hfits
  exact conforms_year_integer.mp hfits hrange

end FieldType

/-! ## One field -/

namespace Content

/-- What the kind in a type error is that of. -/
inductive Blames : Content → Option FieldValue → Option ValueKind → Prop
  /-- Of nothing, where a value is required. -/
  | missing {type : FieldType} : Blames (.required type) none none
  | value {content : Content} {value : FieldValue} :
      ¬ content.type.Conforms value → Blames content (some value) (some value.kind)
  | item {type : FieldType} {items : List FieldValue} {item : FieldValue} :
      item ∈ items → ¬ type.Conforms item →
      Blames (.repeated type) (some (.list items)) (some item.kind)

/-- **A type error of a field** lists the kinds that the field accepts and blames a
value that does not conform, or that there is none. -/
theorem blames_of_complaint {content : Content} {name field : String}
    {found : Option FieldValue} {expected : List ValueKind} {actual : Option ValueKind}
    (hnot : ¬ content.Conforms found)
    (h : content.complaint name found = .typeMismatch field expected actual) :
    field = name ∧ expected = content.type.expected ∧ content.Blames found actual := by
  cases found with
  | none =>
    cases content with
    | required type =>
      obtain ⟨rfl, rfl, rfl⟩ := FieldError.typeMismatch.inj h
      exact ⟨rfl, rfl, .missing⟩
    | _ => exact absurd trivial hnot
  | some value =>
    have hvalue (hsame : content.complaint name (some value) =
          .typeMismatch name content.type.expected (some value.kind))
        (hvalue : ¬ content.type.Conforms value) :
        field = name ∧ expected = content.type.expected ∧ content.Blames (some value) actual := by
      obtain ⟨rfl, rfl, rfl⟩ := FieldError.typeMismatch.inj (hsame.symm.trans h)
      exact ⟨rfl, rfl, .value hvalue⟩
    cases content with
    | required type => exact hvalue rfl hnot
    | optional type => exact hvalue rfl hnot
    | repeated type =>
      cases value with
      | list items =>
        obtain ⟨rfl, rfl, rfl⟩ := FieldError.typeMismatch.inj h
        -- the items do not all conform, so the search for one that does not finds one
        cases hfind : items.find? fun item => ¬ type.Conforms item with
        | none =>
          refine absurd (fun item hmem => ?_) hnot
          simpa using List.find?_eq_none.mp hfind item hmem
        | some item =>
          have hitem : ¬ type.Conforms item := by simpa using List.find?_some hfind
          exact ⟨rfl, rfl, .item (List.mem_of_find?_eq_some hfind) hitem⟩
      | _ => exact hvalue rfl hnot
    | tag scheme =>
      cases value with
      | text s => cases h
      | _ => exact hvalue rfl (by simp [type, FieldType.Conforms, FieldType.expected, FieldValue.kind])

end Content

/-! ## An entity -/

/-- A type error that makes sense, said of a field of the kind where `find` gives what
is found under a name. -/
inductive Sensible (kind : EntityKind) (find : String → Option FieldValue) (field : String)
    (expected : List ValueKind) : Option ValueKind → Prop
  /-- The field must be there, and nothing is found. -/
  | missing {type : FieldType} :
      ⟨field, .required type⟩ ∈ kind.fields → find field = none →
      Sensible kind find field expected none
  | otherKind {actual : ValueKind} :
      actual ∉ expected → Sensible kind find field expected (some actual)
  /-- The one error that blames a kind which it lists. -/
  | year {n : Int64} :
      kind = .element .literature → field = "year" → find "year" = some (.integer n) →
      OutOfRange n → Sensible kind find field expected (some .integer)

namespace EntityKind

/-- **Only a literature source has a year**, and it is an optional field. -/
theorem eq_year_of_type {kind : EntityKind} {field : Field} (hfield : field ∈ kind.fields)
    (htype : field.content.type = .year) :
    kind = .element .literature ∧ field = ⟨"year", .optional .year⟩ := by
  have hyears : ∀ kind ∈ all, ∀ field ∈ kind.fields, field.content.type = .year →
      kind = .element .literature ∧ field = ⟨"year", .optional .year⟩ := by decide
  exact hyears kind kind.mem_all field hfield htype

/-- **A complaint about a type makes sense.** -/
theorem sensible_of_complains {kind : EntityKind} {find : String → Option FieldValue}
    {field : String} {expected : List ValueKind} {actual : Option ValueKind}
    (h : Complains kind.fields find (.typeMismatch field expected actual)) :
    Sensible kind find field expected actual := by
  obtain ⟨before, ⟨name, content⟩, after, hsplit, -, hnot, herror⟩ := h
  have hfield : ⟨name, content⟩ ∈ kind.fields :=
    hsplit ▸ List.mem_append_right _ List.mem_cons_self
  obtain ⟨rfl, rfl, hblames⟩ := Content.blames_of_complaint hnot herror.symm
  generalize hfound : find field = found at hblames
  cases hblames with
  | missing => exact .missing hfield hfound
  | @value _ value hvalue =>
    by_cases hkind : value.kind ∈ content.type.expected
    · obtain ⟨htype, n, rfl, hrange⟩ := FieldType.eq_year_of_not_conforms hkind hvalue
      obtain ⟨rfl, heq⟩ := eq_year_of_type hfield htype
      obtain rfl := congrArg Field.name heq
      exact .year rfl rfl hfound hrange
    · exact .otherKind hkind
  | @item type _ item _ hitem =>
    -- a year is not repeated, so an item that does not conform is of another kind
    have hkind : item.kind ∉ type.expected := fun hkind => by
      obtain ⟨rfl, -⟩ := FieldType.eq_year_of_not_conforms hkind hitem
      cases (eq_year_of_type hfield rfl).2
    exact .otherKind hkind

/-- **A source with a year out of range is rejected for it**, if nothing before it is
at fault. -/
theorem take_literature_eq_error {record : Record} {title : String} {n : Int64}
    (htitle : record.get? "title" = some (.text title))
    (hauthors : ∀ name ∈ ["firstAuthor", "secondaryAuthors"],
      (Content.optional .text).Conforms (record.get? name))
    (hyear : record.get? "year" = some (.integer n)) (hrange : OutOfRange n) :
    ((element .literature).take record).result =
      .error (.typeMismatch "year" [.integer] (some .integer)) := by
  obtain ⟨hfirst, hsecond⟩ := List.forall_mem_cons.mp hauthors
  refine take_eq_error.mpr ⟨Literature.fields.take 3, ⟨"year", .optional .year⟩,
    Literature.fields.drop 4, rfl, ?_, ?_, ?_⟩
  · have htext : (Content.required .text).Conforms (record.get? "title") := by
      rw [htitle]
      exact List.mem_cons_self
    simpa [Literature.fields] using ⟨htext, hfirst, hsecond _ List.mem_cons_self⟩
  · rw [hyear]
    exact fun hfits => FieldType.conforms_year_integer.mp hfits hrange
  · rw [hyear]
    rfl

end EntityKind

/-! ## The slots -/

/-- **An indicator that a slot does not accept is of another kind than the slot.** -/
theorem Slot.typeMismatch_of_accept {slot : Slot} {occupant : Option Indicator}
    {field : String} {expected : List ValueKind} {actual : Option ValueKind}
    (h : slot.accept occupant = .error (.typeMismatch field expected actual)) :
    ∃ kind, actual = some kind ∧ kind ∉ expected := by
  cases occupant with
  | none => cases h
  | some indicator =>
    rw [accept, checkKind, map_eq_error, expectKind] at h
    split at h
    · cases h
    · rename_i hkind
      obtain ⟨rfl, rfl, rfl⟩ := FieldError.typeMismatch.inj (Except.error.inj h)
      exact ⟨_, rfl, hkind⟩

/-- So is an indicator for which a description is not accepted. -/
theorem Description.typeMismatch_of_checked {description : Description} {field : String}
    {expected : List ValueKind} {actual : Option ValueKind}
    (h : description.checked = .error (.typeMismatch field expected actual)) :
    ∃ kind, actual = some kind ∧ kind ∉ expected := by
  simp only [checked, bind_eq_error, pure, Except.pure, reduceCtorEq, and_false, exists_false,
    or_false] at h
  rcases h with h | ⟨_, -, h | ⟨_, -, h | ⟨_, -, h⟩⟩⟩ <;> exact Slot.typeMismatch_of_accept h

/-- And one for which a characterization is not. -/
theorem Characterization.typeMismatch_of_checked {parameters : Characterization}
    {field : String} {expected : List ValueKind} {actual : Option ValueKind}
    (h : parameters.checked = .error (.typeMismatch field expected actual)) :
    ∃ kind, actual = some kind ∧ kind ∉ expected := by
  simp only [checked, bind_eq_error, pure, Except.pure, reduceCtorEq, and_false, exists_false,
    or_false] at h
  rcases h with h | ⟨_, -, h⟩ <;> exact Slot.typeMismatch_of_accept h

end SeismicSite
