import Mathlib.Data.List.Sort
import SeismicSite.Proofs.Schema.Complaint
import SeismicSite.Proofs.Schema.Lookup
/-!
# What making an entity leaves alone

Fields are removed from a record one by one as they are read, so what is left
tells how far the reading came. `Row.visited` lists the fields that are read: all
that conform and the first that does not. What is left is the record without
these (`Row.take_left`), and as they are found by look-ups of declared names
alone, no other field of the record has a say in what is made of it or in what
is removed.
-/

namespace SeismicSite

/-! ## The fields that are read -/

namespace Row

/-- The fields that are read: those that conform up to the first that does not,
and that one. -/
def visited (find : String → Option FieldValue) : List Field → List Field
  | [] => []
  | field :: fields =>
    field :: if field.content.Conforms (find field.name) then visited find fields else []

variable {find find' : String → Option FieldValue} {fields : List Field}

/-- Only the look-ups of the declared names matter. -/
theorem visited_congr (h : ∀ name ∈ fieldNames fields, find name = find' name) :
    visited find fields = visited find' fields := by
  induction fields with
  | nil => rfl
  | cons field fields ih =>
    simp only [fieldNames, List.map_cons, List.forall_mem_cons] at h
    rw [visited, visited, h.1, ih h.2]

/-- The fields that are read are among the declared ones. -/
theorem visited_subset : visited find fields ⊆ fields := by
  induction fields with
  | nil => exact List.nil_subset _
  | cons field fields ih =>
    rw [visited]
    split
    · exact List.cons_subset_cons field ih
    · exact List.cons_subset_cons field (List.nil_subset _)

/-- All are read if all conform. -/
theorem visited_eq_self (h : ∀ field ∈ fields, field.content.Conforms (find field.name)) :
    visited find fields = fields := by
  induction fields with
  | nil => rfl
  | cons field fields ih =>
    rw [List.forall_mem_cons] at h
    rw [visited, if_pos h.1, ih h.2]

/-- None is read behind one that does not conform. -/
theorem visited_append_cons {before after : List Field} {field : Field}
    (hbefore : ∀ earlier ∈ before, earlier.content.Conforms (find earlier.name))
    (hfield : ¬ field.content.Conforms (find field.name)) :
    visited find (before ++ field :: after) = before ++ [field] := by
  induction before with
  | nil => rw [List.nil_append, visited, if_neg hfield, List.nil_append]
  | cons earlier before ih =>
    rw [List.forall_mem_cons] at hbefore
    rw [List.cons_append, visited, if_pos hbefore.1, ih hbefore.2, List.cons_append]

/-- **What is left is the record without the fields that were read**, whether or
not all of them could be. -/
theorem take_left {record : Record} (hnames : (fieldNames fields).Nodup) :
    (take fields record).left =
      record.without (fieldNames (visited record.get? fields)) := by
  induction fields generalizing record with
  | nil => rfl
  | cons field fields ih =>
    obtain ⟨hfresh, hrest⟩ := List.nodup_cons.mp hnames
    -- the fields behind this one find the same whether or not it is gone
    have hlater : visited (record.erase field.name).get? fields = visited record.get? fields :=
      visited_congr fun name hname => by
        rw [Record.get?_erase, if_neg (ne_of_mem_of_not_mem hname hfresh).symm]
    rw [take, visited]
    cases hread : field.content.read field.name (record.get? field.name) with
    | error error =>
      rw [if_neg (Content.read_eq_error.mp hread).1]
      rfl
    | ok value =>
      have hconforms : field.content.Conforms (record.get? field.name) :=
        Content.exists_takes_iff_conforms.mp ⟨value, (Content.read_eq_ok field.name).mp hread⟩
      rw [if_pos hconforms, ih hrest, hlater]
      rfl

end Row

/-! ## Entities -/

namespace EntityKind

variable {kind : EntityKind} {record other : Record}

/-- What is left is the record without the fields that were read for the kind. -/
theorem take_left :
    (kind.take record).left =
      record.without (fieldNames (Row.visited record.get? kind.fields)) :=
  Row.take_left kind.nodup_fieldNames

/-- **What is left is what the kind does not declare**, once an entity is made. -/
theorem get?_take_left {entity : kind.Carrier} (h : (kind.take record).result = .ok entity)
    (name : String) :
    (kind.take record).left.get? name =
      if name ∈ fieldNames kind.fields then none else record.get? name := by
  rw [take_left, Row.visited_eq_self (exists_take_iff.mp ⟨entity, h⟩), Record.get?_without]

/-- Whatever is left was there. -/
theorem get?_of_get?_take_left {name : String} {value : FieldValue}
    (h : (kind.take record).left.get? name = some value) : record.get? name = some value := by
  rw [take_left, Record.get?_without] at h
  split at h
  · cases h
  · exact h

/-- The fields that are read for a kind are found by the declared names alone. -/
theorem visited_congr
    (h : ∀ field ∈ kind.fields, other.get? field.name = record.get? field.name) :
    Row.visited other.get? kind.fields = Row.visited record.get? kind.fields :=
  Row.visited_congr (List.forall_mem_map.mpr h)

/-- **Records that agree on the declared fields make the same entity** or fail with
the same error. -/
theorem take_result_congr
    (h : ∀ field ∈ kind.fields, other.get? field.name = record.get? field.name) :
    (kind.take other).result = (kind.take record).result := by
  have hnames : ∀ name ∈ fieldNames kind.fields, record.get? name = other.get? name :=
    List.forall_mem_map.mpr fun field hfield => (h field hfield).symm
  cases hresult : (kind.take record).result with
  | ok entity =>
    obtain ⟨row, hrow, rfl⟩ := take_eq_ok.mp hresult
    exact take_eq_ok.mpr ⟨row, (Row.takes_congr hnames).mp hrow, rfl⟩
  | error error =>
    exact take_eq_error.mpr ((complains_congr hnames).mp (take_eq_error.mp hresult))

/-- **And the same names are removed from them.** -/
theorem removed_take_congr
    (h : ∀ field ∈ kind.fields, other.get? field.name = record.get? field.name) :
    other.removed (kind.take other).left = record.removed (kind.take record).left := by
  have hascending : ∀ one left : Record, (one.removed left).Pairwise (· < ·) := fun one left =>
    one.pairwise_names.sublist List.filter_sublist
  refine (hascending _ _).eq_of_mem_iff (hascending _ _) fun name => ?_
  rw [take_left, take_left, visited_congr h, Record.mem_removed_without, Record.mem_removed_without]
  refine and_congr_left fun hname => ?_
  obtain ⟨field, hfield, rfl⟩ := List.mem_map.mp hname
  rw [h field (Row.visited_subset hfield)]

/-- **Making an entity touches only the fields that its kind declares.** All of
them are gone once it is made; where it fails at a field, those up to and including
that one are gone and the ones behind it are still there. What is left is as it was,
and nothing else in the record has a say in the outcome or in what is removed. -/
theorem take_removes_declared_only :
    (∀ entity, (kind.take record).result = .ok entity →
        (kind.take record).left = record.without (fieldNames kind.fields)) ∧
      (∀ error, (kind.take record).result = .error error →
        ∃ before field after, kind.fields = before ++ field :: after ∧
          error.field = field.name ∧
          (kind.take record).left = record.without (fieldNames (before ++ [field])) ∧
          ∀ later ∈ after, (kind.take record).left.get? later.name = record.get? later.name) ∧
      (∀ name value, (kind.take record).left.get? name = some value →
        record.get? name = some value) ∧
      ∀ other : Record,
        (∀ field ∈ kind.fields, other.get? field.name = record.get? field.name) →
          (kind.take other).result = (kind.take record).result ∧
            other.removed (kind.take other).left = record.removed (kind.take record).left := by
  refine ⟨fun entity hentity => ?_, fun error herror => ?_,
    fun name value => get?_of_get?_take_left,
    fun other hother => ⟨take_result_congr hother, removed_take_congr hother⟩⟩
  · rw [take_left, Row.visited_eq_self (exists_take_iff.mp ⟨entity, hentity⟩)]
  · obtain ⟨before, field, after, hfields, hbefore, hfield, rfl⟩ := take_eq_error.mp herror
    have hgone : (kind.take record).left = record.without (fieldNames (before ++ [field])) := by
      rw [take_left, hfields, Row.visited_append_cons hbefore hfield]
    refine ⟨before, field, after, hfields, Content.field_complaint, hgone, fun later hlater => ?_⟩
    -- a field behind the first that fails has a name of its own
    have hnodup := kind.nodup_fieldNames
    rw [hfields, ← List.singleton_append, ← List.append_assoc, fieldNames, List.map_append,
      List.nodup_append] at hnodup
    rw [hgone, Record.get?_without, if_neg]
    intro hname
    exact hnodup.2.2 _ hname _ (List.mem_map_of_mem hlater) rfl

/-- A source of the given year, with a field that no source declares. -/
def datedSource (year : Int64) : Record :=
  .ofList
    [("DOI", .text "10.1785"), ("pages", .list []), ("title", .text "Vs30 map"),
      ("year", .integer year)]

/-- Of a year that fits, all but the undeclared field is taken; of one that does not,
the identifier is left as well. -/
theorem take_removes_declared_only_dated :
    (∃ entity, ((element .literature).take (datedSource 2004)).result = .ok entity) ∧
      ((element .literature).take (datedSource 2004)).left =
        (datedSource 2004).without (fieldNames Literature.fields) ∧
      ((element .literature).take (datedSource 3000000000)).result =
        .error (.typeMismatch "year" [.integer] (some .integer)) ∧
      (∃ before field after, Literature.fields = before ++ field :: after ∧
        "year" = field.name ∧
        ((element .literature).take (datedSource 3000000000)).left =
          (datedSource 3000000000).without (fieldNames (before ++ [field])) ∧
        ∀ later ∈ after,
          ((element .literature).take (datedSource 3000000000)).left.get? later.name =
            (datedSource 3000000000).get? later.name) ∧
      (datedSource 2004).removed
          ((element .literature).take (datedSource 2004)).left =
        ((datedSource 2004).erase "pages").removed
          ((element .literature).take ((datedSource 2004).erase "pages")).left := by
  obtain ⟨entity, hentity⟩ :=
    (@exists_take_iff (element .literature) (datedSource 2004)).mpr (by decide)
  have hfails : ((element .literature).take (datedSource 3000000000)).result =
      .error (.typeMismatch "year" [.integer] (some .integer)) := by decide
  have hagree : ∀ field ∈ (element .literature).fields,
      (datedSource 2004).get? field.name = ((datedSource 2004).erase "pages").get? field.name := by
    intro field hfield
    have hundeclared : "pages" ∉ fieldNames Literature.fields := by decide
    rw [Record.get?_erase, if_neg]
    rintro heq
    exact hundeclared (heq ▸ List.mem_map_of_mem hfield)
  obtain ⟨hmade, -, -, -⟩ := @take_removes_declared_only (element .literature) (datedSource 2004)
  obtain ⟨-, hfailed, -, -⟩ :=
    @take_removes_declared_only (element .literature) (datedSource 3000000000)
  obtain ⟨-, -, -, htwo⟩ :=
    @take_removes_declared_only (element .literature) ((datedSource 2004).erase "pages")
  exact ⟨⟨entity, hentity⟩, hmade entity hentity, hfails, hfailed _ hfails, (htwo _ hagree).2⟩

end EntityKind

end SeismicSite
