import Mathlib.Data.List.Induction
import Mathlib.Data.List.Nodup
import SeismicSite.Proofs.Json.Induction
import SeismicSite.Schema.Record
/-!
# What records hold

A record made of a list of fields, or of those parts that are present, is known
by what is found under every name; so is a record from which some names are taken
away.
-/

namespace SeismicSite

namespace Record

/-- The names are in ascending order. -/
theorem pairwise_names (record : Record) : record.names.Pairwise (· < ·) :=
  record.names_ascending.imp compare_eq_lt_iff.mp

/-- A record is empty exactly if nothing is found in it. -/
theorem isEmpty_iff {record : Record} :
    record.isEmpty = true ↔ ∀ name, record.get? name = none := by
  have hempty : record.isEmpty = true ↔ record = ∅ := by
    obtain ⟨fields⟩ := record
    simp only [isEmpty, Std.ExtTreeMap.isEmpty_iff]
    exact ⟨congrArg mk, congrArg Record.fields⟩
  rw [hempty]
  constructor
  · rintro rfl name
    exact get?_empty name
  · intro h
    exact ext_get? fun name => by rw [h, get?_empty]

/-- And exactly if it has no names. -/
theorem names_eq_nil_iff {record : Record} : record.names = [] ↔ record.isEmpty = true := by
  rw [isEmpty_iff, List.eq_nil_iff_forall_not_mem]
  simp only [mem_names, Option.not_isSome_iff_eq_none]

/-! ## Records made of lists -/

/-- A name that no pair has is not found. -/
theorem lookup_eq_none_of_not_mem {β : Type} {pairs : List (String × β)} {name : String}
    (h : name ∉ pairs.map Prod.fst) : pairs.lookup name = none := by
  refine List.lookup_eq_none_iff.mpr fun pair hpair => bne_iff_ne.mpr ?_
  rintro rfl
  exact h (List.mem_map_of_mem hpair)

/-- Where names are not repeated, a record holds the fields it is made of. -/
theorem get?_ofList {fields : List (String × FieldValue)}
    (hnodup : (fields.map Prod.fst).Nodup) (name : String) :
    (ofList fields).get? name = fields.lookup name := by
  -- the record that is added to changes with every field, so any record may stand first
  have key : ∀ record : Record, (fields.foldl (fun record field => record.set field.1 field.2)
      record).get? name = (fields.lookup name).or (record.get? name) := by
    induction fields with
    | nil => simp
    | cons field fields ih =>
      intro record
      obtain ⟨first, value⟩ := field
      obtain ⟨hfresh, hrest⟩ := List.nodup_cons.mp hnodup
      rw [List.foldl_cons, ih hrest, Record.get?_set, List.lookup_cons]
      by_cases heq : name = first
      · subst heq
        simp [lookup_eq_none_of_not_mem hfresh]
      · simp [beq_false_of_ne heq, Ne.symm heq]
  rw [ofList, key, get?_empty, Option.or_none]

/-- Whatever a record holds, it was made of. -/
theorem mem_of_get?_ofList {fields : List (String × FieldValue)} {name : String}
    {value : FieldValue} (h : (ofList fields).get? name = some value) : (name, value) ∈ fields := by
  induction fields using List.reverseRecOn with
  | nil => simp [ofList] at h
  | append_singleton fields field ih =>
    rw [ofList, List.foldl_append, List.foldl_cons, List.foldl_nil, get?_set] at h
    rw [List.mem_append]
    split at h
    · rename_i hname
      obtain rfl := hname
      obtain rfl := Option.some.inj h
      exact .inr (List.mem_singleton.mpr rfl)
    · exact .inl (ih h)

/-- The record of those values that are present. -/
def ofPresent (fields : List (String × Option FieldValue)) : Record :=
  .ofList (fields.filterMap fun field => field.2.map (field.1, ·))

/-- **A record of parts holds those that are present**, each under its name. -/
theorem get?_ofPresent {fields : List (String × Option FieldValue)}
    (hnodup : (fields.map Prod.fst).Nodup) (name : String) :
    (ofPresent fields).get? name = (fields.lookup name).join := by
  have hpresent : ((fields.filterMap fun field => field.2.map (field.1, ·)).map Prod.fst).Sublist
      (fields.map Prod.fst) := by
    induction fields with
    | nil => exact .slnil
    | cons field fields ih =>
      obtain ⟨first, found⟩ := field
      cases found with
      | none => exact (ih hnodup.of_cons).cons first
      | some value => exact (ih hnodup.of_cons).cons_cons first
  rw [ofPresent, get?_ofList (hnodup.sublist hpresent)]
  clear hpresent
  induction fields with
  | nil => rfl
  | cons field fields ih =>
    obtain ⟨first, found⟩ := field
    obtain ⟨hfresh, hrest⟩ := List.nodup_cons.mp hnodup
    cases found with
    | some value =>
      rw [List.filterMap_cons, Option.map_some, List.lookup_cons, List.lookup_cons, ih hrest]
      cases name == first <;> rfl
    | none =>
      rw [List.filterMap_cons, Option.map_none, List.lookup_cons, ih hrest]
      by_cases heq : name = first
      · subst heq
        simp [lookup_eq_none_of_not_mem hfresh]
      · rw [beq_false_of_ne heq]

/-! ## Records without some fields -/

/-- The record without the fields of the given names. -/
def without (record : Record) (names : List String) : Record :=
  names.foldl erase record

theorem get?_without (record : Record) (names : List String) (name : String) :
    (record.without names).get? name = if name ∈ names then none else record.get? name := by
  induction names generalizing record with
  | nil => simp [without]
  | cons first names ih =>
    rw [without, List.foldl_cons, ← without, ih, get?_erase]
    by_cases heq : first = name
    · simp [heq]
    · simp [heq, Ne.symm heq]

/-- The names that a record has and what is left of it has not. -/
def removed (record left : Record) : List String :=
  record.names.filter fun name => left.contains name = false

/-- A name is removed if it was there and is among those taken away. -/
theorem mem_removed_without {record : Record} {names : List String} {name : String} :
    name ∈ record.removed (record.without names) ↔
      (record.get? name).isSome ∧ name ∈ names := by
  rw [removed, List.mem_filter, mem_names, contains_eq, get?_without]
  refine and_congr_right fun hthere => ?_
  by_cases hname : name ∈ names
  · simp [hname]
  · simp [hname, hthere]

end Record

end SeismicSite
