import Mathlib.Data.Set.Card
import SeismicSite.Proofs.Schema.Frame
import SeismicSite.Proofs.Text.ByteOrder
/-!
# Records are finite maps

A record stands for the partial map of what is found in it under every name, and
tells nothing that the map does not (`Record.represents_get?`). Every call on a
record does to it what it does to the map (`Record.Call.get?_perform`), and what the
call answers is settled by the map as well (`Record.Call.answers_perform`), also
where an entity cannot be made and only some of its fields are gone. So a run from
the empty record can be followed on maps alone, and the order in which fields of
different names came in is forgotten.
-/

namespace SeismicSite

/-- What stands under every name, if anything. -/
abbrev PartialMap := String → Option FieldValue

namespace EntityKind

/-- The names that are read for a kind: those of its fields in order, up to the first
that does not conform. -/
def namesRead (kind : EntityKind) (map : PartialMap) : List String :=
  fieldNames (Row.visited map kind.fields)

/-- What becomes of the fields of a kind: the entity that they make, or the complaint
of the first that does not conform. -/
def Makes (kind : EntityKind) (map : PartialMap) : Except FieldError kind.Carrier → Prop
  | .ok entity => ∃ row, Row.Takes kind.fields map row ∧ entity = kind.ofRow row
  | .error error => Complains kind.fields map error

/-- What is taken out of a record is what its look-ups make. -/
theorem makes_take (kind : EntityKind) (record : Record) :
    kind.Makes record.get? (kind.take record).result := by
  cases hresult : (kind.take record).result with
  | ok entity => exact take_eq_ok.mp hresult
  | error error => exact take_eq_error.mp hresult

end EntityKind

namespace Record

/-! ## What a record tells -/

/-- All that can be asked of the record is answered by the map. -/
structure Represents (record : Record) (map : PartialMap) : Prop where
  get? : ∀ name, record.get? name = map name
  finite : {name | (map name).isSome}.Finite
  contains : ∀ name, record.contains name = true ↔ (map name).isSome
  mem_names : ∀ name, name ∈ record.names ↔ (map name).isSome
  nodup : record.names.Nodup
  ascending : record.names.Pairwise fun a b => utf8 a < utf8 b
  size : record.size = {name | (map name).isSome}.ncard
  isEmpty : record.isEmpty = true ↔ ∀ name, map name = none

/-- **A record represents its look-ups.** -/
theorem represents_get? (record : Record) : record.Represents record.get? := by
  have hnodup : record.names.Nodup := by
    refine record.pairwise_names.imp ?_
    rintro name _ hlt rfl
    exact String.lt_irrefl name hlt
  have hnames : {name | (record.get? name).isSome} = ↑record.names.toFinset := by
    ext name
    simp [mem_names]
  refine
    { get? := fun _ => rfl
      finite := hnames ▸ record.names.toFinset.finite_toSet
      contains := fun name => by rw [contains_eq]
      mem_names := fun _ => mem_names
      nodup := hnodup
      ascending := record.pairwise_names.imp utf8_lt_iff.mpr
      size := ?_
      isEmpty := isEmpty_iff }
  calc record.size
      = record.names.length := Std.ExtTreeMap.length_keys.symm
    _ = record.names.toFinset.card := (List.toFinset_card_of_nodup hnodup).symm
    _ = {name | (record.get? name).isSome}.ncard := by rw [hnames, Set.ncard_coe_finset]

/-- A list equals itself if all its items do. -/
theorem list_beq_self_iff {α : Type} [BEq α] {items : List α} :
    (items == items) = true ↔ ∀ item ∈ items, (item == item) = true := by
  induction items with
  | nil => simp
  | cons item items ih => rw [List.cons_beq_cons, Bool.and_eq_true, ih, List.forall_mem_cons]

/-- A record equals itself if all its values do; a NaN does not. -/
theorem beq_self_iff {record : Record} :
    (record == record) = true ↔
      ∀ name value, record.get? name = some value → (value == value) = true := by
  have hfields : (record == record) = (record.fields.toList == record.fields.toList) := rfl
  rw [hfields, list_beq_self_iff]
  simp only [Prod.forall, Std.ExtTreeMap.mem_toList_iff_getElem?_eq_some]
  refine forall_congr' fun name => forall_congr' fun value => ?_
  have hpair : ((name, value) == (name, value)) = (name == name && value == value) := rfl
  rw [hpair, beq_self_eq_true, Bool.true_and, get?]

/-! ## Calls -/

/-- Setting a field overwrites its value in the map. -/
theorem get?_set_eq_update (record : Record) (name : String) (value : FieldValue) :
    (record.set name value).get? = Function.update record.get? name (some value) := by
  funext other
  rw [get?_set, Function.update_apply]
  exact if_congr eq_comm rfl rfl

/-- Erasing a field deletes its name from the map. -/
theorem get?_erase_eq_update (record : Record) (name : String) :
    (record.erase name).get? = Function.update record.get? name none := by
  funext other
  rw [get?_erase, Function.update_apply]
  exact if_congr eq_comm rfl rfl

/-- What can be done with a record. -/
inductive Call where
  /-- A new record in its place. -/
  | new
  | insert (name : String) (value : FieldValue)
  /-- As `insert`, but nothing is given back. -/
  | set (name : String) (value : FieldValue)
  | take (name : String)
  /-- An entity out of its fields, which are removed. -/
  | takeFrom (kind : EntityKind)
  /-- An entity out of the whole record, of which nothing stays. -/
  | fromRecord (kind : EntityKind)

/-- What a call gives back. -/
inductive Answer where
  | nothing
  | found (value : Option FieldValue)
  | made (kind : EntityKind) (result : Except FieldError kind.Carrier)

namespace Call

/-- What a call gives back, and the record that it leaves. -/
def perform : Call → Record → Answer × Record
  | new, _ => (.nothing, ∅)
  | insert name value, record => (record.insert name value).map .found id
  | set name value, record => (.nothing, record.set name value)
  | take name, record => (record.take name).map .found id
  | takeFrom kind, record => (.made kind (kind.take record).result, (kind.take record).left)
  | fromRecord kind, record => (.made kind (kind.ofRecord record), ∅)

/-- What a call makes of a map. -/
def update : Call → PartialMap → PartialMap
  | new, _ => fun _ => none
  | insert name value, map => Function.update map name (some value)
  | set name value, map => Function.update map name (some value)
  | take name, map => Function.update map name none
  | takeFrom kind, map => fun name => if name ∈ kind.namesRead map then none else map name
  | fromRecord _, _ => fun _ => none

/-- The answer is the one that the map gives to the call. -/
def Answers (map : PartialMap) : Call → Answer → Prop
  | new, answer => answer = .nothing
  | insert name _, answer => answer = .found (map name)
  | set _ _, answer => answer = .nothing
  | take name, answer => answer = .found (map name)
  | takeFrom kind, answer => ∃ result, answer = .made kind result ∧ kind.Makes map result
  | fromRecord kind, answer => ∃ result, answer = .made kind result ∧ kind.Makes map result

/-- **A call does to a record what it does to the map**, whether or not it succeeds. -/
theorem get?_perform (call : Call) (record : Record) :
    (call.perform record).2.get? = call.update record.get? := by
  cases call with
  | new => exact funext get?_empty
  | insert name value => exact get?_set_eq_update record name value
  | set name value => exact get?_set_eq_update record name value
  | take name => exact get?_erase_eq_update record name
  | takeFrom kind =>
    funext name
    rw [perform, EntityKind.take_left, get?_without]
    rfl
  | fromRecord kind => exact funext get?_empty

/-- **A call answers what the map gives to it.** -/
theorem answers_perform (call : Call) (record : Record) :
    call.Answers record.get? (call.perform record).1 := by
  cases call with
  | new | insert | set | take => rfl
  | takeFrom kind => exact ⟨_, rfl, kind.makes_take record⟩
  | fromRecord kind => exact ⟨_, rfl, kind.makes_take record⟩

end Call

/-! ## Runs -/

/-- The record that a run of calls leaves. -/
def run (record : Record) (calls : List Call) : Record :=
  calls.foldl (fun record call => (call.perform record).2) record

/-- The map that a run of calls leaves. -/
def runMap (map : PartialMap) (calls : List Call) : PartialMap :=
  calls.foldl (fun map call => call.update map) map

/-- **A run does to a record what it does to the map.** -/
theorem get?_run (record : Record) (calls : List Call) :
    (run record calls).get? = runMap record.get? calls := by
  induction calls generalizing record with
  | nil => rfl
  | cons call calls ih =>
    calc (run (call.perform record).2 calls).get?
        = runMap (call.perform record).2.get? calls := ih _
      _ = runMap (call.update record.get?) calls := by rw [call.get?_perform]

/-! ## Fields in any order -/

/-- The call adds the field. -/
def Call.Adds (call : Call) (field : String × FieldValue) : Prop :=
  call = .insert field.1 field.2 ∨ call = .set field.1 field.2

/-- A run that adds fields one by one leaves the record of these fields. -/
theorem run_of_adds {calls : List Call} {fields : List (String × FieldValue)}
    (h : List.Forall₂ Call.Adds calls fields) : run ∅ calls = .ofList fields := by
  -- the record that is added to changes with every field, so any record may stand first
  have key : ∀ record, run record calls =
      fields.foldl (fun record field => record.set field.1 field.2) record := by
    induction h with
    | nil => exact fun _ => rfl
    | @cons call field calls fields hcall _ ih =>
      intro record
      have hadd : (call.perform record).2 = record.set field.1 field.2 := by
        rcases hcall with rfl | rfl <;> rfl
      calc run (call.perform record).2 calls
          = run (record.set field.1 field.2) calls := by rw [hadd]
        _ = _ := ih _
  exact key ∅

/-- What is found among fields of different names is one of them. -/
theorem get?_ofList_eq_some {fields : List (String × FieldValue)} {name : String}
    {value : FieldValue} (hnodup : (fields.map Prod.fst).Nodup) :
    (ofList fields).get? name = some value ↔ (name, value) ∈ fields := by
  rw [get?_ofList hnodup, Json.lookup_eq_some_iff hnodup]

/-- **The order of fields with different names does not matter.** -/
theorem ofList_perm {fields fields' : List (String × FieldValue)}
    (hnodup : (fields.map Prod.fst).Nodup) (hperm : fields.Perm fields') :
    ofList fields = ofList fields' := by
  have hnodup' : (fields'.map Prod.fst).Nodup := (hperm.map Prod.fst).nodup_iff.mp hnodup
  refine ext_get? fun name => Option.ext fun value => ?_
  rw [get?_ofList_eq_some hnodup, get?_ofList_eq_some hnodup', hperm.mem_iff]

/-- **A record is a finite map under every run of calls.** After any run from the
empty record it answers as the map does to which the same was done, and so does
whatever call comes next. Runs that add the same fields of different names in any
order leave one record, equal to itself unless a value is not, and any kind makes the
same of it and leaves the same. -/
theorem runs_follow_maps :
    (∀ calls : List Call,
        (run ∅ calls).Represents (runMap (fun _ => none) calls) ∧
          ∀ next : Call,
            next.Answers (runMap (fun _ => none) calls) (next.perform (run ∅ calls)).1) ∧
      ∀ (fields fields' : List (String × FieldValue)) (calls calls' : List Call),
        (fields.map Prod.fst).Nodup → fields.Perm fields' →
          List.Forall₂ Call.Adds calls fields → List.Forall₂ Call.Adds calls' fields' →
            run ∅ calls = run ∅ calls' ∧
              ((run ∅ calls == run ∅ calls') = true ↔
                ∀ field ∈ fields, (field.2 == field.2) = true) ∧
              ∀ kind : EntityKind,
                (kind.take (run ∅ calls)).result = (kind.take (run ∅ calls')).result ∧
                  (kind.take (run ∅ calls)).left = (kind.take (run ∅ calls')).left := by
  constructor
  · intro calls
    have hstart : (∅ : Record).get? = fun _ => none := funext get?_empty
    have hmap : (run ∅ calls).get? = runMap (fun _ => none) calls := by rw [get?_run, hstart]
    rw [← hmap]
    exact ⟨represents_get? _, fun next => next.answers_perform _⟩
  · intro fields fields' calls calls' hnodup hperm hcalls hcalls'
    have hsame : run ∅ calls = run ∅ calls' := by
      rw [run_of_adds hcalls, run_of_adds hcalls', ofList_perm hnodup hperm]
    rw [← hsame]
    refine ⟨rfl, ?_, fun kind => ⟨rfl, rfl⟩⟩
    rw [beq_self_iff, run_of_adds hcalls]
    simp only [get?_ofList_eq_some hnodup, Prod.forall]

/-- A source whose year does not fit is asked for. -/
def lateSource : List Call :=
  [.set "DOI" (.text "10.1785"), .set "title" (.text "Vs30 map"),
    .insert "year" (.integer 3000000000), .takeFrom (.element .literature)]

/-- The source is not made, the fields up to its year are gone and the one behind it is
still there; and two fields may come in either order. -/
theorem runs_follow_maps_late :
    "title" ∉ (run ∅ lateSource).names ∧ "year" ∉ (run ∅ lateSource).names ∧
      (run ∅ lateSource).contains "DOI" = true ∧
      run ∅ [.set "title" (.text "Vs30 map"), .set "year" (.integer 2004)] =
        run ∅ [.insert "year" (.integer 2004), .insert "title" (.text "Vs30 map")] ∧
      (run ∅ [.set "title" (.text "Vs30 map"), .set "year" (.integer 2004)] ==
        run ∅ [.insert "year" (.integer 2004), .insert "title" (.text "Vs30 map")]) = true := by
  obtain ⟨hruns, horders⟩ := runs_follow_maps
  obtain ⟨hlate, -⟩ := hruns lateSource
  obtain ⟨hsame, hequal, -⟩ := horders
    [("title", .text "Vs30 map"), ("year", .integer 2004)]
    [("year", .integer 2004), ("title", .text "Vs30 map")]
    [.set "title" (.text "Vs30 map"), .set "year" (.integer 2004)]
    [.insert "year" (.integer 2004), .insert "title" (.text "Vs30 map")]
    (by decide) (.swap _ _ []) (.cons (.inr rfl) (.cons (.inr rfl) .nil))
    (.cons (.inl rfl) (.cons (.inl rfl) .nil))
  exact ⟨mt (hlate.mem_names "title").mp (by decide), mt (hlate.mem_names "year").mp (by decide),
    (hlate.contains "DOI").mpr (by decide), hsame, hequal.mpr (by decide)⟩

end Record

end SeismicSite
