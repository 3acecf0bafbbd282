import SeismicSite.Proofs.Schema.Given
/-!
# Builders

Some entities are completed by calls that set one field each. A call puts a content
into one place of the row that the entity is made of (`Row.put`), and setting that
field of a record does the same to the row that is taken out of it
(`Row.takes_put`). So a run of calls and the record to which every call adds its
argument make the same entity (`Builder.Lawful.ofRecord_record`), and of the calls
that set one field only the last has a say.
-/

namespace SeismicSite

/-! ## Setting one field -/

/-- The row with the content of one field replaced. -/
def Row.put (entry : Entry) : (fields : List Field) → Row fields → Row fields
  | [], row => row
  | field :: fields, (content, row) =>
    if h : entry.field = field then (h ▸ entry.content, row) else (content, put entry fields row)

/-- **Setting a declared field** replaces its content in the row and no other. -/
theorem Row.takes_put {fields : List Field} {record : Record} {row : Row fields} {entry : Entry}
    {value : FieldValue} (hnames : (fieldNames fields).Nodup) (hfield : entry.field ∈ fields)
    (hvalue : entry.field.content.Takes (some value) entry.content)
    (h : Takes fields record.get? row) :
    Takes fields (record.set entry.field.name value).get? (put entry fields row) := by
  induction fields with
  | nil => cases hfield
  | cons first fields ih =>
    obtain ⟨content, row⟩ := row
    obtain ⟨hfresh, hrest⟩ := List.nodup_cons.mp hnames
    obtain ⟨hcontent, hrow⟩ := h
    obtain ⟨field, new⟩ := entry
    rw [put]
    by_cases heq : field = first
    · subst heq
      rw [dif_pos rfl]
      refine ⟨?_, ?_⟩
      · rw [Record.get?_set, if_pos rfl]
        exact hvalue
      · refine (takes_congr fun name hname => ?_).mp hrow
        rw [Record.get?_set, if_neg (ne_of_mem_of_not_mem hname hfresh).symm]
    · have hlater := (List.mem_cons.mp hfield).resolve_left heq
      have hname : field.name ≠ first.name :=
        ne_of_mem_of_not_mem (List.mem_map_of_mem hlater) hfresh
      rw [dif_neg heq]
      refine ⟨?_, ih hrest hlater hrow⟩
      rw [Record.get?_set, if_neg hname]
      exact hcontent

/-- What a record of parts makes is found by their names. -/
theorem EntityKind.ofRecord_ofPresent {kind : EntityKind}
    {given : List (String × Option FieldValue)} {row : Row kind.fields}
    (hnodup : (given.map Prod.fst).Nodup)
    (h : Row.Takes kind.fields (fun name => (given.lookup name).join) row) :
    kind.ofRecord (.ofPresent given) = .ok (kind.ofRow row) := by
  refine take_eq_ok.mpr ⟨row, (Row.takes_congr fun name _ => ?_).mpr h, rfl⟩
  exact Record.get?_ofPresent hnodup name

/-! ## Runs of calls -/

/-- The calls that complete an entity of the kind: what each makes of it, and the
field that it sets, with the value that stands for its argument in a record. -/
structure Builder (kind : EntityKind) (Call : Type) where
  apply : kind.Carrier → Call → kind.Carrier
  sets : Call → String × FieldValue

namespace Builder

section

variable {kind : EntityKind} {Call : Type} (b : Builder kind Call)

/-- What a sequence of calls makes of an entity. -/
def run (start : kind.Carrier) (calls : List Call) : kind.Carrier :=
  calls.foldl b.apply start

/-- The record to which a sequence of calls adds its arguments. -/
def record (given : Record) (calls : List Call) : Record :=
  calls.foldl (fun record call => record.set (b.sets call).1 (b.sets call).2) given

/-- The last call that sets the field of a name. -/
def last? (name : String) (calls : List Call) : Option Call :=
  calls.reverse.find? fun call => (b.sets call).1 = name

/-- The call puts the content of the entry into the row of an entity, and the value
that it sets stands for that content. -/
structure Puts (call : Call) (entry : Entry) : Prop where
  declared : entry.field ∈ kind.fields
  name : entry.field.name = (b.sets call).1
  takes : entry.field.content.Takes (some (b.sets call).2) entry.content
  apply : ∀ row, b.apply (kind.ofRow row) call = kind.ofRow (Row.put entry kind.fields row)

/-- Every call sets one field that the kind declares. -/
def Lawful : Prop :=
  ∀ call, ∃ entry, b.Puts call entry

/-- Runs from a start and records that hold what the start was given make the same
entity, which has the argument of the last call for each field. -/
structure Agrees (given : List (String × Option FieldValue)) (start : kind.Carrier)
    (settled : List Call → kind.Carrier) : Prop where
  ofRecord : ∀ calls, kind.ofRecord (b.record (.ofPresent given) calls) = .ok (b.run start calls)
  run_eq : ∀ calls, b.run start calls = settled calls
  run_congr : ∀ calls calls', (∀ name, b.last? name calls = b.last? name calls') →
    b.run start calls = b.run start calls'

end

variable {kind : EntityKind} {Call : Type} {b : Builder kind Call} {given : Record}
  {start : kind.Carrier}

theorem run_concat (calls : List Call) (call : Call) :
    b.run start (calls ++ [call]) = b.apply (b.run start calls) call := by
  rw [run, run, List.foldl_append, List.foldl_cons, List.foldl_nil]

/-- A run makes what grows call by call as the entity does. -/
theorem run_eq (b : Builder kind Call) (made : List Call → kind.Carrier)
    (hnone : made [] = start)
    (hcall : ∀ calls call, made (calls ++ [call]) = b.apply (made calls) call)
    (calls : List Call) : b.run start calls = made calls := by
  induction calls using List.reverseRecOn with
  | nil => exact hnone.symm
  | append_singleton calls call ih => rw [run_concat, ih, hcall]

theorem record_concat (calls : List Call) (call : Call) :
    b.record given (calls ++ [call]) =
      (b.record given calls).set (b.sets call).1 (b.sets call).2 := by
  rw [record, record, List.foldl_append, List.foldl_cons, List.foldl_nil]

/-- **The record of a run holds what the last call set**, or what it was given. -/
theorem get?_record (calls : List Call) (name : String) :
    (b.record given calls).get? name =
      ((b.last? name calls).map fun call => (b.sets call).2).or (given.get? name) := by
  induction calls using List.reverseRecOn with
  | nil => rfl
  | append_singleton calls call ih =>
    rw [record_concat, Record.get?_set, ih, last?, last?, List.reverse_concat, List.find?_cons]
    by_cases hname : (b.sets call).1 = name <;> simp [hname]

/-- A call that sets the value of a content puts that content. -/
theorem exists_puts {call : Call} (field : Field) (content : field.content.Carrier)
    (hdeclared : field ∈ kind.fields)
    (htype : ∀ name, field.content.type ≠ .element (.indicator name))
    (hsets : (field.name, field.content.wrap content) = ((b.sets call).1, some (b.sets call).2))
    (happly : ∀ row,
      b.apply (kind.ofRow row) call = kind.ofRow (Row.put ⟨field, content⟩ kind.fields row)) :
    ∃ entry, b.Puts call entry := by
  obtain ⟨hname, hvalue⟩ := Prod.mk.inj hsets
  exact ⟨⟨field, content⟩, hdeclared, hname, hvalue ▸ Content.takes_wrap htype content, happly⟩

namespace Lawful

/-- **A call and the field that it sets make the same entity.** -/
theorem ofRecord_set (h : b.Lawful) {record : Record} {entity : kind.Carrier}
    (hrecord : kind.ofRecord record = .ok entity) (call : Call) :
    kind.ofRecord (record.set (b.sets call).1 (b.sets call).2) = .ok (b.apply entity call) := by
  obtain ⟨row, hrow, rfl⟩ := EntityKind.take_eq_ok.mp hrecord
  obtain ⟨entry, hputs⟩ := h call
  refine EntityKind.take_eq_ok.mpr ⟨Row.put entry kind.fields row, ?_, hputs.apply row⟩
  rw [← hputs.name]
  exact Row.takes_put kind.nodup_fieldNames hputs.declared hputs.takes hrow

/-- **A run of calls and the record of the run make the same entity.** -/
theorem ofRecord_record (h : b.Lawful) (hgiven : kind.ofRecord given = .ok start)
    (calls : List Call) : kind.ofRecord (b.record given calls) = .ok (b.run start calls) := by
  induction calls using List.reverseRecOn with
  | nil => exact hgiven
  | append_singleton calls call ih =>
    rw [record_concat, run_concat]
    exact h.ofRecord_set ih call

/-- **Only the last call for each field matters.** -/
theorem run_congr (h : b.Lawful) (hgiven : kind.ofRecord given = .ok start)
    {calls calls' : List Call} (hlast : ∀ name, b.last? name calls = b.last? name calls') :
    b.run start calls = b.run start calls' := by
  -- the two records hold the same, so they make the same
  have hrecord : b.record given calls = b.record given calls' := Record.ext_get? fun name => by
    rw [get?_record, get?_record, hlast]
  have hrun := h.ofRecord_record hgiven calls
  rw [hrecord, h.ofRecord_record hgiven calls', Except.ok.injEq] at hrun
  exact hrun.symm

/-- A lawful builder agrees with records if it does before the first call. -/
theorem agrees (h : b.Lawful) {given : List (String × Option FieldValue)}
    {settled : List Call → kind.Carrier} (hgiven : kind.ofRecord (.ofPresent given) = .ok start)
    (hsettled : ∀ calls, b.run start calls = settled calls) : b.Agrees given start settled where
  ofRecord := h.ofRecord_record hgiven
  run_eq := hsettled
  run_congr _ _ := h.run_congr hgiven

end Lawful

end Builder

/-! ## Arguments of calls -/

/-- The argument of the last call of one sort. -/
def lastOf {Call α : Type} (argument? : Call → Option α) (calls : List Call) : Option α :=
  calls.reverse.findSome? argument?

theorem lastOf_concat {Call α : Type} (argument? : Call → Option α) (calls : List Call)
    (call : Call) :
    lastOf argument? (calls ++ [call]) = (argument? call).or (lastOf argument? calls) := by
  rw [lastOf, lastOf, List.reverse_concat, List.findSome?_cons]
  cases argument? call <;> rfl

end SeismicSite
