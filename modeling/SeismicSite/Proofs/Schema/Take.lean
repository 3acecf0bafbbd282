import Mathlib.Data.List.Nodup
import SeismicSite.Proofs.Schema.Reading
import SeismicSite.Schema.Entity
/-!
# What a schema takes out of a record

`Row.take` threads a record through the fields of a schema. Since the fields
of a kind have names of their own, each field is looked up in the record as it
was at the start, and so a row is described by look-ups alone (`Row.Takes`).
The second check that a description and a characterization make never fails
after the first, so an entity is always the one its row makes
(`EntityKind.take_eq_ok`).
-/

namespace SeismicSite

/-- The names of the fields of a schema, in order. -/
def fieldNames (fields : List Field) : List String :=
  fields.map Field.name

namespace Row

/-- The row holds what each field takes under its own name. -/
def Takes : (fields : List Field) → (String → Option FieldValue) → Row fields → Prop
  | [], _, _ => True
  | field :: fields, find, (content, row) =>
    field.content.Takes (find field.name) content ∧ Takes fields find row

/-- Only the look-ups of the declared names matter. -/
theorem takes_congr {fields : List Field} {find find' : String → Option FieldValue}
    {row : Row fields} (h : ∀ name ∈ fieldNames fields, find name = find' name) :
    Takes fields find row ↔ Takes fields find' row := by
  induction fields with
  | nil => rfl
  | cons field fields ih =>
    simp only [fieldNames, List.map_cons, List.forall_mem_cons] at h
    simp only [Takes, h.1, ih h.2]

/-- A row can be read exactly if each of its fields can. -/
theorem exists_takes_iff {fields : List Field} {find : String → Option FieldValue} :
    (∃ row, Takes fields find row) ↔
      ∀ field ∈ fields, ∃ content, field.content.Takes (find field.name) content := by
  induction fields with
  | nil => simp [Takes]
  | cons field fields ih =>
    rw [List.forall_mem_cons, ← ih]
    constructor
    · rintro ⟨⟨content, row⟩, hcontent, hrow⟩
      exact ⟨⟨content, hcontent⟩, ⟨row, hrow⟩⟩
    · rintro ⟨⟨content, hcontent⟩, ⟨row, hrow⟩⟩
      exact ⟨(content, row), hcontent, hrow⟩

/-- **A schema takes what its fields find in the record as it was given.** -/
theorem take_result_eq_ok {fields : List Field} {record : Record} {row : Row fields}
    (hnames : (fieldNames fields).Nodup) :
    (take fields record).result = .ok row ↔ Takes fields record.get? row := by
  induction fields generalizing record with
  | nil => simp [take, Takes]
  | cons field fields ih =>
    obtain ⟨content, row⟩ := row
    obtain ⟨hfresh, hrest⟩ := List.nodup_cons.mp hnames
    -- the fields behind the first one do not see that it is gone
    have hlater : Takes fields (record.erase field.name).get? row ↔
        Takes fields record.get? row :=
      takes_congr fun name hname => by
        rw [Record.get?_erase, if_neg (ne_of_mem_of_not_mem hname hfresh).symm]
    simp only [take, Takes, ← hlater, ← Content.read_eq_ok field.name]
    cases field.content.read field.name (record.get? field.name) with
    | error error => simp
    | ok value =>
      simp only [except_map_eq_ok, ih hrest, Except.ok.injEq]
      constructor
      · rintro ⟨_, hrow, heq⟩
        obtain ⟨rfl, rfl⟩ := Prod.mk.inj heq
        exact ⟨rfl, hrow⟩
      · rintro ⟨rfl, hrow⟩
        exact ⟨row, hrow, rfl⟩

end Row

/-! ## Slots -/

/-- What the field of a slot takes, the slot may hold. -/
theorem Slot.holds_of_takes {slot : Slot} {found : Option FieldValue}
    {occupant : Option Indicator} (h : slot.toField.content.Takes found occupant) :
    slot.Holds occupant := by
  rintro indicator rfl
  cases found with
  | none => cases h
  | some value =>
    obtain ⟨one, ⟨hkind, hunwrap⟩, heq⟩ := h
    obtain rfl := Option.some.inj heq
    cases value with
    | element element =>
      cases element <;>
        simp_all [FieldType.unwrap, FieldType.expected, FieldValue.kind, Element.kind]
    | _ => simp [FieldType.unwrap] at hunwrap

/-- A description is accepted exactly if it is well-formed, and as it is. -/
theorem Description.checked_eq_ok {description accepted : Description} :
    description.checked = .ok accepted ↔ accepted = description ∧ description.WellFormed := by
  simp only [checked, bind_eq_ok, Slot.accept_eq_ok_iff, pure_eq_ok]
  constructor
  · rintro ⟨_, ⟨rfl, h₁⟩, _, ⟨rfl, h₂⟩, _, ⟨rfl, h₃⟩, _, ⟨rfl, h₄⟩, rfl⟩
    exact ⟨rfl, h₁, h₂, h₃, h₄⟩
  · rintro ⟨rfl, h₁, h₂, h₃, h₄⟩
    exact ⟨_, ⟨rfl, h₁⟩, _, ⟨rfl, h₂⟩, _, ⟨rfl, h₃⟩, _, ⟨rfl, h₄⟩, rfl⟩

/-- A characterization is accepted exactly if it is well-formed, and as it
is. -/
theorem Characterization.checked_eq_ok {parameters accepted : Characterization} :
    parameters.checked = .ok accepted ↔ accepted = parameters ∧ parameters.WellFormed := by
  simp only [checked, bind_eq_ok, Slot.accept_eq_ok_iff, pure_eq_ok]
  constructor
  · rintro ⟨_, ⟨rfl, h₁⟩, _, ⟨rfl, h₂⟩, rfl⟩
    exact ⟨rfl, h₁, h₂⟩
  · rintro ⟨rfl, h₁, h₂⟩
    exact ⟨_, ⟨rfl, h₁⟩, _, ⟨rfl, h₂⟩, rfl⟩

theorem Description.wellFormed_ofRow {find : String → Option FieldValue}
    {row : Row Description.fields} (h : Row.Takes Description.fields find row) :
    (Description.ofRow row).WellFormed := by
  obtain ⟨-, -, -, -, -, hec8, hbedrock, hh800, hunit, -⟩ := h
  exact ⟨Slot.holds_of_takes hec8, Slot.holds_of_takes hbedrock, Slot.holds_of_takes hh800,
    Slot.holds_of_takes hunit⟩

theorem Characterization.wellFormed_ofRow {find : String → Option FieldValue}
    {row : Row Characterization.fields} (h : Row.Takes Characterization.fields find row) :
    (Characterization.ofRow row).WellFormed := by
  obtain ⟨-, -, hresonance, hvelocity, -⟩ := h
  exact ⟨Slot.holds_of_takes hresonance, Slot.holds_of_takes hvelocity⟩

/-! ## Entities -/

namespace EntityKind

/-- No kind declares a name twice. -/
theorem nodup_fieldNames (kind : EntityKind) : (fieldNames kind.fields).Nodup := by
  have hall : ∀ kind ∈ all, (fieldNames kind.fields).Nodup := by decide
  exact hall kind kind.mem_all

/-- So a name tells which field it is. -/
theorem field_eq_of_name_eq {kind : EntityKind} {a b : Field} (ha : a ∈ kind.fields)
    (hb : b ∈ kind.fields) (h : a.name = b.name) : a = b :=
  List.inj_on_of_nodup_map kind.nodup_fieldNames ha hb h

/-- The field of a name is found by it. -/
theorem find?_fields {kind : EntityKind} {field : Field} (h : field ∈ kind.fields) :
    kind.fields.find? (·.name = field.name) = some field := by
  cases hfound : kind.fields.find? (·.name = field.name) with
  | none => simpa using List.find?_eq_none.mp hfound field h
  | some other =>
    have hname : other.name = field.name := by simpa using List.find?_some hfound
    rw [field_eq_of_name_eq (List.mem_of_find?_eq_some hfound) h hname]

/-- **The second check never fails after the first**: what the fields take is
what the entity is made of. -/
theorem make_eq_ok {kind : EntityKind} {find : String → Option FieldValue}
    {row : Row kind.fields} (h : Row.Takes kind.fields find row) :
    kind.make row = .ok (kind.ofRow row) := by
  cases kind with
  | element kind =>
    cases kind with
    | description => exact Description.checked_eq_ok.mpr ⟨rfl, Description.wellFormed_ofRow h⟩
    | characterization =>
      exact Characterization.checked_eq_ok.mpr ⟨rfl, Characterization.wellFormed_ofRow h⟩
    | _ => rfl
  | site => rfl

/-- **A kind is built exactly from the records that its fields can read**, and
its entity is the one that the row makes. -/
theorem take_eq_ok {kind : EntityKind} {record : Record} {entity : kind.Carrier} :
    (kind.take record).result = .ok entity ↔
      ∃ row, Row.Takes kind.fields record.get? row ∧ entity = kind.ofRow row := by
  simp only [take, except_bind_eq_ok, Row.take_result_eq_ok kind.nodup_fieldNames]
  refine exists_congr fun row => and_congr_right fun hrow => ?_
  rw [make_eq_ok hrow, Except.ok.injEq, eq_comm]

end EntityKind

/-! ## The entries of a row

What is true of a row field by field is true of all its entries, and an entry is
known by the name of its field. -/

/-- A field with what it holds. -/
structure Entry where
  field : Field
  content : field.content.Carrier

namespace Row

/-- The fields of a row with what they hold, in the order of the schema. -/
def entries : (fields : List Field) → Row fields → List Entry
  | [], _ => []
  | field :: fields, (content, row) => ⟨field, content⟩ :: entries fields row

theorem map_field_entries {fields : List Field} {row : Row fields} :
    (entries fields row).map Entry.field = fields := by
  induction fields with
  | nil => rfl
  | cons field fields ih => rw [entries, List.map_cons, ih]

/-- The field of an entry is one of the schema. -/
theorem field_mem_of_mem_entries {fields : List Field} {row : Row fields} {entry : Entry}
    (h : entry ∈ entries fields row) : entry.field ∈ fields := by
  rw [← @map_field_entries fields row]
  exact List.mem_map_of_mem h

/-- **A row holds what its fields take** exactly if every entry does. -/
theorem takes_iff_entries {fields : List Field} {find : String → Option FieldValue}
    {row : Row fields} :
    Takes fields find row ↔
      ∀ entry ∈ entries fields row, entry.field.content.Takes (find entry.field.name) entry.content := by
  induction fields with
  | nil => simp [Takes, entries]
  | cons field fields ih => rw [Takes, entries, List.forall_mem_cons, ih]

end Row

/-- An entry is known by its name. -/
theorem EntityKind.entry_eq_of_name_eq {kind : EntityKind} {row : Row kind.fields} {a b : Entry}
    (ha : a ∈ Row.entries kind.fields row) (hb : b ∈ Row.entries kind.fields row)
    (h : a.field.name = b.field.name) : a = b := by
  have hnodup : ((Row.entries kind.fields row).map fun entry => entry.field.name).Nodup := by
    have hnames := kind.nodup_fieldNames
    rw [fieldNames, ← @Row.map_field_entries kind.fields row, List.map_map] at hnames
    exact hnames
  exact List.inj_on_of_nodup_map hnodup ha hb h

end SeismicSite
