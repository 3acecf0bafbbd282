import SeismicSite.Proofs.Json.Induction
import SeismicSite.Proofs.Schema.Complaint
import SeismicSite.Proofs.Schema.Take
import SeismicSite.Proofs.Schema.Lookup
/-!
# Records of given parts

A description or a characterization is made either of its parts or of a record
that holds those parts under their names. Both ways end alike: a part that is put
into a record is taken out as it was, and only an indicator is looked at again,
for it may be of another name than its slot takes (`Content.reread`). So a record
of all parts fails where the slots do, at the first wrong one and with its error.
-/

namespace SeismicSite

/-! ## One field -/

namespace Content

/-- What a field with the content holds in a record: nothing for one that is absent,
and a list for any number of values. -/
def wrap : (content : Content) → content.Carrier → Option FieldValue
  | required type, one => some (type.wrap one)
  | optional type, one? => one?.map type.wrap
  | repeated type, items => some (.list (items.map type.wrap))
  | tag _, member? => member?.map fun member => .text (TagSet.tag member)

/-- What is read of a content that was put into a record: the content itself, unless
it is an indicator, which is looked at again. -/
def reread (field : String) (content : Content) (taken : content.Carrier) :
    Except FieldError content.Carrier :=
  match content.type with
  | .element (.indicator _) => content.read field (content.wrap taken)
  | _ => pure taken

/-- **What is put in is taken out.** -/
theorem takes_wrap {content : Content} (htype : ∀ name, content.type ≠ .element (.indicator name))
    (taken : content.Carrier) : content.Takes (content.wrap taken) taken := by
  cases content with
  | required type => exact FieldType.takes_wrap htype taken
  | optional type =>
    cases taken with
    | none => rfl
    | some one => exact ⟨one, FieldType.takes_wrap htype one, rfl⟩
  | repeated type =>
    refine List.forall₂_map_left_iff.mpr (List.forall₂_same.mpr fun one _ => ?_)
    exact FieldType.takes_wrap htype one
  | tag scheme =>
    cases taken with
    | none => rfl
    | some member => exact ⟨_, member, rfl, TagSet.ofTag?_tag member, rfl⟩

theorem read_wrap {content : Content} {field : String} (taken : content.Carrier) :
    content.read field (content.wrap taken) = content.reread field taken := by
  rw [reread]
  split
  · rfl
  · rename_i htype
    exact (read_eq_ok field).mpr (takes_wrap htype taken)

end Content

/-- **The field of a slot looks at an indicator as the slot does.** -/
theorem Slot.reread_toField (slot : Slot) (occupant : Option Indicator) :
    slot.toField.content.reread slot.toField.name occupant = slot.accept occupant := by
  cases occupant with
  | none => rfl
  | some indicator =>
    have hread : (FieldType.element (.indicator slot.name)).read slot.field
        (.element (.indicator indicator)) = expectKind slot.field [slot.kind] indicator := by
      -- the kind of the value is the kind of the indicator in it
      by_cases hkind : HasKind.kind indicator ∈ [slot.kind]
      · rw [expectKind, if_pos hkind]
        exact FieldType.read_eq_ok.mpr ⟨hkind, rfl⟩
      · rw [expectKind, if_neg hkind]
        exact FieldType.read_eq_error.mpr ⟨hkind, rfl⟩
    exact congrArg (some <$> ·) hread

/-! ## Rows -/

namespace Row

/-- The parts of a row under the names of their fields. -/
def given (fields : List Field) (row : Row fields) : List (String × Option FieldValue) :=
  (entries fields row).map fun entry =>
    (entry.field.name, entry.field.content.wrap entry.content)

/-- What is read of a row that was put into a record, field by field. -/
def reread : (fields : List Field) → Row fields → Except FieldError (Row fields)
  | [], _ => pure ()
  | field :: fields, (content, row) => do
    let content ← field.content.reread field.name content
    let row ← reread fields row
    return (content, row)

/-- **A row that was put into a record is read again.** -/
theorem take_result_given {fields : List Field} {row : Row fields} {record : Record}
    (hnames : (fieldNames fields).Nodup)
    (h : ∀ entry ∈ entries fields row,
      record.get? entry.field.name = entry.field.content.wrap entry.content) :
    (take fields record).result = reread fields row := by
  induction fields generalizing record with
  | nil => rfl
  | cons field fields ih =>
    obtain ⟨content, row⟩ := row
    obtain ⟨hfresh, hrest⟩ := List.nodup_cons.mp hnames
    rw [entries, List.forall_mem_cons] at h
    have hlater : ∀ entry ∈ entries fields row, (record.erase field.name).get? entry.field.name =
        entry.field.content.wrap entry.content := by
      intro entry hentry
      have hname : entry.field.name ∈ fieldNames fields :=
        List.mem_map_of_mem (field_mem_of_mem_entries hentry)
      rw [Record.get?_erase, if_neg (ne_of_mem_of_not_mem hname hfresh).symm, h.2 entry hentry]
    rw [take, reread, h.1, Content.read_wrap]
    cases field.content.reread field.name content with
    | error error => rfl
    | ok content =>
      simp only [ih hrest hlater]
      rfl

end Row

/-- The parts of a row are found in their record. -/
theorem EntityKind.get?_ofPresent_given {kind : EntityKind} {row : Row kind.fields} {entry : Entry}
    (hentry : entry ∈ Row.entries kind.fields row) :
    (Record.ofPresent (Row.given kind.fields row)).get? entry.field.name =
      entry.field.content.wrap entry.content := by
  have hnames : ((Row.given kind.fields row).map Prod.fst).Nodup := by
    have hfields := kind.nodup_fieldNames
    rw [fieldNames, ← @Row.map_field_entries kind.fields row, List.map_map] at hfields
    rwa [Row.given, List.map_map]
  rw [Record.get?_ofPresent hnames,
    (Json.lookup_eq_some_iff hnames).mpr (List.mem_map_of_mem hentry)]
  rfl

/-- **A record of all parts makes what the check accepts of them**, and fails as the
check does. -/
theorem EntityKind.ofRecord_given_eq {kind : EntityKind} {row : Row kind.fields}
    {checked : Except FieldError kind.Carrier} {toRow : kind.Carrier → Row kind.fields}
    (hread : Row.reread kind.fields row = toRow <$> checked)
    (hmake : ∀ entity, checked = .ok entity → kind.make (toRow entity) = .ok entity) :
    kind.ofRecord (.ofPresent (Row.given kind.fields row)) = checked := by
  rw [ofRecord, take, Row.take_result_given kind.nodup_fieldNames
    fun entry => get?_ofPresent_given, hread]
  cases checked with
  | error error => rfl
  | ok entity => exact hmake entity rfl

/-! ## Descriptions and characterizations -/

namespace Description

/-- The parts of a description under their names; an absent one has no value. -/
def given (d : Description) : List (String × Option FieldValue) :=
  [("latitude", some (.float d.latitude)),
    ("longitude", some (.float d.longitude)),
    ("altitude", d.altitude.map .float),
    ("minDistanceFromStation", d.minDistance.map .float),
    ("maxDistanceFromStation", d.maxDistance.map .float),
    ("EC8", d.ec8.map fun indicator => .element (.indicator indicator)),
    ("bedrock_depth", d.bedrockDepth.map fun indicator => .element (.indicator indicator)),
    ("H800", d.h800.map fun indicator => .element (.indicator indicator)),
    ("geological_unit", d.geologicalUnit.map fun indicator => .element (.indicator indicator)),
    ("morphology", d.morphology.map .text),
    ("topologyA", d.slopeClass.map fun member => .text member.tag),
    ("topologyB", d.landform.map fun member => .text member.tag)]

/-- The slots are read in the order in which they are checked. -/
theorem reread_toRow (d : Description) : Row.reread fields d.toRow = toRow <$> d.checked := by
  simp only [fields, toRow, Row.reread, Slot.reread_toField]
  simp only [Content.reread, Content.type, checked, bind_assoc, pure_bind]
  cases ec8Slot.accept d.ec8 with
  | error error => rfl
  | ok ec8 =>
    cases bedrockDepthSlot.accept d.bedrockDepth with
    | error error => rfl
    | ok bedrockDepth =>
      cases h800Slot.accept d.h800 with
      | error error => rfl
      | ok h800 => cases geologicalUnitSlot.accept d.geologicalUnit <;> rfl

/-- **The record of its parts makes the description that its parts make.** -/
theorem ofRecord_given (d : Description) :
    (EntityKind.element .description).ofRecord (.ofPresent d.given) = d.checked := by
  have hgiven : d.given = Row.given (EntityKind.element .description).fields d.toRow := rfl
  have hmake : ∀ accepted, d.checked = .ok accepted →
      (ofRow accepted.toRow).checked = .ok accepted := by
    intro accepted haccepted
    obtain ⟨rfl, -⟩ := checked_eq_ok.mp haccepted
    exact haccepted
  rw [hgiven]
  exact @EntityKind.ofRecord_given_eq (.element .description) d.toRow d.checked toRow
    d.reread_toRow hmake

end Description

namespace Characterization

/-- The parts of a characterization under their names; the profiles are a list. -/
def given (c : Characterization) : List (String × Option FieldValue) :=
  [("publicID", c.publicId.map .text),
    ("analysis_publicID", c.analysisPublicId.map .text),
    ("resonance_frequency",
      c.resonanceFrequency.map fun indicator => .element (.indicator indicator)),
    ("velocity_s30", c.velocityS30.map fun indicator => .element (.indicator indicator)),
    ("velocity_profile_count", c.profileCount.map .integer),
    ("velocity_profile", some (.list (c.profiles.map fun profile => .element (.profile profile)))),
    ("spt_logs_count", c.sptLogs.map .integer),
    ("cpt_logs_count", c.cptLogs.map .integer),
    ("borehole_logs_count", c.boreholeLogs.map .integer)]

/-- The slots are read in the order in which they are checked. -/
theorem reread_toRow (c : Characterization) : Row.reread fields c.toRow = toRow <$> c.checked := by
  simp only [fields, toRow, Row.reread, Slot.reread_toField]
  simp only [Content.reread, Content.type, checked, bind_assoc, pure_bind]
  cases resonanceFrequencySlot.accept c.resonanceFrequency with
  | error error => rfl
  | ok resonanceFrequency => cases velocityS30Slot.accept c.velocityS30 <;> rfl

/-- **The record of its parts makes the characterization that its parts make.** -/
theorem ofRecord_given (c : Characterization) :
    (EntityKind.element .characterization).ofRecord (.ofPresent c.given) = c.checked := by
  have hgiven : c.given = Row.given (EntityKind.element .characterization).fields c.toRow := rfl
  have hmake : ∀ accepted, c.checked = .ok accepted →
      (ofRow accepted.toRow).checked = .ok accepted := by
    intro accepted haccepted
    obtain ⟨rfl, -⟩ := checked_eq_ok.mp haccepted
    exact haccepted
  rw [hgiven]
  exact @EntityKind.ofRecord_given_eq (.element .characterization) c.toRow c.checked toRow
    c.reread_toRow hmake

end Characterization

/-- **Building from parts and building from a record of them agree**, for every
description and every characterization and whatever indicators are in their slots:
the same entity is made, or the same slot is rejected for the same reason. -/
theorem ofRecord_given_eq_checked :
    (∀ d : Description,
        (EntityKind.element .description).ofRecord (.ofPresent d.given) = d.checked) ∧
      ∀ c : Characterization,
        (EntityKind.element .characterization).ofRecord (.ofPresent c.given) = c.checked :=
  ⟨Description.ofRecord_given, Characterization.ofRecord_given⟩

/-- Where two slots are wrong, the first of them is rejected. -/
example (position : Float) :
    let depth : Indicator := .bedrockDepth (.text "deep")
    let wrong : Description :=
      { latitude := position
        longitude := position
        ec8 := some depth
        h800 := some depth }
    (EntityKind.element .description).ofRecord (.ofPresent wrong.given) =
      .error (.typeMismatch "EC8" [.entity (.element (.indicator .ec8))]
        (some (.entity (.element (.indicator .bedrockDepth))))) := by
  cbv

end SeismicSite
