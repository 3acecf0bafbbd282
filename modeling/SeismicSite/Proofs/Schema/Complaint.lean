import SeismicSite.Proofs.Failure
import SeismicSite.Proofs.Schema.Conforming
/-!
# What is wrong with a record

An entity that cannot be made of a record has one field to blame: the first, in
the order of the schema, that does not conform. What is said of it follows from
what was found under its name (`Content.complaint`), so the error of a whole
schema is known without following the reading (`Complains`).
-/

namespace SeismicSite

/-! ## One field -/

/-- The error of a field that does not conform: the kind of what was found, or
that nothing was; of a list the kind of the first item that does not conform; of
a text that is no tag the text itself. -/
def Content.complaint (field : String) : Content → Option FieldValue → FieldError
  | repeated type, some (.list items) =>
    .typeMismatch field type.expected
      ((items.find? fun item => ¬ type.Conforms item).map FieldValue.kind)
  | tag scheme, some (.text text) => .unknownTag field (TagSet.tags scheme.Carrier) text
  | content, found => .typeMismatch field content.type.expected (found.map FieldValue.kind)

/-- A complaint names its field. -/
@[simp] theorem Content.field_complaint {field : String} {content : Content}
    {found : Option FieldValue} : (content.complaint field found).field = field := by
  unfold complaint
  split <;> rfl

namespace FieldType

/-- A value that has no content of a type is handed back as it is. -/
theorem eq_of_unwrap_eq_error {type : FieldType} {value rejected : FieldValue}
    (h : type.unwrap value = .error rejected) : rejected = value := by
  cases type with
  | year =>
    cases value with
    | integer n => cases hfits : narrow? n <;> simp_all [unwrap]
    | _ => simp_all [unwrap]
  | element kind =>
    cases value with
    | element one => cases kind <;> cases one <;> simp_all [unwrap]
    | _ => simp_all [unwrap]
  | _ => cases value <;> simp_all [unwrap]

/-- **A value that a type rejects does not conform**, and its kind is
reported, be it one of the kinds that the type accepts or not. -/
theorem read_eq_error {type : FieldType} {field : String} {value : FieldValue} {error : FieldError} :
    type.read field value = .error error ↔
      ¬ type.Conforms value ∧ error = .typeMismatch field type.expected (some value.kind) := by
  refine eq_error_iff ?_ fun e he => ?_
  · rw [exists_error_iff, ← exists_takes_iff_conforms]
    simp only [read_eq_ok]
  · rw [read, bind_eq_error] at he
    rcases he with hkind | ⟨accepted, haccepted, hunwrap⟩
    · unfold expectKind at hkind
      split at hkind
      · cases hkind
      · exact (Except.error.inj hkind).symm
    · -- the kind was right, so the value is a year out of range, and it is reported all the same
      obtain ⟨rejected, hrejected, rfl⟩ := mapError_eq_error.mp hunwrap
      have hsame : accepted = value := by
        unfold expectKind at haccepted
        split at haccepted
        · exact (Except.ok.inj haccepted).symm
        · cases haccepted
      rw [eq_of_unwrap_eq_error hrejected, hsame]

end FieldType

namespace Content

/-- The first item of a list that does not conform is the one that is found. -/
theorem find?_not_conforms {type : FieldType} {before after : List FieldValue} {item : FieldValue}
    (hbefore : ∀ earlier ∈ before, type.Conforms earlier) (hitem : ¬ type.Conforms item) :
    (before ++ item :: after).find? (fun item => ¬ type.Conforms item) = some item := by
  rw [List.find?_eq_some_iff_append]
  refine ⟨by simpa using hitem, before, after, rfl, fun earlier hmem => ?_⟩
  simpa using hbefore earlier hmem

/-- The error of a field is its complaint. -/
theorem eq_complaint_of_read {content : Content} {field : String} {found : Option FieldValue}
    {error : FieldError} (h : content.read field found = .error error) :
    error = content.complaint field found := by
  cases content with
  | required type =>
    cases found with
    | none => exact (Except.error.inj h).symm
    | some value => exact (FieldType.read_eq_error.mp h).2
  | optional type =>
    cases found with
    | none => cases h
    | some value => exact (FieldType.read_eq_error.mp (map_eq_error.mp h)).2
  | repeated type =>
    cases found with
    | none => cases h
    | some value =>
      cases value with
      | list items =>
        obtain ⟨before, item, after, rfl, hbefore, hitem⟩ := mapM_eq_error_iff.mp h
        obtain ⟨hnot, rfl⟩ := FieldType.read_eq_error.mp hitem
        have hconform : ∀ earlier ∈ before, type.Conforms earlier := by
          simpa only [FieldType.read_eq_ok, FieldType.exists_takes_iff_conforms] using hbefore
        rw [complaint, find?_not_conforms hconform hnot, Option.map_some]
      | _ => exact (FieldType.read_eq_error.mp (map_eq_error.mp h)).2
  | tag scheme =>
    cases found with
    | none => cases h
    | some value =>
      rw [read, bind_eq_error] at h
      rcases h with hkind | ⟨text, htext, htag⟩
      · obtain ⟨hnot, rfl⟩ := FieldType.read_eq_error.mp hkind
        cases value with
        | text s => exact absurd List.mem_cons_self hnot
        | _ => rfl
      · obtain rfl := FieldType.takes_text.mp (FieldType.read_eq_ok.mp htext)
        rw [map_eq_error, expectTag] at htag
        split at htag
        · cases htag
        · exact (Except.error.inj htag).symm

/-- **A field fails exactly if it does not conform**, with its complaint. -/
theorem read_eq_error {content : Content} {field : String} {found : Option FieldValue}
    {error : FieldError} :
    content.read field found = .error error ↔
      ¬ content.Conforms found ∧ error = content.complaint field found := by
  refine eq_error_iff ?_ fun e he => eq_complaint_of_read he
  rw [exists_error_iff, ← exists_takes_iff_conforms]
  simp only [read_eq_ok]

end Content

/-! ## A whole schema -/

/-- The error is the complaint of the first field that does not conform. -/
def Complains (fields : List Field) (find : String → Option FieldValue) (error : FieldError) :
    Prop :=
  ∃ before field after, fields = before ++ field :: after ∧
    (∀ earlier ∈ before, earlier.content.Conforms (find earlier.name)) ∧
    ¬ field.content.Conforms (find field.name) ∧
    error = field.content.complaint field.name (find field.name)

/-- The first field complains, or it conforms and the complaint comes from
behind it. -/
theorem complains_cons {field : Field} {fields : List Field} {find : String → Option FieldValue}
    {error : FieldError} :
    Complains (field :: fields) find error ↔
      (¬ field.content.Conforms (find field.name) ∧
          error = field.content.complaint field.name (find field.name)) ∨
        (field.content.Conforms (find field.name) ∧ Complains fields find error) := by
  rw [Complains, exists_split_cons_iff]
  simp only [List.forall_mem_cons, List.not_mem_nil, false_imp_iff, forall_true_iff, true_and]
  refine or_congr_right ?_
  constructor
  · rintro ⟨before, one, after, hsplit, ⟨hfield, hbefore⟩, hone⟩
    exact ⟨hfield, before, one, after, hsplit, hbefore, hone⟩
  · rintro ⟨hfield, before, one, after, hsplit, hbefore, hone⟩
    exact ⟨before, one, after, hsplit, ⟨hfield, hbefore⟩, hone⟩

/-- Only the look-ups of the declared names matter. -/
theorem complains_congr {fields : List Field} {find find' : String → Option FieldValue}
    {error : FieldError} (h : ∀ name ∈ fieldNames fields, find name = find' name) :
    Complains fields find error ↔ Complains fields find' error := by
  induction fields with
  | nil => simp [Complains]
  | cons field fields ih =>
    simp only [fieldNames, List.map_cons, List.forall_mem_cons] at h
    rw [complains_cons, complains_cons, h.1, ih h.2]

/-- **A schema fails with the complaint of the first field that does not
conform** in the record as it was given. -/
theorem Row.take_result_eq_error {fields : List Field} {record : Record} {error : FieldError}
    (hnames : (fieldNames fields).Nodup) :
    (take fields record).result = .error error ↔ Complains fields record.get? error := by
  induction fields generalizing record with
  | nil => simp [take, Complains]
  | cons field fields ih =>
    obtain ⟨hfresh, hrest⟩ := List.nodup_cons.mp hnames
    -- a field is removed once it is read, but no later field has its name
    have hlater : Complains fields (record.erase field.name).get? error ↔
        Complains fields record.get? error :=
      complains_congr fun name hname => by
        rw [Record.get?_erase, if_neg (ne_of_mem_of_not_mem hname hfresh).symm]
    rw [complains_cons, ← hlater, ← ih hrest, take]
    cases hread : field.content.read field.name (record.get? field.name) with
    | error cause =>
      obtain ⟨hnot, rfl⟩ := Content.read_eq_error.mp hread
      simp [hnot, eq_comm]
    | ok value =>
      have hconforms : field.content.Conforms (record.get? field.name) :=
        Content.exists_takes_iff_conforms.mp ⟨value, (Content.read_eq_ok field.name).mp hread⟩
      simp [hconforms, except_map_eq_error]

namespace EntityKind

/-- **A kind fails with the complaint of its first field that does not
conform**: the second check of the slots has nothing to add. -/
theorem take_eq_error {kind : EntityKind} {record : Record} {error : FieldError} :
    (kind.take record).result = .error error ↔ Complains kind.fields record.get? error := by
  rw [take, except_bind_eq_error, Row.take_result_eq_error kind.nodup_fieldNames]
  refine or_iff_left ?_
  rintro ⟨row, hrow, hmake⟩
  rw [make_eq_ok ((Row.take_result_eq_ok kind.nodup_fieldNames).mp hrow)] at hmake
  cases hmake

/-- **A record of which no entity can be made is rejected for the first field
that is missing or does not conform**, in the order in which the kind declares
its fields: all fields before it conform, and the error names it and tells what
was found in it. -/
theorem take_fails_at_first_nonconforming {kind : EntityKind} {record : Record}
    {error : FieldError} :
    (kind.take record).result = .error error ↔
      ∃ before field after, kind.fields = before ++ field :: after ∧
        (∀ earlier ∈ before, earlier.content.Conforms (record.get? earlier.name)) ∧
        ¬ field.content.Conforms (record.get? field.name) ∧
        error.field = field.name ∧
        error = field.content.complaint field.name (record.get? field.name) := by
  rw [take_eq_error, Complains]
  refine exists_congr fun before => exists_congr fun field => exists_congr fun after => ?_
  refine and_congr_right fun _ => and_congr_right fun _ => and_congr_right fun _ => ?_
  refine ⟨fun h => ⟨?_, h⟩, And.right⟩
  rw [h, Content.field_complaint]

/-- Three fields are at fault, and the first that is read is reported: the year
is an integer, but of more than 32 bits. -/
example :
    ((element .literature).take (.ofList
      [("title", .text "Vs30 map"), ("year", .integer 3000000000), ("DOI", .integer 10),
        ("language", .list [])])).result =
      .error (.typeMismatch "year" [.integer] (some .integer)) := by
  decide

end EntityKind

end SeismicSite
