import SeismicSite.Proofs.Schema.Complaint
import SeismicSite.Proofs.Schema.Stored
/-!
# Readers of a tag

A text is a tag of a scheme if a member is written so, and there is one such member at
most. The readers of a text ask for nothing else: the look-up of a tag, the reader of a
tag standing alone, the check of a field, and the description that is made of a record.
-/

namespace SeismicSite

variable {scheme : Scheme} {text : String}

namespace TagSet

/-- **A text is looked up as the member that is written so.** -/
theorem ofTag?_eq_some {member : scheme.Carrier} : ofTag? text = some member ↔ tag member = text := by
  constructor
  · exact tag_eq_of_ofTag?
  · rintro rfl
    exact ofTag?_tag member

/-- No member is found if none is written so. -/
theorem ofTag?_eq_none :
    (ofTag? text : Option scheme.Carrier) = none ↔ ∀ member : scheme.Carrier, tag member ≠ text := by
  simp only [Option.eq_none_iff_forall_ne_some, ne_eq, ofTag?_eq_some]

/-- The member stored is the one that the text under the name is looked up as. -/
theorem eq_ofTag?_of_stores {found : Option FieldValue} {taken : Option scheme.Carrier}
    (h : (Content.tag scheme).Stores found taken) (hfound : found = some (.text text)) :
    taken = ofTag? text := by
  have hstored : found = taken.map fun member => .text (tag member) := h
  obtain ⟨member, rfl, htext⟩ := Option.map_eq_some_iff.mp (hstored.symm.trans hfound)
  exact (ofTag?_eq_some.mpr (FieldValue.text.inj htext)).symm

/-- **A reader gives exactly the member that a text is the tag of**, if it gives it, gives
one member at most, and none where the text is no tag. -/
theorem gives_iff {Gives : scheme.Carrier → Prop}
    (haccepts : ∀ member, tag member = text → Gives member)
    (hrejects : (∀ member : scheme.Carrier, tag member ≠ text) → ∀ member, ¬ Gives member)
    (hunique : ∀ a b, Gives a → Gives b → a = b) :
    ∀ member, Gives member ↔ tag member = text := by
  refine fun member => ⟨fun hgives => ?_, haccepts member⟩
  by_contra hnot
  refine hrejects (fun other hother => hnot ?_) member hgives
  rw [hunique member other hgives (haccepts other hother), hother]

end TagSet

/-- The one error of a text that is no tag. -/
theorem expectTag_eq_error {field : String} (h : ∀ member : scheme.Carrier, TagSet.tag member ≠ text) :
    expectTag scheme.Carrier field text = .error (.outside scheme.Carrier field text) := by
  rw [expectTag, TagSet.ofTag?_eq_none.mpr h]

/-- **A text in a field is accepted as the member that is written so**, whether the
field may be empty or not. -/
theorem checkTag_eq_ok {field : String} {allowAbsent : Bool} {member : scheme.Carrier} :
    checkTag scheme.Carrier field allowAbsent (some text) = .ok (some member) ↔
      TagSet.tag member = text := by
  rw [checkTag, map_eq_ok, ← TagSet.ofTag?_eq_some]
  simp only [expectTag_eq_ok, Option.some.injEq, exists_eq_right']

namespace Description

/-- The class that a description has by a scheme. -/
def classOf (d : Description) : (scheme : Scheme) → Option scheme.Carrier
  | .slopeClass => d.slopeClass
  | .landform => d.landform

/-- The field of a scheme in a description. -/
def classField (scheme : Scheme) : Field :=
  ⟨TagSet.field scheme.Carrier, .tag scheme⟩

theorem classField_mem (scheme : Scheme) : classField scheme ∈ Description.fields := by
  cases scheme <;> decide

/-- A description finds the text in the field of the scheme, and what it finds in all
its other fields conforms. -/
structure FindsTag (scheme : Scheme) (text : String) (find : String → Option FieldValue) : Prop where
  text : find (TagSet.field scheme.Carrier) = some (.text text)
  others : ∀ field ∈ Description.fields, field.name ≠ TagSet.field scheme.Carrier →
    field.content.Conforms (find field.name)

/-- The class of a description that is read is the member that the text is looked up as. -/
theorem classOf_ofRow {find : String → Option FieldValue} {row : Row Description.fields}
    (hrow : Row.Takes Description.fields find row)
    (htext : find (TagSet.field scheme.Carrier) = some (.text text)) :
    (ofRow row).classOf scheme = TagSet.ofTag? text := by
  have hstored : (ofRow row).Stored find :=
    @EntityKind.stored_ofRow find (.element .description) row (Row.stores_of_takes hrow)
  cases scheme with
  | slopeClass => exact TagSet.eq_ofTag?_of_stores hstored.slopeClass htext
  | landform => exact TagSet.eq_ofTag?_of_stores hstored.landform htext

/-- **A description is made with the member that is written so.** -/
theorem FindsTag.exists_row {find : String → Option FieldValue} {member : scheme.Carrier}
    (h : FindsTag scheme text find) (htag : TagSet.tag member = text) :
    ∃ row, Row.Takes Description.fields find row ∧ (ofRow row).classOf scheme = some member := by
  have hmember := TagSet.ofTag?_eq_some.mpr htag
  have hconforms : ∀ field ∈ Description.fields, field.content.Conforms (find field.name) := by
    intro field hfield
    by_cases hname : field.name = TagSet.field scheme.Carrier
    · have hsame : field = classField scheme :=
        @EntityKind.field_eq_of_name_eq (.element .description) _ _ hfield (classField_mem scheme) hname
      rw [hsame, classField, h.text]
      exact TagSet.mem_tags_iff.mpr ⟨member, hmember⟩
    · exact h.others field hfield hname
  simp only [← Content.exists_takes_iff_conforms, ← Row.exists_takes_iff] at hconforms
  obtain ⟨row, hrow⟩ := hconforms
  exact ⟨row, hrow, (classOf_ofRow hrow h.text).trans hmember⟩

/-- **Where no member is written so, the field of the scheme complains.** -/
theorem FindsTag.complains {find : String → Option FieldValue} (h : FindsTag scheme text find)
    (hno : ∀ member : scheme.Carrier, TagSet.tag member ≠ text) :
    Complains Description.fields find
      (.outside scheme.Carrier (TagSet.field scheme.Carrier) text) := by
  obtain ⟨before, after, hsplit⟩ := List.append_of_mem (classField_mem scheme)
  refine ⟨before, classField scheme, after, hsplit, fun earlier hmem => ?_, ?_, ?_⟩
  · refine h.others earlier (hsplit ▸ List.mem_append_left _ hmem) ?_
    -- the field of the scheme stands behind the earlier ones, and no name is declared twice
    have hnames := EntityKind.nodup_fieldNames (.element .description)
    rw [EntityKind.fields, ElementKind.fields, hsplit, fieldNames, List.map_append, List.map_cons,
      List.nodup_append] at hnames
    exact hnames.2.2 _ (List.mem_map_of_mem hmem) _ List.mem_cons_self
  · rw [classField, h.text]
    intro hconforms
    obtain ⟨member, hmember⟩ := TagSet.mem_tags_iff.mp hconforms
    exact hno member (TagSet.ofTag?_eq_some.mp hmember)
  · rw [classField, h.text]
    rfl

/-- A record is rejected for the field of the scheme where no member is written so. -/
theorem FindsTag.ofRecord_eq_error {record : Record} (h : FindsTag scheme text record.get?)
    (hno : ∀ member : scheme.Carrier, TagSet.tag member ≠ text) :
    (EntityKind.element .description).ofRecord record =
      .error (.outside scheme.Carrier (TagSet.field scheme.Carrier) text) :=
  EntityKind.take_eq_error.mpr (h.complains hno)

/-- **A record makes a description of the class** that the text is the tag of. -/
theorem FindsTag.ofRecord_iff {record : Record} (h : FindsTag scheme text record.get?) :
    ∀ member : scheme.Carrier,
      (∃ d, (EntityKind.element .description).ofRecord record = .ok d ∧ d.classOf scheme = some member) ↔
        TagSet.tag member = text := by
  refine TagSet.gives_iff (fun member htag => ?_) (fun hno member => ?_) fun a b => ?_
  · obtain ⟨row, hrow, hclass⟩ := h.exists_row htag
    exact ⟨ofRow row, EntityKind.take_eq_ok.mpr ⟨row, hrow, rfl⟩, hclass⟩
  · rw [h.ofRecord_eq_error hno]
    rintro ⟨d, hd, -⟩
    cases hd
  · rintro ⟨d, hd, ha⟩ ⟨d', hd', hb⟩
    obtain rfl := Except.ok.inj (hd.symm.trans hd')
    exact Option.some.inj (ha.symm.trans hb)

end Description

end SeismicSite
