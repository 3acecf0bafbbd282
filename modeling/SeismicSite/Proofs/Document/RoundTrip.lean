import SeismicSite.Proofs.Document.Annotation
import SeismicSite.Proofs.Json.Induction
/-!
# Reading back what was written

A site that is written and annotated is read back as it was, to the bit. Only
a float that is infinite or no number cannot be read back, for it is written
as null.

A content restores if it is read back where a field asks for its type. The
step from the fields of a row to the element they make is the same for every
kind; the rest is one list of contents for each kind, from the leaves up.
-/

namespace SeismicSite

/-! ## Contents that restore -/

open Document

/-- The content is read back from what it is written as. -/
structure FieldType.Restores (type : FieldType) (content : type.Carrier) : Prop where
  read : readValue (annotateValue type (type.encode content)) = .ok (type.wrap content)
  takes : type.Takes (type.wrap content) content
  sorted : (annotateValue type (type.encode content)).Sorted

/-- All that a field holds is read back. -/
def Content.Restores : (content : Content) → content.Carrier → Prop
  | required type, value => type.Restores value
  | optional type, value => ∀ one ∈ value, type.Restores one
  | repeated type, values => ∀ one ∈ values, type.Restores one
  | tag _, _ => True

namespace FieldType

theorem restores_text (s : String) : text.Restores s :=
  ⟨rfl, takes_text.mpr rfl, trivial⟩

theorem restores_number {x : Float} (finite : x.isFinite = true) : number.Restores x := by
  have hencode : number.encode x = .number (.float x finite) := dif_pos finite
  refine ⟨?_, ⟨List.mem_cons_self, rfl⟩, ?_⟩
  · rw [hencode]
    rfl
  · rw [hencode]
    trivial

theorem readValue_ofInt64 (n : Int64) : readValue (.ofInt64 n) = .ok (.integer n) := by
  have hle : n.toInt ≤ Int64.maxValue.toInt := n.toInt_le
  rw [Json.ofInt64, readValue_number, numberValue_of_le hle, Int64.ofInt_toInt]

theorem restores_integer (n : Int64) : integer.Restores n :=
  ⟨readValue_ofInt64 n, ⟨List.mem_cons_self, rfl⟩, trivial⟩

theorem restores_year (n : Int32) : year.Restores n :=
  ⟨readValue_ofInt64 n.toInt64, @takes_wrap .year nofun n, trivial⟩

theorem restores_reading {value : IndicatorValue} (h : ∀ x ∈ value.floats, x.isFinite = true) :
    reading.Restores value := by
  cases value with
  | text s => exact ⟨rfl, ⟨by simp [wrap, FieldValue.kind, expected], rfl⟩, trivial⟩
  | number x =>
    have finite : x.isFinite = true := h x List.mem_cons_self
    have hencode : reading.encode (.number x) = .number (.float x finite) := dif_pos finite
    refine ⟨?_, ⟨List.mem_cons_self, rfl⟩, ?_⟩
    · rw [hencode]
      rfl
    · rw [hencode]
      trivial

end FieldType

namespace Document

/-- The items of a list are read back one by one. -/
theorem forall₂_of_restores {type : FieldType} {contents : List type.Carrier}
    (h : ∀ content ∈ contents, type.Restores content) :
    List.Forall₂ (fun item value => readValue item = .ok value)
        (annotateItems type (contents.map type.encode)) (contents.map type.wrap) ∧
      List.Forall₂ type.Takes (contents.map type.wrap) contents := by
  induction contents with
  | nil => exact ⟨.nil, .nil⟩
  | cons content contents ih =>
    obtain ⟨hhere, hthere⟩ := List.forall_mem_cons.mp h
    obtain ⟨hread, htakes⟩ := ih hthere
    exact ⟨.cons hhere.read hread, .cons hhere.takes htakes⟩

end Document

namespace Content

/-- A field that is written is read back. -/
theorem Restores.of_encode {content : Content} {taken : content.Carrier} {value : Json}
    (h : content.Restores taken) (hencode : content.encode taken = some value) :
    (∃ found, readValue (annotateValue content.type value) = .ok found ∧
      content.Takes (some found) taken) ∧ (annotateValue content.type value).Sorted := by
  cases content with
  | required type =>
    obtain rfl := Option.some.inj hencode
    exact ⟨⟨_, h.read, h.takes⟩, h.sorted⟩
  | optional type =>
    obtain ⟨one, rfl, rfl⟩ := Option.map_eq_some_iff.mp hencode
    have hone := h one rfl
    exact ⟨⟨_, hone.read, one, hone.takes, rfl⟩, hone.sorted⟩
  | repeated type =>
    obtain rfl := Option.some.inj hencode
    obtain ⟨hread, htakes⟩ := forall₂_of_restores h
    refine ⟨⟨.list (taken.map type.wrap), ?_, htakes⟩, ?_⟩
    · exact map_eq_ok.mpr ⟨_, readItems_eq_ok.mpr hread, rfl⟩
    · refine Json.sorted_array.mpr fun item hitem => ?_
      rw [annotateItems_eq_map, List.map_map] at hitem
      obtain ⟨one, hone, rfl⟩ := List.mem_map.mp hitem
      exact (h one hone).sorted
  | tag scheme =>
    obtain ⟨member, rfl, rfl⟩ := Option.map_eq_some_iff.mp hencode
    rw [TagSet.toJson_eq_tag]
    exact ⟨⟨_, rfl, _, member, rfl, TagSet.ofTag?_tag member, rfl⟩, trivial⟩

/-- A field that is left out is read back as missing. -/
theorem takes_none_of_encode {content : Content} {taken : content.Carrier}
    (h : content.encode taken = none) : content.Takes none taken := by
  cases content with
  | required type => cases h
  | optional type => exact Option.map_eq_none_iff.mp h
  | repeated type => cases h
  | tag scheme => exact Option.map_eq_none_iff.mp h

end Content

/-! ## Rows that restore -/

/-- Every field of the row is read back. -/
def Row.Restores : (fields : List Field) → Row fields → Prop
  | [], _ => True
  | field :: fields, (content, row) => field.content.Restores content ∧ Restores fields row

theorem Row.restores_iff_entries {fields : List Field} {row : Row fields} :
    Restores fields row ↔
      ∀ entry ∈ entries fields row, entry.field.content.Restores entry.content := by
  induction fields with
  | nil => simp [Restores, entries]
  | cons field fields ih => rw [Restores, entries, List.forall_mem_cons, ih]

namespace Document

/-- **An entity is built again from the members of its row**, in whatever order
they stand. -/
theorem exists_build_of_restores {kind : EntityKind} {row : Row kind.fields}
    {members : List (String × Json)} (hrow : Row.Restores kind.fields row)
    (hnodup : (members.map Prod.fst).Nodup)
    (hmembers : ∀ name value, name ≠ typeMember → ((name, value) ∈ members ↔
      (name, value) ∈ annotateMembers kind.fields (Row.members kind.fields row))) :
    ∃ fields, readMembers members = .ok fields ∧
      build kind (.ofList fields) = .ok (kind.ofRow row) := by
  have hentries := Row.restores_iff_entries.mp hrow
  have hmember : ∀ name value, name ≠ typeMember → ((name, value) ∈ members ↔
      ∃ entry ∈ Row.entries kind.fields row, entry.field.name = name ∧
        ∃ plain, entry.field.content.encode entry.content = some plain ∧
          value = annotateValue entry.field.content.type plain) :=
    fun name value htype => (hmembers name value htype).trans mem_annotateMembers_row
  obtain ⟨fields, hfields⟩ := exists_readMembers_iff.mpr fun name value hmem htype => by
    obtain ⟨entry, hentry, -, plain, hencode, rfl⟩ := (hmember name value htype).mp hmem
    obtain ⟨⟨found, hfound, -⟩, -⟩ := (hentries entry hentry).of_encode hencode
    exact ⟨found, hfound⟩
  have hget := @get?_readMembers_eq_some _ _ hnodup hfields
  refine ⟨fields, hfields, build_eq_ok.mpr ⟨⟨row, ?_, rfl⟩, ?_⟩⟩
  · refine Row.takes_iff_entries.mpr fun entry hentry => ?_
    have htype := name_ne_typeMember (Row.field_mem_of_mem_entries hentry)
    cases hencode : entry.field.content.encode entry.content with
    | none =>
      have hmissing : (Record.ofList fields).get? entry.field.name = none := by
        refine (get?_readMembers_eq_none hnodup hfields htype).mpr fun value hmem => ?_
        -- a member of this name would be of this entry, which writes none
        obtain ⟨other, hother, hname, plain, hplain, -⟩ := (hmember _ value htype).mp hmem
        rw [EntityKind.entry_eq_of_name_eq hother hentry hname, hencode] at hplain
        cases hplain
      rw [hmissing]
      exact Content.takes_none_of_encode hencode
    | some plain =>
      obtain ⟨⟨found, hfound, htakes⟩, -⟩ := (hentries entry hentry).of_encode hencode
      have hmem := (hmember _ _ htype).mpr ⟨entry, hentry, rfl, plain, hencode, rfl⟩
      rw [hget.mpr ⟨htype, _, hmem, hfound⟩]
      exact htakes
  · intro name found hfound
    obtain ⟨htype, value, hmem, -⟩ := hget.mp hfound
    obtain ⟨entry, hentry, rfl, -⟩ := (hmember name value htype).mp hmem
    exact List.mem_map_of_mem (Row.field_mem_of_mem_entries hentry)

/-! ## Objects -/

/-- The annotated values of a row are sorted. -/
theorem sorted_annotateMembers_row {kind : EntityKind} {row : Row kind.fields}
    (hrow : Row.Restores kind.fields row) {name : String} {value : Json}
    (h : (name, value) ∈ annotateMembers kind.fields (Row.members kind.fields row)) :
    value.Sorted := by
  obtain ⟨entry, hentry, -, plain, hencode, rfl⟩ := mem_annotateMembers_row.mp h
  exact ((Row.restores_iff_entries.mp hrow entry hentry).of_encode hencode).2

/-- **An element of restored fields restores.** -/
theorem restores_ofRow {kind : ElementKind} {row : Row kind.fields}
    (hrow : Row.Restores kind.fields row) : (FieldType.element kind).Restores (kind.ofRow row) := by
  have hannotated : annotateValue (.element kind) ((FieldType.element kind).encode (kind.ofRow row)) =
      .ofMembers ((typeMember, .string kind.typeName) ::
        annotateMembers kind.fields (Row.members kind.fields row)) := by
    rw [FieldType.encode, ElementKind.toJson_ofRow, annotateValue, unnamed_annotateMembers]
  have hnodup : (((typeMember, Json.string kind.typeName) ::
      annotateMembers kind.fields (Row.members kind.fields row)).map Prod.fst).Nodup :=
    List.nodup_cons.mpr ⟨@type_not_mem_annotateMembers_row (.element kind) row,
      @nodup_annotateMembers_row (.element kind) row⟩
  have hsorted : (Json.ofMembers ((typeMember, .string kind.typeName) ::
      annotateMembers kind.fields (Row.members kind.fields row))).Sorted := by
    refine Json.sorted_ofMembers fun name value hmem => ?_
    rcases List.mem_cons.mp hmem with heq | hmem
    · obtain ⟨rfl, rfl⟩ := Prod.mk.inj heq
      trivial
    · exact @sorted_annotateMembers_row (.element kind) row hrow name value hmem
  refine ⟨?_, FieldType.takes_toElement (ElementKind.kind_toElement_ofRow kind row), ?_⟩
  · rw [hannotated]
    obtain ⟨fields, hfields, hbuild⟩ := @exists_build_of_restores (.element kind) row _ hrow
      hsorted.nodup fun name value htype => by
        rw [Json.mem_toList_ofList hnodup, List.mem_cons]
        simp only [Prod.mk.injEq, htype, false_and, false_or]
        exact Iff.rfl
    refine readValue_object_eq_ok.mpr ⟨kind, fields, _, ?_, hfields, hbuild, rfl⟩
    rw [Json.member?, Json.lookup_eq_some_iff hsorted.nodup, Json.mem_toList_ofList hnodup]
    exact List.mem_cons_self
  · rw [hannotated]
    exact hsorted

/-! ## Sites -/

/-- A source has no floats and always restores. -/
theorem restores_literature (source : Literature) :
    (FieldType.element .literature).Restores source := by
  have hrow : Row.Restores Literature.fields source.toRow := by
    refine ⟨FieldType.restores_text _, ?_, ?_, ?_, ?_, ?_, ?_, trivial⟩
    · exact fun _ _ => FieldType.restores_text _
    · exact fun _ _ => FieldType.restores_text _
    · exact fun _ _ => FieldType.restores_year _
    · exact fun _ _ => FieldType.restores_text _
    · exact fun _ _ => FieldType.restores_text _
    · exact fun _ _ => FieldType.restores_text _
  exact @restores_ofRow .literature source.toRow hrow

theorem restores_layer {layer : VelocityLayer} (h : ∀ x ∈ layer.floats, x.isFinite = true) :
    (FieldType.element .layer).Restores layer := by
  simp only [VelocityLayer.floats, List.forall_mem_cons] at h
  obtain ⟨hdensity, hp, hs, htop, hbottom, -⟩ := h
  have hrow : Row.Restores VelocityLayer.fields layer.toRow :=
    ⟨FieldType.restores_number hdensity, FieldType.restores_number hp,
      FieldType.restores_number hs, FieldType.restores_number htop,
      FieldType.restores_number hbottom, trivial⟩
  exact @restores_ofRow .layer layer.toRow hrow

theorem restores_profile {profile : VelocityProfile}
    (h : ∀ x ∈ profile.floats, x.isFinite = true) :
    (FieldType.element .profile).Restores profile := by
  have hrow : Row.Restores VelocityProfile.fields profile.toRow := by
    refine ⟨FieldType.restores_integer _, fun layer hlayer => ?_, trivial⟩
    exact restores_layer fun x hx => h x (List.mem_flatMap.mpr ⟨layer, hlayer, hx⟩)
  exact @restores_ofRow .profile profile.toRow hrow

/-- An optional float restores if it is finite. -/
theorem restores_optional_number {x? : Option Float} (h : ∀ x ∈ x?.toList, x.isFinite = true) :
    (Content.optional .number).Restores x? :=
  fun x hx => FieldType.restores_number (h x (Option.mem_toList.mpr hx))

theorem restores_indicator {indicator : Indicator}
    (h : ∀ x ∈ indicator.floats, x.isFinite = true) :
    (FieldType.element (.indicator indicator.name)).Restores indicator := by
  simp only [Indicator.floats, List.forall_mem_append] at h
  obtain ⟨⟨⟨hdetail, hvalue⟩, huncertainty⟩, hquality⟩ := h
  have hcommon : Row.Restores Indicator.commonFields indicator.toCommonRow := by
    refine ⟨FieldType.restores_reading hvalue, restores_optional_number huncertainty, ?_,
      restores_optional_number hquality, ?_, ?_, trivial⟩
    · exact fun _ _ => FieldType.restores_text _
    · exact fun source _ => restores_literature source
    · exact fun _ _ => FieldType.restores_text _
  obtain ⟨detail, value, uncertainty, methods, quality, literature, reference⟩ := indicator
  cases detail with
  | geologicalUnit scale unit =>
    have hrow : Row.Restores (Indicator.fields .geologicalUnit) (scale, unit, _) :=
      ⟨fun _ _ => FieldType.restores_text _, fun _ _ => FieldType.restores_text _, hcommon⟩
    exact @restores_ofRow (.indicator .geologicalUnit) _ hrow
  | velocityS30 combined manual =>
    simp only [IndicatorDetail.floats, List.forall_mem_append] at hdetail
    have hrow : Row.Restores (Indicator.fields .velocityS30) (combined, manual, _) :=
      ⟨restores_optional_number hdetail.1, restores_optional_number hdetail.2, hcommon⟩
    exact @restores_ofRow (.indicator .velocityS30) _ hrow
  | h800 => exact @restores_ofRow (.indicator .h800) _ hcommon
  | ec8 => exact @restores_ofRow (.indicator .ec8) _ hcommon
  | bedrockDepth => exact @restores_ofRow (.indicator .bedrockDepth) _ hcommon
  | resonanceFrequency => exact @restores_ofRow (.indicator .resonanceFrequency) _ hcommon

/-- A slot restores if its occupant is of the slot's name. -/
theorem restores_slot {slot : Slot} {occupant : Option Indicator} (hholds : slot.Holds occupant)
    (h : ∀ x ∈ occupant.toList.flatMap Indicator.floats, x.isFinite = true) :
    slot.toField.content.Restores occupant := by
  intro one hone
  have hone' := restores_indicator fun x hx =>
    h x (List.mem_flatMap.mpr ⟨one, Option.mem_toList.mpr hone, hx⟩)
  rw [hholds one hone] at hone'
  exact hone'

theorem restores_description {d : Description} (hwf : d.WellFormed)
    (h : ∀ x ∈ d.floats, x.isFinite = true) :
    (FieldType.element .description).Restores d := by
  simp only [Description.floats, List.forall_mem_append, List.forall_mem_cons] at h
  obtain ⟨⟨⟨⟨⟨⟨⟨⟨hlatitude, hlongitude, -⟩, haltitude⟩, hmin⟩, hmax⟩, hec8⟩, hbedrock⟩, hh800⟩,
    hunit⟩ := h
  have hrow : Row.Restores Description.fields d.toRow := by
    refine ⟨FieldType.restores_number hlatitude, FieldType.restores_number hlongitude,
      restores_optional_number haltitude, restores_optional_number hmin,
      restores_optional_number hmax, restores_slot hwf.ec8 hec8,
      restores_slot hwf.bedrockDepth hbedrock, restores_slot hwf.h800 hh800,
      restores_slot hwf.geologicalUnit hunit, ?_, trivial, trivial, trivial⟩
    exact fun _ _ => FieldType.restores_text _
  exact @restores_ofRow .description d.toRow hrow

theorem restores_characterization {c : Characterization} (hwf : c.WellFormed)
    (h : ∀ x ∈ c.floats, x.isFinite = true) :
    (FieldType.element .characterization).Restores c := by
  simp only [Characterization.floats, List.forall_mem_append] at h
  obtain ⟨⟨hresonance, hvelocity⟩, hprofiles⟩ := h
  have hrow : Row.Restores Characterization.fields c.toRow := by
    refine ⟨?_, ?_, restores_slot hwf.resonanceFrequency hresonance,
      restores_slot hwf.velocityS30 hvelocity, ?_, ?_, ?_, ?_, ?_, trivial⟩
    · exact fun _ _ => FieldType.restores_text _
    · exact fun _ _ => FieldType.restores_text _
    · exact fun _ _ => FieldType.restores_integer _
    · exact fun profile hprofile => restores_profile fun x hx =>
        hprofiles x (List.mem_flatMap.mpr ⟨profile, hprofile, hx⟩)
    · exact fun _ _ => FieldType.restores_integer _
    · exact fun _ _ => FieldType.restores_integer _
    · exact fun _ _ => FieldType.restores_integer _
  exact @restores_ofRow .characterization c.toRow hrow

/-- Every field of a site restores. -/
theorem restores_toRow {site : Site} (hwf : site.WellFormed)
    (h : ∀ x ∈ site.floats, x.isFinite = true) : Row.Restores Site.fields site.toRow := by
  simp only [Site.floats, List.forall_mem_append] at h
  obtain ⟨⟨hdescription, hcharacterization⟩, hquality⟩ := h
  refine ⟨FieldType.restores_text _, fun d hd => ?_, fun c hc => ?_,
    restores_optional_number hquality, trivial⟩
  · exact restores_description (hwf.description d hd) fun x hx =>
      hdescription x (List.mem_flatMap.mpr ⟨d, Option.mem_toList.mpr hd, hx⟩)
  · exact restores_characterization (hwf.characterization c hc) fun x hx =>
      hcharacterization x (List.mem_flatMap.mpr ⟨c, Option.mem_toList.mpr hc, hx⟩)

/-- The site of restored fields is read back from its annotated members, which
tell no type. -/
theorem readSite_annotateSite {row : Row Site.fields} (hrow : Row.Restores Site.fields row) :
    readSite (annotateSite (Site.ofRow row).toJson) = .ok (Site.ofRow row) := by
  have hnodup := @nodup_annotateMembers_row .site row
  have hmember : ∀ name value,
      (name, value) ∈ (Std.ExtTreeMap.ofList (annotateMembers Site.fields
        (Row.members Site.fields row))).toList ↔
      (name, value) ∈ annotateMembers Site.fields (Row.members Site.fields row) :=
    fun name value => Json.mem_toList_ofList hnodup
  have hnodup' := (Json.sorted_ofMembers fun name value =>
    @sorted_annotateMembers_row .site row hrow name value).nodup
  obtain ⟨fields, hfields, hbuild⟩ :=
    @exists_build_of_restores .site row _ hrow hnodup' fun name value _ => hmember name value
  rw [Site.toJson_ofRow, annotateSite]
  refine readSite_eq_ok.mpr ⟨_, fields, rfl, checkSite_eq_ok.mpr ?_, hfields, hbuild⟩
  -- no site field is called `type`, so the object tells none
  intro named hnamed
  have hmem := (hmember _ _).mp ((Json.lookup_eq_some_iff hnodup').mp hnamed)
  exact absurd (List.mem_map_of_mem hmem) (@type_not_mem_annotateMembers_row .site row)

/-- **Reading undoes writing**: a well-formed site of finite floats is read
back as it was, to the bit, at whatever root it stands. -/
theorem ofJson_annotateSite {site : Site} (hwf : site.WellFormed)
    (hfinite : ∀ x ∈ site.floats, x.isFinite = true) (root : String) :
    Site.ofJson root (annotateSite site.toJson) = .ok site := by
  have hread : readSite (annotateSite site.toJson) = .ok site := by
    have hrow := readSite_annotateSite (restores_toRow hwf hfinite)
    have hsame : Site.ofRow site.toRow = site := rfl
    rw [hsame] at hrow
    exact hrow
  rw [Site.ofJson, mapError_eq_ok]
  exact hread

/-- A site on the meridian, its longitude a negative zero. -/
def onMeridian : Site where
  stationCode := "SENGL"
  description := some
    { latitude := 51.5
      longitude := -0.0
      ec8 := some (.ec8 (.text "A")) }

theorem ofJson_annotateSite_onMeridian :
    onMeridian.WellFormed ∧ (∀ x ∈ onMeridian.floats, x.isFinite = true) ∧
      Site.ofJson "$" (annotateSite onMeridian.toJson) = .ok onMeridian := by
  have hwf : onMeridian.WellFormed := by
    constructor
    · rintro part ⟨rfl⟩
      constructor <;> simp [Slot.Holds, Description.ec8Slot, Indicator.name, Indicator.ec8,
        Indicator.ofDetail, IndicatorDetail.name]
    · simp [onMeridian]
  have hfinite : ∀ x ∈ onMeridian.floats, x.isFinite = true := by decide
  exact ⟨hwf, hfinite, ofJson_annotateSite hwf hfinite "$"⟩

end Document

end SeismicSite
