import SeismicSite.Proofs.Schema.Conforming
/-!
# What a record stores of an entity

For every kind of entity `Stored` lists its parts, each with the name that it is
found under in the record. A number may have been stored as an integer, a list of
one as its only item; all else is stored as it is. An entity that is made of a
record is the one that is stored in it (`EntityKind.take_stored`).
-/

namespace SeismicSite

/-! ## One field -/

namespace FieldType

/-- The value is the content: as it stands, or as an integer that is widened to
a float. -/
def Holds (type : FieldType) (value : FieldValue) (content : type.Carrier) : Prop :=
  value = type.wrap content ∨ ∃ n, value = .integer n ∧ type.wrap content = .float (widen n)

/-- A number that fits 32 bits is kept when it is narrowed. -/
theorem toInt64_of_narrow? {n : Int64} {fitting : Int32} (h : narrow? n = some fitting) :
    fitting.toInt64 = n := by
  simp only [narrow?, Option.ite_none_right_eq_some, Option.some.injEq] at h
  obtain ⟨⟨hlower, hupper⟩, rfl⟩ := h
  rw [Int32.toInt64_ofInt hlower hupper, Int64.ofInt_toInt]

/-- What is unwrapped is held by the value. -/
theorem holds_of_unwrap {type : FieldType} {value : FieldValue} {content : type.Carrier}
    (hunwrap : type.unwrap value = .ok content) : type.Holds value content := by
  cases type with
  | text =>
    cases value <;> simp only [unwrap, Except.ok.injEq, reduceCtorEq] at hunwrap
    exact .inl (congrArg _ hunwrap)
  | number =>
    cases value <;> simp only [unwrap, Except.ok.injEq, reduceCtorEq] at hunwrap
    case float => exact .inl (congrArg _ hunwrap)
    case integer n => exact .inr ⟨n, rfl, congrArg _ hunwrap.symm⟩
  | integer =>
    cases value <;> simp only [unwrap, Except.ok.injEq, reduceCtorEq] at hunwrap
    exact .inl (congrArg _ hunwrap)
  | year =>
    cases value <;> simp only [unwrap, reduceCtorEq] at hunwrap
    split at hunwrap
    · rename_i fitting hfits
      obtain rfl := Except.ok.inj hunwrap
      exact .inl (congrArg _ (toInt64_of_narrow? hfits).symm)
    · cases hunwrap
  | reading =>
    cases value <;> simp only [unwrap, Except.ok.injEq, reduceCtorEq] at hunwrap
    all_goals subst hunwrap
    case integer n => exact .inr ⟨n, rfl, rfl⟩
    all_goals exact .inl rfl
  | element kind => exact .inl (eq_toElement_of_unwrap hunwrap)

/-- **What a type takes is held by the value it is taken from.** -/
theorem holds_of_takes {type : FieldType} {value : FieldValue} {content : type.Carrier}
    (h : type.Takes value content) : type.Holds value content :=
  holds_of_unwrap h.2

end FieldType

namespace Content

/-- What is found under the name of a field is its content: a list item by item,
or a value that stands alone for a list of one; nothing for an optional content
that is absent and for an empty list. -/
def Stores : (content : Content) → Option FieldValue → content.Carrier → Prop
  | required type, found, taken => Option.Rel type.Holds found (some taken)
  | optional type, found, taken => Option.Rel type.Holds found taken
  | repeated _, none, taken => taken = []
  | repeated type, some (.list items), taken => List.Forall₂ type.Holds items taken
  | repeated type, some value, taken => ∃ one, type.Holds value one ∧ taken = [one]
  | tag _, found, taken => found = taken.map fun member => .text (TagSet.tag member)

/-- **What a field takes is stored under its name.** -/
theorem stores_of_takes {content : Content} {found : Option FieldValue} {taken : content.Carrier}
    (h : content.Takes found taken) : content.Stores found taken := by
  cases content with
  | required type =>
    cases found with
    | none => exact h.elim
    | some value => exact .some (FieldType.holds_of_takes h)
  | optional type =>
    cases found with
    | none => obtain rfl := h; exact .none
    | some value =>
      obtain ⟨one, hone, rfl⟩ := h
      exact .some (FieldType.holds_of_takes hone)
  | repeated type =>
    cases found with
    | none => exact h
    | some value =>
      cases value with
      | list items => exact List.Forall₂.imp (fun _ _ => FieldType.holds_of_takes) h
      | _ =>
        obtain ⟨one, hone, rfl⟩ := h
        exact ⟨one, FieldType.holds_of_takes hone, rfl⟩
  | tag scheme =>
    cases found with
    | none => obtain rfl := h; rfl
    | some value =>
      obtain ⟨text, member, rfl, hmember, rfl⟩ := h
      rw [Stores, Option.map_some, TagSet.tag_eq_of_ofTag? hmember]

end Content

/-- Every field of a row is stored under its name. -/
def Row.Stores : (fields : List Field) → (String → Option FieldValue) → Row fields → Prop
  | [], _, _ => True
  | field :: fields, find, (content, row) =>
    field.content.Stores (find field.name) content ∧ Stores fields find row

/-- A row that is taken is stored. -/
theorem Row.stores_of_takes {fields : List Field} {find : String → Option FieldValue}
    {row : Row fields} (h : Takes fields find row) : Stores fields find row := by
  induction fields with
  | nil => trivial
  | cons field fields ih => exact ⟨Content.stores_of_takes h.1, ih h.2⟩

/-! ## The parts of an entity -/

open Content (Stores)

variable (find : String → Option FieldValue)

/-- The parts of a source, by name. -/
structure Literature.Stored (source : Literature) : Prop where
  title : Stores (.required .text) (find "title") source.title
  firstAuthor : Stores (.optional .text) (find "firstAuthor") source.firstAuthor
  secondaryAuthors : Stores (.optional .text) (find "secondaryAuthors") source.secondaryAuthors
  year : Stores (.optional .year) (find "year") source.year
  booktitle : Stores (.optional .text) (find "booktitle") source.booktitle
  language : Stores (.optional .text) (find "language") source.language
  doi : Stores (.optional .text) (find "DOI") source.doi

/-- The parts of a layer, by name. -/
structure VelocityLayer.Stored (layer : VelocityLayer) : Prop where
  density : Stores (.required .number) (find "density") layer.density
  velocityP : Stores (.required .number) (find "velocityP") layer.velocityP
  velocityS : Stores (.required .number) (find "velocityS") layer.velocityS
  topDepth : Stores (.required .number) (find "layerTopDepth") layer.topDepth
  bottomDepth : Stores (.required .number) (find "layerBottomDepth") layer.bottomDepth

/-- The parts of a profile, by name. -/
structure VelocityProfile.Stored (profile : VelocityProfile) : Prop where
  layerCount : Stores (.required .integer) (find "layer_count") profile.layerCount
  layers : Stores (.repeated (.element .layer)) (find "velocity_profile_data") profile.layers

/-- The parts that only some indicators have, by name. -/
def IndicatorDetail.Stored : IndicatorDetail → Prop
  | geologicalUnit mapScale ogeUnit =>
    Stores (.optional .text) (find "geological_map_scale") mapScale ∧
      Stores (.optional .text) (find "geological_unit_OGE") ogeUnit
  | velocityS30 combinedQuality manualQuality =>
    Stores (.optional .number) (find "method_combined_quality_index") combinedQuality ∧
      Stores (.optional .number) (find "manual_quality_index") manualQuality
  | _ => True

/-- The parts of an indicator, by name. -/
structure Indicator.Stored (indicator : Indicator) : Prop where
  detail : indicator.detail.Stored find
  value : Stores (.required .reading) (find "value") indicator.value
  uncertainty : Stores (.optional .number) (find "uncertainty") indicator.uncertainty
  methods : Stores (.repeated .text) (find "methods") indicator.methods
  qualityIndex : Stores (.optional .number) (find "quality_index") indicator.qualityIndex
  literature :
    Stores (.optional (.element .literature)) (find "literature_source") indicator.literature
  externalReference :
    Stores (.optional .text) (find "external_reference") indicator.externalReference

/-- The parts of a description, by name. -/
structure Description.Stored (d : Description) : Prop where
  latitude : Stores (.required .number) (find "latitude") d.latitude
  longitude : Stores (.required .number) (find "longitude") d.longitude
  altitude : Stores (.optional .number) (find "altitude") d.altitude
  minDistance : Stores (.optional .number) (find "minDistanceFromStation") d.minDistance
  maxDistance : Stores (.optional .number) (find "maxDistanceFromStation") d.maxDistance
  ec8 : Stores (.optional (.element (.indicator .ec8))) (find "EC8") d.ec8
  bedrockDepth :
    Stores (.optional (.element (.indicator .bedrockDepth))) (find "bedrock_depth") d.bedrockDepth
  h800 : Stores (.optional (.element (.indicator .h800))) (find "H800") d.h800
  geologicalUnit : Stores (.optional (.element (.indicator .geologicalUnit)))
    (find "geological_unit") d.geologicalUnit
  morphology : Stores (.optional .text) (find "morphology") d.morphology
  slopeClass : Stores (.tag .slopeClass) (find "topologyA") d.slopeClass
  landform : Stores (.tag .landform) (find "topologyB") d.landform

/-- The parts of a characterization, by name. -/
structure Characterization.Stored (c : Characterization) : Prop where
  publicId : Stores (.optional .text) (find "publicID") c.publicId
  analysisPublicId : Stores (.optional .text) (find "analysis_publicID") c.analysisPublicId
  resonanceFrequency : Stores (.optional (.element (.indicator .resonanceFrequency)))
    (find "resonance_frequency") c.resonanceFrequency
  velocityS30 :
    Stores (.optional (.element (.indicator .velocityS30))) (find "velocity_s30") c.velocityS30
  profileCount : Stores (.optional .integer) (find "velocity_profile_count") c.profileCount
  profiles : Stores (.repeated (.element .profile)) (find "velocity_profile") c.profiles
  sptLogs : Stores (.optional .integer) (find "spt_logs_count") c.sptLogs
  cptLogs : Stores (.optional .integer) (find "cpt_logs_count") c.cptLogs
  boreholeLogs : Stores (.optional .integer) (find "borehole_logs_count") c.boreholeLogs

/-- The parts of a site, by name. -/
structure Site.Stored (site : Site) : Prop where
  stationCode : Stores (.required .text) (find "station_code") site.stationCode
  description :
    Stores (.optional (.element .description)) (find "site_description") site.description
  characterization : Stores (.optional (.element .characterization))
    (find "site_characterization_parameters") site.characterization
  overallQuality :
    Stores (.optional .number) (find "overall_quality_index") site.overallQuality

/-- The parts of an entity of any kind, by name; an indicator is of the name
that its kind asks for. -/
def EntityKind.Stored : (kind : EntityKind) → kind.Carrier → Prop
  | element .literature, source => Literature.Stored find source
  | element (.indicator name), indicator =>
    Indicator.name indicator = name ∧ Indicator.Stored find indicator
  | element .layer, layer => VelocityLayer.Stored find layer
  | element .profile, profile => VelocityProfile.Stored find profile
  | element .description, description => Description.Stored find description
  | element .characterization, parameters => Characterization.Stored find parameters
  | site, root => Site.Stored find root

variable {find}

/-- The common parts of an indicator are stored, whatever its variant. -/
theorem Indicator.stored_ofCommonRow {detail : IndicatorDetail} {row : Row commonFields}
    (hdetail : detail.Stored find) (h : Row.Stores commonFields find row) :
    (ofCommonRow detail row).Stored find := by
  obtain ⟨value, uncertainty, methods, quality, literature, reference, -⟩ := h
  exact ⟨hdetail, value, uncertainty, methods, quality, literature, reference⟩

theorem Indicator.stored_ofRow {name : IndicatorName} {row : Row (fields name)}
    (h : Row.Stores (fields name) find row) :
    (ofRow name row).name = name ∧ (ofRow name row).Stored find := by
  cases name with
  | geologicalUnit =>
    obtain ⟨mapScale, ogeUnit, hcommon⟩ := h
    exact ⟨rfl, stored_ofCommonRow ⟨mapScale, ogeUnit⟩ hcommon⟩
  | velocityS30 =>
    obtain ⟨combined, manual, hcommon⟩ := h
    exact ⟨rfl, stored_ofCommonRow ⟨combined, manual⟩ hcommon⟩
  | _ => exact ⟨rfl, stored_ofCommonRow trivial h⟩

/-- **The entity of a stored row is stored**, whatever its kind. -/
theorem EntityKind.stored_ofRow {kind : EntityKind} {row : Row kind.fields}
    (h : Row.Stores kind.fields find row) : kind.Stored find (kind.ofRow row) := by
  cases kind with
  | element kind =>
    cases kind with
    | literature =>
      obtain ⟨title, first, others, year, booktitle, language, doi, -⟩ := h
      exact ⟨title, first, others, year, booktitle, language, doi⟩
    | indicator name => exact Indicator.stored_ofRow h
    | layer =>
      obtain ⟨density, velocityP, velocityS, top, bottom, -⟩ := h
      exact ⟨density, velocityP, velocityS, top, bottom⟩
    | profile =>
      obtain ⟨count, layers, -⟩ := h
      exact ⟨count, layers⟩
    | description =>
      obtain ⟨latitude, longitude, altitude, least, greatest, ec8, bedrock, h800, unit, morphology,
        slope, landform, -⟩ := h
      exact ⟨latitude, longitude, altitude, least, greatest, ec8, bedrock, h800, unit, morphology,
        slope, landform⟩
    | characterization =>
      obtain ⟨id, analysis, resonance, velocity, count, profiles, spt, cpt, borehole, -⟩ := h
      exact ⟨id, analysis, resonance, velocity, count, profiles, spt, cpt, borehole⟩
  | site =>
    obtain ⟨code, description, characterization, quality, -⟩ := h
    exact ⟨code, description, characterization, quality⟩

/-- **An entity is made exactly of the records whose fields all conform, and it
is what they store**; the fields that its kind does not declare may be there or
not. -/
theorem EntityKind.take_stored {kind : EntityKind} {record : Record} :
    ((∃ entity, (kind.take record).result = .ok entity) ↔
        ∀ field ∈ kind.fields, field.content.Conforms (record.get? field.name)) ∧
      (∀ entity, (kind.take record).result = .ok entity → kind.Stored record.get? entity) ∧
      kind.ofRecord record = (kind.take record).result := by
  refine ⟨exists_take_iff, fun entity hentity => ?_, rfl⟩
  obtain ⟨row, hrow, rfl⟩ := take_eq_ok.mp hentity
  exact stored_ofRow (Row.stores_of_takes hrow)

/-- A Vs30 whose value is an integer and whose one method stands alone, and a
field that no indicator declares. -/
def Record.surveyed : Record :=
  .ofList
    [("depth", .float 30), ("manual_quality_index", .float 0.9), ("methods", .text "MASW"),
      ("value", .integer 560)]

theorem EntityKind.take_stored_surveyed :
    ∃ entity, ((element (.indicator .velocityS30)).take .surveyed).result = .ok entity ∧
      (element (.indicator .velocityS30)).Stored Record.surveyed.get? entity := by
  obtain ⟨hexists, hstored, -⟩ := @take_stored (element (.indicator .velocityS30)) .surveyed
  obtain ⟨entity, hentity⟩ := hexists.mpr (by decide)
  exact ⟨entity, hentity, hstored entity hentity⟩

end SeismicSite
