import SeismicSite.Schema.Row
/-!
# Schemas of the entities

The fields that every entity kind declares, and the entity that a row of
their contents makes. Every kind is built from a record in one way: `take`
removes its declared fields in order and gives the record that is left, so
that a reader can reject fields the kind does not declare.
-/

namespace SeismicSite

/-! ## Declared fields -/

/-- The fields of a literature source. -/
def Literature.fields : List Field :=
  [⟨"title", .required .text⟩,
    ⟨"firstAuthor", .optional .text⟩,
    ⟨"secondaryAuthors", .optional .text⟩,
    ⟨"year", .optional .year⟩,
    ⟨"booktitle", .optional .text⟩,
    ⟨"language", .optional .text⟩,
    ⟨"DOI", .optional .text⟩]

/-- The fields of a layer. -/
def VelocityLayer.fields : List Field :=
  [⟨"density", .required .number⟩,
    ⟨"velocityP", .required .number⟩,
    ⟨"velocityS", .required .number⟩,
    ⟨"layerTopDepth", .required .number⟩,
    ⟨"layerBottomDepth", .required .number⟩]

/-- The fields of a velocity profile. -/
def VelocityProfile.fields : List Field :=
  [⟨"layer_count", .required .integer⟩,
    ⟨"velocity_profile_data", .repeated (.element .layer)⟩]

/-- The fields that every indicator declares. -/
def Indicator.commonFields : List Field :=
  [⟨"value", .required .reading⟩,
    ⟨"uncertainty", .optional .number⟩,
    ⟨"methods", .repeated .text⟩,
    ⟨"quality_index", .optional .number⟩,
    ⟨"literature_source", .optional (.element .literature)⟩,
    ⟨"external_reference", .optional .text⟩]

/-- The fields of an indicator: those of the variant come first. -/
def Indicator.fields : IndicatorName → List Field
  | .geologicalUnit =>
    ⟨"geological_map_scale", .optional .text⟩ ::
      ⟨"geological_unit_OGE", .optional .text⟩ :: commonFields
  | .velocityS30 =>
    ⟨"method_combined_quality_index", .optional .number⟩ ::
      ⟨"manual_quality_index", .optional .number⟩ :: commonFields
  | _ => commonFields

/-- The field of an indicator slot. -/
def Slot.toField (slot : Slot) : Field :=
  ⟨slot.field, .optional (.element (.indicator slot.name))⟩

/-- The fields of a site description. -/
def Description.fields : List Field :=
  [⟨"latitude", .required .number⟩,
    ⟨"longitude", .required .number⟩,
    ⟨"altitude", .optional .number⟩,
    ⟨"minDistanceFromStation", .optional .number⟩,
    ⟨"maxDistanceFromStation", .optional .number⟩,
    ec8Slot.toField,
    bedrockDepthSlot.toField,
    h800Slot.toField,
    geologicalUnitSlot.toField,
    ⟨"morphology", .optional .text⟩,
    ⟨"topologyA", .tag .slopeClass⟩,
    ⟨"topologyB", .tag .landform⟩]

/-- The fields of a characterization. -/
def Characterization.fields : List Field :=
  [⟨"publicID", .optional .text⟩,
    ⟨"analysis_publicID", .optional .text⟩,
    resonanceFrequencySlot.toField,
    velocityS30Slot.toField,
    ⟨"velocity_profile_count", .optional .integer⟩,
    ⟨"velocity_profile", .repeated (.element .profile)⟩,
    ⟨"spt_logs_count", .optional .integer⟩,
    ⟨"cpt_logs_count", .optional .integer⟩,
    ⟨"borehole_logs_count", .optional .integer⟩]

/-- The fields of a site. -/
def Site.fields : List Field :=
  [⟨"station_code", .required .text⟩,
    ⟨"site_description", .optional (.element .description)⟩,
    ⟨"site_characterization_parameters", .optional (.element .characterization)⟩,
    ⟨"overall_quality_index", .optional .number⟩]

/-- The fields that an element kind declares. -/
def ElementKind.fields : ElementKind → List Field
  | literature => Literature.fields
  | indicator name => Indicator.fields name
  | layer => VelocityLayer.fields
  | profile => VelocityProfile.fields
  | description => Description.fields
  | characterization => Characterization.fields

/-- The fields that an entity kind declares. -/
def EntityKind.fields : EntityKind → List Field
  | element kind => kind.fields
  | site => Site.fields

/-! ## Rows and entities -/

/-- The source with the given field contents. -/
def Literature.ofRow : Row Literature.fields → Literature
  | ⟨title, firstAuthor, secondaryAuthors, year, booktitle, language, doi, _⟩ =>
    { title, firstAuthor, secondaryAuthors, year, booktitle, language, doi }

/-- The field contents of a source. -/
def Literature.toRow (source : Literature) : Row Literature.fields :=
  ⟨source.title, source.firstAuthor, source.secondaryAuthors, source.year, source.booktitle,
    source.language, source.doi, ()⟩

/-- The layer with the given field contents. -/
def VelocityLayer.ofRow : Row VelocityLayer.fields → VelocityLayer
  | ⟨density, velocityP, velocityS, topDepth, bottomDepth, _⟩ =>
    { density, velocityP, velocityS, topDepth, bottomDepth }

/-- The field contents of a layer. -/
def VelocityLayer.toRow (layer : VelocityLayer) : Row VelocityLayer.fields :=
  ⟨layer.density, layer.velocityP, layer.velocityS, layer.topDepth, layer.bottomDepth, ()⟩

/-- The profile with the given field contents. -/
def VelocityProfile.ofRow : Row VelocityProfile.fields → VelocityProfile
  | ⟨layerCount, layers, _⟩ => { layerCount, layers }

/-- The field contents of a profile. -/
def VelocityProfile.toRow (profile : VelocityProfile) : Row VelocityProfile.fields :=
  ⟨profile.layerCount, profile.layers, ()⟩

/-- The indicator of a variant with the given common field contents. -/
def Indicator.ofCommonRow (detail : IndicatorDetail) : Row commonFields → Indicator
  | ⟨value, uncertainty, methods, qualityIndex, literature, externalReference, _⟩ =>
    { detail, value, uncertainty, methods, qualityIndex, literature, externalReference }

/-- The common field contents of an indicator. -/
def Indicator.toCommonRow (indicator : Indicator) : Row commonFields :=
  ⟨indicator.value, indicator.uncertainty, indicator.methods, indicator.qualityIndex,
    indicator.literature, indicator.externalReference, ()⟩

/-- The indicator of the name with the given field contents. -/
def Indicator.ofRow : (name : IndicatorName) → Row (fields name) → Indicator
  | .h800, row => ofCommonRow .h800 row
  | .ec8, row => ofCommonRow .ec8 row
  | .bedrockDepth, row => ofCommonRow .bedrockDepth row
  | .geologicalUnit, ⟨scale, unit, row⟩ => ofCommonRow (.geologicalUnit scale unit) row
  | .resonanceFrequency, row => ofCommonRow .resonanceFrequency row
  | .velocityS30, ⟨combined, manual, row⟩ => ofCommonRow (.velocityS30 combined manual) row

/-- The field contents of an indicator, by its own name. -/
def Indicator.toRow (indicator : Indicator) : Row (fields indicator.name) :=
  match indicator with
  | ⟨.h800, _, _, _, _, _, _⟩ => indicator.toCommonRow
  | ⟨.ec8, _, _, _, _, _, _⟩ => indicator.toCommonRow
  | ⟨.bedrockDepth, _, _, _, _, _, _⟩ => indicator.toCommonRow
  | ⟨.geologicalUnit scale unit, _, _, _, _, _, _⟩ => ⟨scale, unit, indicator.toCommonRow⟩
  | ⟨.resonanceFrequency, _, _, _, _, _, _⟩ => indicator.toCommonRow
  | ⟨.velocityS30 combined manual, _, _, _, _, _, _⟩ =>
    ⟨combined, manual, indicator.toCommonRow⟩

/-- The description with the given field contents. -/
def Description.ofRow : Row Description.fields → Description
  | ⟨latitude, longitude, altitude, minDistance, maxDistance, ec8, bedrockDepth, h800,
      geologicalUnit, morphology, slopeClass, landform, _⟩ =>
    { latitude, longitude, altitude, minDistance, maxDistance, ec8, bedrockDepth, h800,
      geologicalUnit, morphology, slopeClass, landform }

/-- The field contents of a description. -/
def Description.toRow (d : Description) : Row Description.fields :=
  ⟨d.latitude, d.longitude, d.altitude, d.minDistance, d.maxDistance, d.ec8, d.bedrockDepth,
    d.h800, d.geologicalUnit, d.morphology, d.slopeClass, d.landform, ()⟩

/-- The characterization with the given field contents. -/
def Characterization.ofRow : Row Characterization.fields → Characterization
  | ⟨publicId, analysisPublicId, resonanceFrequency, velocityS30, profileCount, profiles,
      sptLogs, cptLogs, boreholeLogs, _⟩ =>
    { publicId, analysisPublicId, resonanceFrequency, velocityS30, profileCount, profiles,
      sptLogs, cptLogs, boreholeLogs }

/-- The field contents of a characterization. -/
def Characterization.toRow (c : Characterization) : Row Characterization.fields :=
  ⟨c.publicId, c.analysisPublicId, c.resonanceFrequency, c.velocityS30, c.profileCount,
    c.profiles, c.sptLogs, c.cptLogs, c.boreholeLogs, ()⟩

/-- The site with the given field contents. -/
def Site.ofRow : Row Site.fields → Site
  | ⟨stationCode, description, characterization, overallQuality, _⟩ =>
    { stationCode, description, characterization, overallQuality }

/-- The field contents of a site. -/
def Site.toRow (site : Site) : Row Site.fields :=
  ⟨site.stationCode, site.description, site.characterization, site.overallQuality, ()⟩

/-! ## All kinds -/

namespace ElementKind

/-- The element of the kind with the given field contents. -/
def ofRow : (kind : ElementKind) → Row kind.fields → kind.Carrier
  | literature => Literature.ofRow
  | indicator name => Indicator.ofRow name
  | layer => VelocityLayer.ofRow
  | profile => VelocityProfile.ofRow
  | description => Description.ofRow
  | characterization => Characterization.ofRow

/-- Makes an element of the kind from its field contents. A description and
a characterization check their slots here as they do for every caller, after
the fields have been checked one by one. -/
def make : (kind : ElementKind) → Row kind.fields → Except FieldError kind.Carrier
  | description, row => (Description.ofRow row).checked
  | characterization, row => (Characterization.ofRow row).checked
  | kind, row => .ok (kind.ofRow row)

end ElementKind

namespace EntityKind

/-- The values of an entity kind. -/
@[reducible] def Carrier : EntityKind → Type
  | element kind => kind.Carrier
  | site => Site

/-- The entity of the kind with the given field contents. -/
def ofRow : (kind : EntityKind) → Row kind.fields → kind.Carrier
  | element kind => kind.ofRow
  | site => Site.ofRow

/-- Makes an entity of the kind from its field contents. -/
def make : (kind : EntityKind) → Row kind.fields → Except FieldError kind.Carrier
  | element kind, row => kind.make row
  | site, row => .ok (Site.ofRow row)

/-- Builds an entity from the fields that its kind declares and removes
them from the record. -/
def take (kind : EntityKind) (record : Record) : Taken kind.Carrier :=
  let taken := Row.take kind.fields record
  ⟨taken.result.bind kind.make, taken.left⟩

/-- Builds an entity from a record, whatever else the record holds. -/
def ofRecord (kind : EntityKind) (record : Record) : Except FieldError kind.Carrier :=
  (kind.take record).result

end EntityKind

end SeismicSite
