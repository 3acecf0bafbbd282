import SeismicSite.Field.Value
import SeismicSite.Json.Basic
/-!
# Entities as JSON

The JSON value of an entity: an object whose members follow the order in
which its kind declares its fields. An absent field is left out, a list is
always written, and an indicator starts with its name.
-/

namespace SeismicSite

/-- The member of an optional field: none if the field is absent. -/
def Json.optional {α : Type} (name : String) (encode : α → Json) :
    Option α → List (String × Json)
  | none => []
  | some value => [(name, encode value)]

/-- The JSON value of a member of a closed set. -/
def TagSet.toJson {α : Type} [TagSet α] (member : α) : Json :=
  .string (TagSet.written member)

/-- The JSON value of an indicator name standing alone. -/
def IndicatorName.toJson (name : IndicatorName) : Json :=
  .string name.keyword

/-- The JSON value of a year. -/
def Json.ofInt32 (n : Int32) : Json :=
  .ofInt64 n.toInt64

open Json (optional ofFloat ofInt32 ofInt64)

/-- The JSON value of a source. -/
def Literature.toJson (source : Literature) : Json :=
  .object <|
    ("title", .string source.title) ::
    (optional "firstAuthor" .string source.firstAuthor
      ++ optional "secondaryAuthors" .string source.secondaryAuthors
      ++ optional "year" ofInt32 source.year
      ++ optional "booktitle" .string source.booktitle
      ++ optional "language" .string source.language
      ++ optional "DOI" .string source.doi)

/-- The JSON value of a layer. -/
def VelocityLayer.toJson (layer : VelocityLayer) : Json :=
  .object
    [("density", ofFloat layer.density),
      ("velocityP", ofFloat layer.velocityP),
      ("velocityS", ofFloat layer.velocityS),
      ("layerTopDepth", ofFloat layer.topDepth),
      ("layerBottomDepth", ofFloat layer.bottomDepth)]

/-- The JSON value of a profile. -/
def VelocityProfile.toJson (profile : VelocityProfile) : Json :=
  .object
    [("layer_count", ofInt64 profile.layerCount),
      ("velocity_profile_data", .array (profile.layers.map VelocityLayer.toJson))]

/-- The JSON value of an indicator's value. -/
def IndicatorValue.toJson : IndicatorValue → Json
  | number value => ofFloat value
  | text value => .string value

/-- The members of a variant: its name and the fields of its own. -/
def IndicatorDetail.members (detail : IndicatorDetail) : List (String × Json) :=
  ("name", .string detail.name.label) ::
    match detail with
    | geologicalUnit scale unit =>
      optional "geological_map_scale" .string scale ++ optional "geological_unit_OGE" .string unit
    | velocityS30 combined manual =>
      optional "method_combined_quality_index" ofFloat combined
        ++ optional "manual_quality_index" ofFloat manual
    | _ => []

/-- The JSON value of a variant alone. -/
def IndicatorDetail.toJson (detail : IndicatorDetail) : Json :=
  .object detail.members

/-- The JSON value of an indicator. -/
def Indicator.toJson (indicator : Indicator) : Json :=
  .object <|
    indicator.detail.members
      ++ ("value", indicator.value.toJson) ::
      (optional "uncertainty" ofFloat indicator.uncertainty
        ++ ("methods", .array (indicator.methods.map .string)) ::
        (optional "quality_index" ofFloat indicator.qualityIndex
          ++ optional "literature_source" Literature.toJson indicator.literature
          ++ optional "external_reference" .string indicator.externalReference))

/-- The JSON value of a description. -/
def Description.toJson (d : Description) : Json :=
  .object <|
    ("latitude", ofFloat d.latitude) ::
    ("longitude", ofFloat d.longitude) ::
    (optional "altitude" ofFloat d.altitude
      ++ optional "minDistanceFromStation" ofFloat d.minDistance
      ++ optional "maxDistanceFromStation" ofFloat d.maxDistance
      ++ optional "EC8" Indicator.toJson d.ec8
      ++ optional "bedrock_depth" Indicator.toJson d.bedrockDepth
      ++ optional "H800" Indicator.toJson d.h800
      ++ optional "geological_unit" Indicator.toJson d.geologicalUnit
      ++ optional "morphology" .string d.morphology
      ++ optional "topologyA" TagSet.toJson d.slopeClass
      ++ optional "topologyB" TagSet.toJson d.landform)

/-- The JSON value of a characterization. -/
def Characterization.toJson (c : Characterization) : Json :=
  .object <|
    optional "publicID" .string c.publicId
      ++ optional "analysis_publicID" .string c.analysisPublicId
      ++ optional "resonance_frequency" Indicator.toJson c.resonanceFrequency
      ++ optional "velocity_s30" Indicator.toJson c.velocityS30
      ++ optional "velocity_profile_count" ofInt64 c.profileCount
      ++ ("velocity_profile", .array (c.profiles.map VelocityProfile.toJson)) ::
      (optional "spt_logs_count" ofInt64 c.sptLogs
        ++ optional "cpt_logs_count" ofInt64 c.cptLogs
        ++ optional "borehole_logs_count" ofInt64 c.boreholeLogs)

/-- The JSON value of a site. -/
def Site.toJson (site : Site) : Json :=
  .object <|
    ("station_code", .string site.stationCode) ::
    (optional "site_description" Description.toJson site.description
      ++ optional "site_characterization_parameters" Characterization.toJson site.characterization
      ++ optional "overall_quality_index" ofFloat site.overallQuality)

/-- The JSON value of an element. -/
def Element.toJson : Element → Json
  | literature value => value.toJson
  | indicator value => value.toJson
  | layer value => value.toJson
  | profile value => value.toJson
  | description value => value.toJson
  | characterization value => value.toJson

end SeismicSite
