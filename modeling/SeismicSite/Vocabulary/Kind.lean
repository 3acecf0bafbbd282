/-!
# Kinds

Every value has a kind, known while a document is read. Plain values are
texts, floats, integers and lists; the twelve entity kinds carry their
SiteXML type names. A site is the root of a document, so it is an entity
kind but not an *element* kind: the eleven element kinds are the ones that
may stand inside another entity.
-/

namespace SeismicSite

/-- The six quantities that an indicator can report. -/
inductive IndicatorName where
  /-- Depth at which the shear-wave velocity exceeds 800 m/s. -/
  | h800
  /-- Ground type according to Eurocode 8. -/
  | ec8
  /-- Depth to bedrock. -/
  | bedrockDepth
  /-- Surface geological unit. -/
  | geologicalUnit
  /-- Fundamental resonance frequency of the soil column. -/
  | resonanceFrequency
  /-- Average shear-wave velocity over the top 30 m. -/
  | velocityS30
  deriving DecidableEq

namespace IndicatorName

/-- Every indicator name, in declaration order. -/
def all : List IndicatorName :=
  [h800, ec8, bedrockDepth, geologicalUnit, resonanceFrequency, velocityS30]

/-- The fixed name that labels an indicator in documents and summaries. -/
def label : IndicatorName → String
  | h800 => "H800"
  | ec8 => "EC8"
  | bedrockDepth => "bedrock_depth"
  | geologicalUnit => "geological_unit"
  | resonanceFrequency => "resonance_frequency"
  | velocityS30 => "velocity_s30"

/-- The SiteXML type name of an indicator. -/
def typeName : IndicatorName → String
  | h800 => "H800_class"
  | ec8 => "EC8_class"
  | bedrockDepth => "BedrockDepth"
  | geologicalUnit => "GeologicalUnit"
  | resonanceFrequency => "ResonanceFrequency"
  | velocityS30 => "velocityS30"

/-- The word that stands for the name itself where it is written alone. -/
def keyword : IndicatorName → String
  | h800 => "H800"
  | ec8 => "Ec8"
  | bedrockDepth => "BedrockDepth"
  | geologicalUnit => "GeologicalUnit"
  | resonanceFrequency => "ResonanceFrequency"
  | velocityS30 => "VelocityS30"

end IndicatorName

/-- The kinds of entity that may stand inside another one. -/
inductive ElementKind where
  | literature
  | indicator (name : IndicatorName)
  | layer
  | profile
  | description
  | characterization
  deriving DecidableEq

/-- The SiteXML type name of an element kind. -/
def ElementKind.typeName : ElementKind → String
  | literature => "LiteratureSource"
  | indicator name => name.typeName
  | layer => "VelocityProfileData"
  | profile => "VelocityProfile"
  | description => "SiteDescription"
  | characterization => "SiteCharacterizationParameters"

/-- The kinds of entity: the element kinds and the site. -/
inductive EntityKind where
  | element (kind : ElementKind)
  | site
  deriving DecidableEq

namespace EntityKind

/-- The SiteXML type name of an entity kind. -/
def typeName : EntityKind → String
  | element kind => kind.typeName
  | site => "Site"

/-- Every entity kind, from the leaves of a document to its root. -/
def all : List EntityKind :=
  [element .literature,
    element (.indicator .h800),
    element (.indicator .ec8),
    element (.indicator .bedrockDepth),
    element (.indicator .geologicalUnit),
    element (.indicator .resonanceFrequency),
    element (.indicator .velocityS30),
    element .layer,
    element .profile,
    element .description,
    element .characterization,
    site]

theorem mem_all (kind : EntityKind) : kind ∈ all := by
  cases kind with
  | element kind =>
    cases kind with
    | indicator name => cases name <;> decide
    | _ => decide
  | site => decide

/-- The entity kind whose type name is exactly `name`. -/
def ofTypeName? (name : String) : Option EntityKind :=
  all.find? fun kind => kind.typeName == name

end EntityKind

/-- The kind of any value: plain, or an entity of some kind. -/
inductive ValueKind where
  | text
  | float
  | integer
  | list
  | entity (kind : EntityKind)
  deriving DecidableEq

/-- The name of a kind in diagnostics. -/
def ValueKind.typeName : ValueKind → String
  | text => "text"
  | float => "float"
  | integer => "integer"
  | list => "list"
  | entity kind => kind.typeName

end SeismicSite
