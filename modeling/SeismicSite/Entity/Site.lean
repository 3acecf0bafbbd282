import SeismicSite.Entity.Indicator
/-!
# Sites

A site ties a station, by its code, to a description of the ground there
and to the parameters measured. Both parts keep some of their indicators in
slots; `checked` is the way to build either from indicators of any name. It
accepts exactly the well-formed ones and otherwise names the first wrong
slot. Counts and distances are kept as reported and are not compared with
anything.
-/

namespace SeismicSite

/-! ## The description of the ground -/

/-- The location, topography and geology of a site. Angles are in degrees,
lengths in metres. -/
structure Description where
  latitude : Float
  longitude : Float
  altitude : Option Float := none
  /-- The least distance between the station and the measurements. -/
  minDistance : Option Float := none
  /-- The greatest distance between the station and the measurements. -/
  maxDistance : Option Float := none
  ec8 : Option Indicator := none
  bedrockDepth : Option Indicator := none
  h800 : Option Indicator := none
  geologicalUnit : Option Indicator := none
  morphology : Option String := none
  slopeClass : Option SlopeClass := none
  landform : Option Landform := none
  deriving BEq

namespace Description

/-- The slot of the ground type. -/
def ec8Slot : Slot := ⟨"EC8", .ec8⟩

/-- The slot of the bedrock depth. -/
def bedrockDepthSlot : Slot := ⟨"bedrock_depth", .bedrockDepth⟩

/-- The slot of the H800 depth. -/
def h800Slot : Slot := ⟨"H800", .h800⟩

/-- The slot of the geological unit. -/
def geologicalUnitSlot : Slot := ⟨"geological_unit", .geologicalUnit⟩

/-- Every slot holds an indicator of its own name or none. -/
structure WellFormed (description : Description) : Prop where
  ec8 : ec8Slot.Holds description.ec8
  bedrockDepth : bedrockDepthSlot.Holds description.bedrockDepth
  h800 : h800Slot.Holds description.h800
  geologicalUnit : geologicalUnitSlot.Holds description.geologicalUnit

/-- The description itself, if every slot holds an indicator of its own
name; the slots are checked in the order of the fields. The two distances
are not compared with each other. -/
def checked (description : Description) : Except FieldError Description := do
  let ec8 ← ec8Slot.accept description.ec8
  let bedrockDepth ← bedrockDepthSlot.accept description.bedrockDepth
  let h800 ← h800Slot.accept description.h800
  let geologicalUnit ← geologicalUnitSlot.accept description.geologicalUnit
  return { description with ec8, bedrockDepth, h800, geologicalUnit }

end Description

/-! ## The measured parameters

A velocity profile lists the layers met under a site from the top down,
each with its density and its wave velocities. The declared number of
layers is kept as it was reported and is not compared with the list. -/

/-- One layer of a velocity profile. -/
structure VelocityLayer where
  density : Float
  velocityP : Float
  velocityS : Float
  topDepth : Float
  bottomDepth : Float
  deriving BEq

/-- A layered velocity model of the ground. -/
structure VelocityProfile where
  layerCount : Int64
  layers : List VelocityLayer
  deriving BEq

/-- The parameters measured at a site. -/
structure Characterization where
  publicId : Option String := none
  analysisPublicId : Option String := none
  resonanceFrequency : Option Indicator := none
  velocityS30 : Option Indicator := none
  profileCount : Option Int64 := none
  profiles : List VelocityProfile := []
  sptLogs : Option Int64 := none
  cptLogs : Option Int64 := none
  boreholeLogs : Option Int64 := none
  deriving BEq

namespace Characterization

/-- The slot of the resonance frequency. -/
def resonanceFrequencySlot : Slot := ⟨"resonance_frequency", .resonanceFrequency⟩

/-- The slot of the Vs30. -/
def velocityS30Slot : Slot := ⟨"velocity_s30", .velocityS30⟩

/-- Every slot holds an indicator of its own name or none. -/
structure WellFormed (parameters : Characterization) : Prop where
  resonanceFrequency : resonanceFrequencySlot.Holds parameters.resonanceFrequency
  velocityS30 : velocityS30Slot.Holds parameters.velocityS30

/-- The parameters themselves, if every slot holds an indicator of its own
name; the slots are checked in the order of the fields. -/
def checked (parameters : Characterization) : Except FieldError Characterization := do
  let resonanceFrequency ← resonanceFrequencySlot.accept parameters.resonanceFrequency
  let velocityS30 ← velocityS30Slot.accept parameters.velocityS30
  return { parameters with resonanceFrequency, velocityS30 }

end Characterization

/-! ## The site -/

/-- A seismological station site. -/
structure Site where
  stationCode : String
  description : Option Description := none
  characterization : Option Characterization := none
  overallQuality : Option Float := none
  deriving BEq

namespace Site

/-- The site of a station, of which nothing else is known. -/
def ofCode (code : String) : Site := { stationCode := code }

/-- The site with the description `description`. -/
def withDescription (site : Site) (description : Description) : Site :=
  { site with description := some description }

/-- The site with the measured parameters `parameters`. -/
def withCharacterization (site : Site) (parameters : Characterization) : Site :=
  { site with characterization := some parameters }

/-- The site with the overall quality index `value`. -/
def withOverallQuality (site : Site) (value : Float) : Site :=
  { site with overallQuality := some value }

/-- Every part of the site is well-formed. -/
structure WellFormed (site : Site) : Prop where
  description : ∀ part ∈ site.description, part.WellFormed
  characterization : ∀ part ∈ site.characterization, part.WellFormed

end Site

end SeismicSite
