import SeismicSite.Decimal.Layout
import SeismicSite.Entity.Site
/-!
# Summaries

A site in a few lines for a reader at a terminal: the station, then one
indented line per part that is there.
-/

namespace SeismicSite

/-- An indicator value as shown. -/
def IndicatorValue.display : IndicatorValue → String
  | number value => displayFloat value
  | text value => value

/-- An optional part of a line: nothing if the value is absent. -/
def optionalPart {α : Type} (write : α → String) : Option α → String
  | none => ""
  | some value => write value

/-- The line of an indicator: its name, value, uncertainty and methods. -/
def Indicator.summaryLine (indicator : Indicator) : String :=
  "  " ++ indicator.name.label ++ ": " ++ indicator.value.display
    ++ optionalPart (fun value => " +/- " ++ displayFloat value) indicator.uncertainty
    ++ (if indicator.methods.isEmpty then ""
        else " [" ++ ", ".intercalate indicator.methods ++ "]")

namespace Description

/-- The line of the position. -/
def positionLine (d : Description) : String :=
  "  position: " ++ displayFloat d.latitude ++ ", " ++ displayFloat d.longitude
    ++ optionalPart (fun altitude => " (altitude " ++ displayFloat altitude ++ " m)") d.altitude

/-- The tag of a topography class, or a dash. -/
def tagOrDash {α : Type} [TagSet α] : Option α → String
  | some member => TagSet.tag member
  | none => "-"

/-- The line of the topography, if it is classified by either scheme. -/
def topographyLine? (d : Description) : Option String :=
  if d.slopeClass.isNone && d.landform.isNone then none
  else some ("  topography: A=" ++ tagOrDash d.slopeClass ++ ", B=" ++ tagOrDash d.landform)

/-- The lines of a description. -/
def summaryLines (d : Description) : List String :=
  [d.positionLine]
    ++ d.topographyLine?.toList
    ++ (d.morphology.map ("  morphology: " ++ ·)).toList
    ++ ([d.ec8, d.h800, d.bedrockDepth, d.geologicalUnit].filterMap id).map Indicator.summaryLine

end Description

/-- The lines of a characterization. -/
def Characterization.summaryLines (c : Characterization) : List String :=
  ([c.velocityS30, c.resonanceFrequency].filterMap id).map Indicator.summaryLine
    ++ ["  velocity profiles: " ++ toString c.profiles.length]

namespace Site

/-- The lines of a site. -/
def summaryLines (site : Site) : List String :=
  ["Station " ++ site.stationCode]
    ++ (site.description.map Description.summaryLines).getD []
    ++ (site.characterization.map Characterization.summaryLines).getD []
    ++ (site.overallQuality.map fun value =>
      "  overall quality index: " ++ displayFloat value).toList

/-- The summary of a site, its lines joined by line feeds. -/
def summary (site : Site) : String :=
  "\n".intercalate site.summaryLines

end Site

end SeismicSite
