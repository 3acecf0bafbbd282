import SeismicSite.Field.Error
/-!
# Indicators and their sources

An indicator is a measured or classified quantity of a site together with
its uncertainty, the methods used to obtain it and the publication it was
taken from. All indicators share one shape. The variant fixes the name and
carries the few fields that only a geological unit or a Vs30 has.
-/

namespace SeismicSite

/-- A publication. The year is a signed 32-bit number. -/
structure Literature where
  title : String
  firstAuthor : Option String := none
  secondaryAuthors : Option String := none
  year : Option Int32 := none
  booktitle : Option String := none
  language : Option String := none
  doi : Option String := none
  deriving BEq, DecidableEq

namespace Literature

/-- The source of a title, of which nothing else is known. -/
def ofTitle (title : String) : Literature := { title }

/-- The source with the first author `name`. -/
def withFirstAuthor (source : Literature) (name : String) : Literature :=
  { source with firstAuthor := some name }

/-- The source with the further authors `names`. -/
def withSecondaryAuthors (source : Literature) (names : String) : Literature :=
  { source with secondaryAuthors := some names }

/-- The source with the year of publication `year`. -/
def withYear (source : Literature) (year : Int32) : Literature :=
  { source with year := some year }

/-- The source with the title of the volume it appeared in. -/
def withBooktitle (source : Literature) (title : String) : Literature :=
  { source with booktitle := some title }

/-- The source with the language it is written in. -/
def withLanguage (source : Literature) (language : String) : Literature :=
  { source with language := some language }

/-- The source with its digital object identifier. -/
def withDoi (source : Literature) (doi : String) : Literature :=
  { source with doi := some doi }

end Literature

/-- The value of an indicator: most are numbers, ground types and
geological units are usually words. -/
inductive IndicatorValue where
  | number (value : Float)
  | text (value : String)
  deriving BEq

namespace IndicatorValue

/-- The number, if the value is one. -/
def number? : IndicatorValue → Option Float
  | number value => some value
  | text _ => none

/-- The text, if the value is one. -/
def text? : IndicatorValue → Option String
  | number _ => none
  | text value => some value

end IndicatorValue

/-- The variant of an indicator with the fields of its own. -/
inductive IndicatorDetail where
  | h800
  | ec8
  | bedrockDepth
  /-- The scale of the geological map the unit was taken from, and the
  unit in the One Geology Europe classification. -/
  | geologicalUnit (mapScale : Option String) (ogeUnit : Option String)
  | resonanceFrequency
  /-- The quality index that combines all methods used, and the one
  assigned by hand. -/
  | velocityS30 (combinedQuality : Option Float) (manualQuality : Option Float)
  deriving BEq

namespace IndicatorDetail

/-- The name that the variant fixes. -/
def name : IndicatorDetail → IndicatorName
  | h800 => .h800
  | ec8 => .ec8
  | bedrockDepth => .bedrockDepth
  | geologicalUnit _ _ => .geologicalUnit
  | resonanceFrequency => .resonanceFrequency
  | velocityS30 _ _ => .velocityS30

end IndicatorDetail

/-- A named, measured or classified quantity of a site. -/
structure Indicator where
  detail : IndicatorDetail
  value : IndicatorValue
  uncertainty : Option Float := none
  methods : List String := []
  qualityIndex : Option Float := none
  literature : Option Literature := none
  externalReference : Option String := none
  deriving BEq

namespace Indicator

/-- The name of the quantity. -/
def name (indicator : Indicator) : IndicatorName :=
  indicator.detail.name

/-- The indicator of a variant and a value, of which nothing else is known. -/
def ofDetail (detail : IndicatorDetail) (value : IndicatorValue) : Indicator :=
  { detail, value }

/-- The depth in metres at which the shear wave velocity reaches 800 m/s. -/
def h800 (value : IndicatorValue) : Indicator :=
  ofDetail .h800 value

/-- The ground type by Eurocode 8. -/
def ec8 (value : IndicatorValue) : Indicator :=
  ofDetail .ec8 value

/-- The depth of the bedrock in metres. -/
def bedrockDepth (value : IndicatorValue) : Indicator :=
  ofDetail .bedrockDepth value

/-- A geological unit, with the scale of the map it was taken from and its
unit in the One Geology Europe classification. -/
def geologicalUnit (value : IndicatorValue) (mapScale ogeUnit : Option String) : Indicator :=
  ofDetail (.geologicalUnit mapScale ogeUnit) value

/-- The resonance frequency in hertz. -/
def resonanceFrequency (value : IndicatorValue) : Indicator :=
  ofDetail .resonanceFrequency value

/-- The Vs30 in metres per second, with its two quality indices. -/
def velocityS30 (value : IndicatorValue) (combinedQuality manualQuality : Option Float) :
    Indicator :=
  ofDetail (.velocityS30 combinedQuality manualQuality) value

/-- The indicator of a variant, by the constructor of that name. -/
def ofVariant : IndicatorDetail → IndicatorValue → Indicator
  | .h800, value => h800 value
  | .ec8, value => ec8 value
  | .bedrockDepth, value => bedrockDepth value
  | .geologicalUnit mapScale ogeUnit, value => geologicalUnit value mapScale ogeUnit
  | .resonanceFrequency, value => resonanceFrequency value
  | .velocityS30 combinedQuality manualQuality, value =>
    velocityS30 value combinedQuality manualQuality

/-- **The constructors make what they are named for.** -/
theorem ofVariant_eq_ofDetail (detail : IndicatorDetail) (value : IndicatorValue) :
    ofVariant detail value = ofDetail detail value := by
  cases detail <;> rfl

/-- The indicator with the uncertainty `value`. -/
def withUncertainty (indicator : Indicator) (value : Float) : Indicator :=
  { indicator with uncertainty := some value }

/-- The indicator with the methods `names` in place of any given before. -/
def withMethods (indicator : Indicator) (names : List String) : Indicator :=
  { indicator with methods := names }

/-- The indicator with the quality index `value`. -/
def withQualityIndex (indicator : Indicator) (value : Float) : Indicator :=
  { indicator with qualityIndex := some value }

/-- The indicator with the publication it was taken from. -/
def withLiterature (indicator : Indicator) (source : Literature) : Indicator :=
  { indicator with literature := some source }

/-- The indicator with a reference outside the document. -/
def withExternalReference (indicator : Indicator) (reference : String) : Indicator :=
  { indicator with externalReference := some reference }

/-- The map scale of a geological unit. -/
def mapScale (indicator : Indicator) : Option String :=
  match indicator.detail with
  | .geologicalUnit scale _ => scale
  | _ => none

/-- The One Geology Europe unit of a geological unit. -/
def ogeUnit (indicator : Indicator) : Option String :=
  match indicator.detail with
  | .geologicalUnit _ unit => unit
  | _ => none

/-- The combined quality index of a Vs30. -/
def combinedQuality (indicator : Indicator) : Option Float :=
  match indicator.detail with
  | .velocityS30 combined _ => combined
  | _ => none

/-- The manual quality index of a Vs30. -/
def manualQuality (indicator : Indicator) : Option Float :=
  match indicator.detail with
  | .velocityS30 _ manual => manual
  | _ => none

/-- The kind of an indicator follows from its name. -/
def kind (indicator : Indicator) : ValueKind :=
  .entity (.element (.indicator indicator.name))

end Indicator

/-! ## Slots

A site description and a characterization keep some indicators in slots of
their own. All six variants share one type, so a slot states the name it
takes: `Holds` says that an occupied slot has the right indicator in it,
and `accept` is the check, which names the slot's field when it fails. -/

instance : HasKind Indicator where
  kind := Indicator.kind

/-- An indicator slot: the field it is read from and the name it takes. -/
structure Slot where
  field : String
  name : IndicatorName

namespace Slot

/-- The one kind of value that the slot takes. -/
def kind (slot : Slot) : ValueKind :=
  .entity (.element (.indicator slot.name))

/-- The slot is empty or holds an indicator of its own name. -/
def Holds (slot : Slot) (occupant : Option Indicator) : Prop :=
  ∀ indicator ∈ occupant, indicator.name = slot.name

/-- The occupant itself, if it is an indicator of the slot's name. -/
def accept (slot : Slot) (occupant : Option Indicator) : Except FieldError (Option Indicator) :=
  checkKind slot.field [slot.kind] true occupant

/-- **A slot accepts exactly what it may hold**, and gives it back. -/
theorem accept_eq_ok_iff {slot : Slot} {occupant found : Option Indicator} :
    slot.accept occupant = .ok found ↔ found = occupant ∧ slot.Holds occupant := by
  cases occupant with
  | none => simp [accept, checkKind, Holds, eq_comm]
  | some indicator =>
    by_cases h : indicator.name = slot.name
    · simp [accept, checkKind, expectKind, Holds, HasKind.kind, Indicator.kind, kind, h,
        Functor.map, Except.map, eq_comm]
    · simp [accept, checkKind, expectKind, Holds, HasKind.kind, Indicator.kind, kind, h,
        Functor.map, Except.map]

end Slot

end SeismicSite
