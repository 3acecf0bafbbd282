import SeismicSite.Proofs.Construction
import SeismicSite.Proofs.Text.Lines
import SeismicSite.Summary
/-!
# One line for each part

A summary is a list of parts in a fixed order, each of which is there or not
(`SummaryPart`). Every part that is there has one line, which starts with the part's
own words; the words of an indicator are its own name, so that they are the words of
its slot is due to the site being well-formed. Only the texts of a site can bring
further line feeds into its summary, for numbers have none.
-/

namespace SeismicSite

/-! ## The parts -/

/-- What a line of a summary tells. -/
inductive SummaryPart where
  | station
  | position
  | topography
  | morphology
  /-- The indicator in the slot of that name. -/
  | indicator (name : IndicatorName)
  | profiles
  | quality
  deriving DecidableEq

namespace SummaryPart

/-- All parts, in the order in which they are shown. -/
def all : List SummaryPart :=
  [station, position, topography, morphology, indicator .ec8, indicator .h800,
    indicator .bedrockDepth, indicator .geologicalUnit, indicator .velocityS30,
    indicator .resonanceFrequency, profiles, quality]

/-- The words that the line of a part starts with. -/
def start : SummaryPart → String
  | station => "Station "
  | position => "  position: "
  | topography => "  topography: "
  | morphology => "  morphology: "
  | indicator name => "  " ++ name.label ++ ": "
  | profiles => "  velocity profiles: "
  | quality => "  overall quality index: "

end SummaryPart

namespace Site

/-- What stands in the slot of a name, in whichever part of the site that has it. -/
def slot (site : Site) : IndicatorName → Option Indicator
  | .ec8 => site.description.bind Description.ec8
  | .h800 => site.description.bind Description.h800
  | .bedrockDepth => site.description.bind Description.bedrockDepth
  | .geologicalUnit => site.description.bind Description.geologicalUnit
  | .velocityS30 => site.characterization.bind Characterization.velocityS30
  | .resonanceFrequency => site.characterization.bind Characterization.resonanceFrequency

/-- Whether the site has the part. -/
def has (site : Site) : SummaryPart → Bool
  | .station => true
  | .position => site.description.isSome
  | .topography => site.description.any fun d => d.slopeClass.isSome || d.landform.isSome
  | .morphology => site.description.any fun d => d.morphology.isSome
  | .indicator name => (site.slot name).isSome
  | .profiles => site.characterization.isSome
  | .quality => site.overallQuality.isSome

/-- The parts that the site has, in order. -/
def summaryParts (site : Site) : List SummaryPart :=
  SummaryPart.all.filter site.has

/-- The line of a part, if the site has it. -/
def line? (site : Site) : SummaryPart → Option String
  | .station => some ("Station " ++ site.stationCode)
  | .position => site.description.map Description.positionLine
  | .topography => site.description.bind Description.topographyLine?
  | .morphology => site.description.bind fun d => d.morphology.map ("  morphology: " ++ ·)
  | .indicator name => (site.slot name).map Indicator.summaryLine
  | .profiles =>
    site.characterization.map fun c => "  velocity profiles: " ++ toString c.profiles.length
  | .quality =>
    site.overallQuality.map fun value => "  overall quality index: " ++ displayFloat value

/-- The texts that the line of a part shows as they are. -/
def texts (site : Site) : SummaryPart → List String
  | .station => [site.stationCode]
  | .morphology => (site.description.bind Description.morphology).toList
  | .indicator name =>
    (site.slot name).toList.flatMap fun indicator =>
      indicator.value.text?.toList ++ indicator.methods
  | _ => []

/-- All texts that the summary shows: the station code, the morphology, and the values
and the methods of the indicators. -/
def shownTexts (site : Site) : List String :=
  SummaryPart.all.flatMap site.texts

/-- The number of fields that the summary shows: the station, what there is in the
description besides its position, the indicators of the characterization and its number
of profiles, and the overall quality. -/
def fieldsShown (site : Site) : Nat :=
  1
    + (site.description.elim 0 fun d =>
      1 + (d.slopeClass.isSome || d.landform.isSome).toNat + d.morphology.isSome.toNat
        + d.ec8.isSome.toNat + d.h800.isSome.toNat + d.bedrockDepth.isSome.toNat
        + d.geologicalUnit.isSome.toNat)
    + (site.characterization.elim 0 fun c =>
      c.velocityS30.isSome.toNat + c.resonanceFrequency.isSome.toNat + 1)
    + site.overallQuality.isSome.toNat

end Site

/-! ## The lines -/

/-- The line of an indicator has the line feeds of its value and its methods. -/
theorem Indicator.lineFeeds_summaryLine (indicator : Indicator) :
    lineFeeds indicator.summaryLine =
      ((indicator.value.text?.toList ++ indicator.methods).map lineFeeds).sum := by
  obtain ⟨detail, value, uncertainty, methods, _, _, _⟩ := indicator
  have hname : lineFeeds detail.name.label = 0 := by cases detail.name <;> decide
  have hvalue : lineFeeds value.display = (value.text?.toList.map lineFeeds).sum := by
    cases value with
    | number x => exact lineFeeds_displayFloat x
    | text s => exact (Nat.add_zero _).symm
  have huncertainty :
      lineFeeds (optionalPart (fun x => " +/- " ++ displayFloat x) uncertainty) = 0 := by
    cases uncertainty with
    | none => rfl
    | some x =>
      have hsign : lineFeeds " +/- " = 0 := by decide
      rw [optionalPart, lineFeeds_append, hsign, lineFeeds_displayFloat]
  have hmethods : lineFeeds (if methods.isEmpty then "" else " [" ++ ", ".intercalate methods ++ "]") =
      (methods.map lineFeeds).sum := by
    have hopen : lineFeeds " [" = 0 := by decide
    have hclose : lineFeeds "]" = 0 := by decide
    cases methods with
    | nil => rfl
    | cons method methods =>
      rw [List.isEmpty_cons, if_neg Bool.false_ne_true, lineFeeds_append, lineFeeds_append, hopen,
        hclose, lineFeeds_intercalate_comma, Nat.zero_add, Nat.add_zero]
  have hindent : lineFeeds "  " = 0 := by decide
  have hcolon : lineFeeds ": " = 0 := by decide
  simp only [summaryLine, Indicator.name, lineFeeds_append, hname, hvalue, huncertainty, hmethods,
    hindent, hcolon, List.map_append, List.sum_append]
  omega

namespace Description

theorem lineFeeds_positionLine (d : Description) : lineFeeds d.positionLine = 0 := by
  have hposition : lineFeeds "  position: " = 0 := by decide
  have hcomma : lineFeeds ", " = 0 := by decide
  have hopen : lineFeeds " (altitude " = 0 := by decide
  have hclose : lineFeeds " m)" = 0 := by decide
  have haltitude : lineFeeds (optionalPart
      (fun altitude => " (altitude " ++ displayFloat altitude ++ " m)") d.altitude) = 0 := by
    cases d.altitude with
    | none => rfl
    | some altitude =>
      rw [optionalPart, lineFeeds_append, lineFeeds_append, hopen, hclose, lineFeeds_displayFloat]
  simp only [positionLine, lineFeeds_append, lineFeeds_displayFloat, hposition, hcomma, haltitude]

theorem lineFeeds_tagOrDash {scheme : Scheme} (found : Option scheme.Carrier) :
    lineFeeds (tagOrDash found) = 0 := by
  cases found with
  | none => cases scheme <;> decide
  | some member => cases scheme <;> cases member <;> decide

theorem lineFeeds_topographyLine {d : Description} {line : String} (h : d.topographyLine? = some line) :
    lineFeeds line = 0 := by
  have hstart : lineFeeds "  topography: A=" = 0 := by decide
  have hmiddle : lineFeeds ", B=" = 0 := by decide
  unfold topographyLine? at h
  split at h
  · cases h
  · obtain rfl := Option.some.inj h
    simp only [lineFeeds_append, hstart, hmiddle, @lineFeeds_tagOrDash .slopeClass,
      @lineFeeds_tagOrDash .landform]

/-- The topography has a line if it is classified by either scheme. -/
theorem isSome_topographyLine (d : Description) :
    d.topographyLine?.isSome = (d.slopeClass.isSome || d.landform.isSome) := by
  cases hslope : d.slopeClass <;> cases hlandform : d.landform <;>
    simp [topographyLine?, hslope, hlandform]

end Description

namespace Site

/-- **The lines of a summary are those of its parts.** -/
theorem summaryLines_eq (site : Site) : site.summaryLines = SummaryPart.all.filterMap site.line? := by
  obtain ⟨code, description, characterization, quality⟩ := site
  simp only [summaryLines, SummaryPart.all, List.filterMap_eq_flatMap_toList]
  cases description <;> cases characterization <;>
    simp [line?, slot, Description.summaryLines, Characterization.summaryLines,
      List.filterMap_eq_flatMap_toList, Option.toList_map]

/-- A part has a line if the site has the part. -/
theorem has_eq_isSome_line (site : Site) (part : SummaryPart) :
    site.has part = (site.line? part).isSome := by
  cases part with
  | topography =>
    rw [has, line?]
    cases site.description with
    | none => rfl
    | some d => exact (Description.isSome_topographyLine d).symm
  | morphology =>
    rw [has, line?]
    cases site.description with
    | none => rfl
    | some d => exact Option.isSome_map.symm
  | station => rfl
  | _ => exact Option.isSome_map.symm

/-- The line of a part has the line feeds of the texts that it shows. -/
theorem lineFeeds_line (site : Site) (part : SummaryPart) :
    ((site.line? part).toList.map lineFeeds).sum = ((site.texts part).map lineFeeds).sum := by
  cases part with
  | station =>
    have hstart : lineFeeds "Station " = 0 := by decide
    simp [line?, texts, hstart]
  | position =>
    cases hd : site.description with
    | none => simp [line?, texts, hd]
    | some d => simp [line?, texts, hd, Description.lineFeeds_positionLine]
  | topography =>
    cases hline : site.line? .topography with
    | none => rfl
    | some line =>
      obtain ⟨d, -, htopography⟩ := Option.bind_eq_some_iff.mp hline
      simp [texts, Description.lineFeeds_topographyLine htopography]
  | morphology =>
    have hstart : lineFeeds "  morphology: " = 0 := by decide
    rw [line?, texts]
    cases site.description with
    | none => rfl
    | some d => cases hmorphology : d.morphology <;> simp [hmorphology, hstart]
  | indicator name =>
    rw [line?, texts]
    cases site.slot name with
    | none => rfl
    | some indicator => simp [indicator.lineFeeds_summaryLine]
  | profiles =>
    have hstart : lineFeeds "  velocity profiles: " = 0 := by decide
    cases hc : site.characterization with
    | none => simp [line?, texts, hc]
    | some c => simp [line?, texts, hc, hstart]
  | quality =>
    have hstart : lineFeeds "  overall quality index: " = 0 := by decide
    cases hquality : site.overallQuality with
    | none => simp [line?, texts, hquality]
    | some value => simp [line?, texts, hquality, hstart]

/-- **The lines of a summary have the line feeds of the texts that it shows.** -/
theorem lineFeeds_summaryLines (site : Site) :
    (site.summaryLines.map lineFeeds).sum = (site.shownTexts.map lineFeeds).sum := by
  rw [summaryLines_eq, shownTexts]
  induction SummaryPart.all with
  | nil => rfl
  | cons part parts ih =>
    have hpart := lineFeeds_line site part
    simp only [List.filterMap_eq_flatMap_toList, List.flatMap_cons, List.map_append,
      List.sum_append] at ih ⊢
    omega

/-- The site has as many parts as it has fields to show. -/
theorem length_summaryParts (site : Site) : site.summaryParts.length = site.fieldsShown := by
  have hcons (part : SummaryPart) (parts : List SummaryPart) :
      (part :: parts).countP site.has = parts.countP site.has + (site.has part).toNat := by
    rw [List.countP_cons]
    cases site.has part <;> rfl
  rw [summaryParts, ← List.countP_eq_length_filter, SummaryPart.all]
  simp only [hcons, List.countP_nil]
  obtain ⟨code, description, characterization, quality⟩ := site
  cases description <;> cases characterization <;>
    simp only [has, slot, fieldsShown, Option.isSome_none, Option.isSome_some, Option.any_none,
      Option.any_some, Option.bind_none, Option.bind_some, Option.elim_none, Option.elim_some,
      Bool.toNat_false, Bool.toNat_true] <;>
    omega

/-- The indicator in a slot of a well-formed site is of the name of the slot. -/
theorem name_of_slot {site : Site} (hwf : site.WellFormed) {name : IndicatorName}
    {indicator : Indicator} (h : site.slot name = some indicator) : indicator.name = name := by
  cases name with
  | ec8 =>
    obtain ⟨d, hd, hslot⟩ := Option.bind_eq_some_iff.mp h
    exact (hwf.description d hd).ec8 indicator hslot
  | h800 =>
    obtain ⟨d, hd, hslot⟩ := Option.bind_eq_some_iff.mp h
    exact (hwf.description d hd).h800 indicator hslot
  | bedrockDepth =>
    obtain ⟨d, hd, hslot⟩ := Option.bind_eq_some_iff.mp h
    exact (hwf.description d hd).bedrockDepth indicator hslot
  | geologicalUnit =>
    obtain ⟨d, hd, hslot⟩ := Option.bind_eq_some_iff.mp h
    exact (hwf.description d hd).geologicalUnit indicator hslot
  | velocityS30 =>
    obtain ⟨c, hc, hslot⟩ := Option.bind_eq_some_iff.mp h
    exact (hwf.characterization c hc).velocityS30 indicator hslot
  | resonanceFrequency =>
    obtain ⟨c, hc, hslot⟩ := Option.bind_eq_some_iff.mp h
    exact (hwf.characterization c hc).resonanceFrequency indicator hslot

/-- **The line of a part starts with its words**; the slots of a well-formed site name
the indicators in them. -/
theorem exists_start_of_line {site : Site} (hwf : site.WellFormed) {part : SummaryPart}
    {line : String} (h : site.line? part = some line) : ∃ more, line = part.start ++ more := by
  cases part with
  | station =>
    obtain rfl := Option.some.inj h
    exact ⟨_, rfl⟩
  | position =>
    obtain ⟨d, -, rfl⟩ := Option.map_eq_some_iff.mp h
    simp only [Description.positionLine, String.append_assoc]
    exact ⟨_, rfl⟩
  | topography =>
    obtain ⟨d, -, hline⟩ := Option.bind_eq_some_iff.mp h
    unfold Description.topographyLine? at hline
    split at hline
    · cases hline
    · obtain rfl := Option.some.inj hline
      have hstart : "  topography: A=" = SummaryPart.topography.start ++ "A=" := by decide
      simp only [hstart, String.append_assoc]
      exact ⟨_, rfl⟩
  | morphology =>
    obtain ⟨d, -, hline⟩ := Option.bind_eq_some_iff.mp h
    obtain ⟨text, -, rfl⟩ := Option.map_eq_some_iff.mp hline
    exact ⟨_, rfl⟩
  | indicator name =>
    obtain ⟨indicator, hslot, rfl⟩ := Option.map_eq_some_iff.mp h
    have hname := name_of_slot hwf hslot
    simp only [Indicator.summaryLine, hname, SummaryPart.start, String.append_assoc]
    exact ⟨_, rfl⟩
  | profiles =>
    obtain ⟨c, -, rfl⟩ := Option.map_eq_some_iff.mp h
    exact ⟨_, rfl⟩
  | quality =>
    obtain ⟨value, -, rfl⟩ := Option.map_eq_some_iff.mp h
    exact ⟨_, rfl⟩

/-- **The lines are told by the parts**, one for each. -/
theorem forall₂_parts_lines {site : Site} (hwf : site.WellFormed) :
    List.Forall₂ (fun part line => ∃ more, line = part.start ++ more) site.summaryParts
      site.summaryLines := by
  rw [summaryLines_eq, summaryParts]
  induction SummaryPart.all with
  | nil => exact .nil
  | cons part parts ih =>
    cases hline : site.line? part with
    | none =>
      have hhas : ¬ site.has part = true := by simp [has_eq_isSome_line, hline]
      rw [List.filter_cons_of_neg hhas, List.filterMap_cons_none hline]
      exact ih
    | some line =>
      have hhas : site.has part = true := by simp [has_eq_isSome_line, hline]
      rw [List.filter_cons_of_pos hhas, List.filterMap_cons_some hline]
      exact .cons (exists_start_of_line hwf hline) ih

/-- A summary has as many lines as the site has fields to show. -/
theorem length_summaryLines (site : Site) : site.summaryLines.length = site.fieldsShown := by
  have hcount : SummaryPart.all.countP (fun part => (site.line? part).isSome) =
      SummaryPart.all.countP site.has :=
    List.countP_congr fun part _ => by rw [has_eq_isSome_line]
  rw [summaryLines_eq, List.length_filterMap_eq_countP, hcount, List.countP_eq_length_filter,
    ← summaryParts, length_summaryParts]

/-- Every line but that of the station is indented. -/
theorem exists_indent_of_start {part : SummaryPart} (h : part ≠ .station) :
    ∃ more, part.start = "  " ++ more := by
  cases part with
  | station => exact absurd rfl h
  | position => exact ⟨"position: ", by decide⟩
  | topography => exact ⟨"topography: ", by decide⟩
  | morphology => exact ⟨"morphology: ", by decide⟩
  | indicator name => exact ⟨name.label ++ ": ", String.append_assoc⟩
  | profiles => exact ⟨"velocity profiles: ", by decide⟩
  | quality => exact ⟨"overall quality index: ", by decide⟩

/-- **A summary starts with the station, and all its other lines are indented.** -/
theorem exists_station_of_summaryLines {site : Site} (hwf : site.WellFormed) :
    ∃ first others, site.summaryLines = first :: others ∧ (∃ more, first = "Station " ++ more) ∧
      ∀ line ∈ others, ∃ more, line = "  " ++ more := by
  have hparts : site.summaryParts = .station :: SummaryPart.all.tail.filter site.has := rfl
  have hlines := forall₂_parts_lines hwf
  rw [hparts, List.forall₂_cons_left_iff] at hlines
  obtain ⟨first, others, hfirst, hothers, hlines⟩ := hlines
  refine ⟨first, others, hlines, hfirst, fun line hline => ?_⟩
  obtain ⟨part, hpart, more, rfl⟩ := exists_of_mem_results hothers hline
  have hne : part ≠ .station := by
    rintro rfl
    exact absurd (List.mem_filter.mp hpart).1 (by decide)
  obtain ⟨start, hstart⟩ := exists_indent_of_start hne
  exact ⟨start ++ more, by rw [hstart, String.append_assoc]⟩

/-- **A summary has one line for each field that is there**, whatever site has been made.
It has a line feed between any two of them and those inside the texts that it shows, and
no others. If these texts have none, its lines are as many as the fields; each starts with
the words of its part, in the order of the parts, so the first is that of the station and
all others are indented. -/
theorem summary_has_one_line_for_each_field {site : Site} (hmade : site.Constructible) :
    lineFeeds site.summary = site.fieldsShown - 1 + (site.shownTexts.map lineFeeds).sum ∧
      ((∀ text ∈ site.shownTexts, lineFeeds text = 0) →
        (linesOf site.summary).length = site.fieldsShown ∧
          List.Forall₂ (fun part line => ∃ more, line = part.start ++ more) site.summaryParts
            (linesOf site.summary) ∧
          ∃ first others, linesOf site.summary = first :: others ∧
            (∃ more, first = "Station " ++ more) ∧ ∀ line ∈ others, ∃ more, line = "  " ++ more) := by
  have hwf := hmade.wellFormed
  refine ⟨?_, fun htexts => ?_⟩
  · rw [summary, lineFeeds_intercalate_newline, length_summaryLines, lineFeeds_summaryLines]
  · have hlines : linesOf site.summary = site.summaryLines := by
      refine linesOf_intercalate (List.cons_ne_nil _ _) fun line hline => ?_
      have hsum : (site.summaryLines.map lineFeeds).sum = 0 := by
        rw [lineFeeds_summaryLines, List.sum_eq_zero_iff]
        exact List.forall_mem_map.mpr htexts
      exact List.sum_eq_zero_iff.mp hsum _ (List.mem_map_of_mem hline)
    rw [hlines]
    exact ⟨length_summaryLines site, forall₂_parts_lines hwf, exists_station_of_summaryLines hwf⟩

/-- A station on a slope, with a ground type that two methods agree on and a profile. -/
def sloping : Site where
  stationCode := "NRCA"
  description := some
    { latitude := 42.83
      longitude := 13.11
      ec8 := some { detail := .ec8, value := .text "B", methods := ["MASW", "HVSR"] }
      slopeClass := some .t2 }
  characterization := some { profiles := [{ layerCount := 0, layers := [] }] }

theorem summary_has_one_line_for_each_field_sloping :
    sloping.Constructible ∧ lineFeeds sloping.summary = 4 ∧
      (linesOf sloping.summary).length = 5 ∧
      sloping.summaryParts = [.station, .position, .topography, .indicator .ec8, .profiles] ∧
      List.Forall₂ (fun part line => ∃ more, line = part.start ++ more) sloping.summaryParts
        (linesOf sloping.summary) := by
  have hwf : sloping.WellFormed := by
    constructor
    · rintro part ⟨rfl⟩
      constructor <;> simp [Slot.Holds, Description.ec8Slot, Indicator.name, IndicatorDetail.name]
    · rintro part ⟨rfl⟩
      constructor <;> simp [Slot.Holds]
  have hfree : ∀ text ∈ sloping.shownTexts, lineFeeds text = 0 := by decide
  have hmade := constructible_iff.mpr hwf
  obtain ⟨hfeeds, hlines⟩ := summary_has_one_line_for_each_field hmade
  obtain ⟨hlength, hparts, -⟩ := hlines hfree
  have hnone : (sloping.shownTexts.map lineFeeds).sum = 0 := by decide
  rw [hnone] at hfeeds
  exact ⟨hmade, hfeeds, hlength, by decide, hparts⟩

end Site

end SeismicSite
