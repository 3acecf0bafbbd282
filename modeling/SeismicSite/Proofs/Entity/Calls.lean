import SeismicSite.Proofs.Schema.Builder
/-!
# The builders of sources, indicators and sites

The calls that complete an entity of each of these kinds, with the name under which
a record holds the argument of each. All of them are lawful, so runs and records
agree, and a field has the argument of the last call for it, or is as it was when the
entity was made.
-/

namespace SeismicSite

/-! ## The calls -/

/-- The calls that complete a source. -/
inductive Literature.Call where
  | firstAuthor (name : String)
  | secondaryAuthors (names : String)
  | year (year : Int32)
  | booktitle (title : String)
  | language (language : String)
  | doi (doi : String)

/-- The builder of sources. -/
def Literature.builder : Builder (.element .literature) Call where
  apply source
    | .firstAuthor name => source.withFirstAuthor name
    | .secondaryAuthors names => source.withSecondaryAuthors names
    | .year year => source.withYear year
    | .booktitle title => source.withBooktitle title
    | .language language => source.withLanguage language
    | .doi doi => source.withDoi doi
  sets
    | .firstAuthor name => ("firstAuthor", .text name)
    | .secondaryAuthors names => ("secondaryAuthors", .text names)
    | .year year => ("year", .integer year.toInt64)
    | .booktitle title => ("booktitle", .text title)
    | .language language => ("language", .text language)
    | .doi doi => ("DOI", .text doi)

/-- The calls that complete an indicator. -/
inductive Indicator.Call where
  | uncertainty (value : Float)
  | methods (names : List String)
  | qualityIndex (value : Float)
  | literature (source : Literature)
  | externalReference (reference : String)

/-- The builder of the indicators of a name. -/
def Indicator.builder (name : IndicatorName) : Builder (.element (.indicator name)) Call where
  apply indicator
    | .uncertainty value => indicator.withUncertainty value
    | .methods names => indicator.withMethods names
    | .qualityIndex value => indicator.withQualityIndex value
    | .literature source => indicator.withLiterature source
    | .externalReference reference => indicator.withExternalReference reference
  sets
    | .uncertainty value => ("uncertainty", .float value)
    | .methods names => ("methods", .list (names.map .text))
    | .qualityIndex value => ("quality_index", .float value)
    | .literature source => ("literature_source", .element (.literature source))
    | .externalReference reference => ("external_reference", .text reference)

/-- The calls that complete a site. -/
inductive Site.Call where
  | description (description : Description)
  | characterization (parameters : Characterization)
  | overallQuality (value : Float)

/-- The builder of sites. -/
def Site.builder : Builder .site Call where
  apply site
    | .description description => site.withDescription description
    | .characterization parameters => site.withCharacterization parameters
    | .overallQuality value => site.withOverallQuality value
  sets
    | .description description => ("site_description", .element (.description description))
    | .characterization parameters =>
      ("site_characterization_parameters", .element (.characterization parameters))
    | .overallQuality value => ("overall_quality_index", .float value)

/-! ## Each call sets one field -/

theorem Literature.builder_lawful : Literature.builder.Lawful := by
  intro call
  cases call with
  | firstAuthor name =>
    exact Builder.exists_puts ⟨"firstAuthor", .optional .text⟩ (some name) (by decide) nofun rfl
      fun _ => rfl
  | secondaryAuthors names =>
    exact Builder.exists_puts ⟨"secondaryAuthors", .optional .text⟩ (some names) (by decide) nofun
      rfl fun _ => rfl
  | year year =>
    exact Builder.exists_puts ⟨"year", .optional .year⟩ (some year) (by decide) nofun rfl
      fun _ => rfl
  | booktitle title =>
    exact Builder.exists_puts ⟨"booktitle", .optional .text⟩ (some title) (by decide) nofun rfl
      fun _ => rfl
  | language language =>
    exact Builder.exists_puts ⟨"language", .optional .text⟩ (some language) (by decide) nofun
      rfl fun _ => rfl
  | doi doi =>
    exact Builder.exists_puts ⟨"DOI", .optional .text⟩ (some doi) (by decide) nofun rfl
      fun _ => rfl

/-- Every indicator declares the common fields. -/
theorem Indicator.commonFields_subset (name : IndicatorName) :
    commonFields ⊆ (EntityKind.element (.indicator name)).fields := by
  intro field hfield
  cases name with
  | geologicalUnit | velocityS30 => exact List.mem_cons_of_mem _ (List.mem_cons_of_mem _ hfield)
  | _ => exact hfield

theorem Indicator.builder_lawful (name : IndicatorName) : (Indicator.builder name).Lawful := by
  -- the common fields stand behind those of the variant
  have hdeclared := commonFields_subset name
  intro call
  cases call with
  | uncertainty value =>
    exact Builder.exists_puts ⟨"uncertainty", .optional .number⟩ (some value)
      (hdeclared (by decide)) nofun rfl fun _ => by cases name <;> rfl
  | methods names =>
    exact Builder.exists_puts ⟨"methods", .repeated .text⟩ names
      (hdeclared (by decide)) nofun rfl fun _ => by cases name <;> rfl
  | qualityIndex value =>
    exact Builder.exists_puts ⟨"quality_index", .optional .number⟩ (some value)
      (hdeclared (by decide)) nofun rfl fun _ => by cases name <;> rfl
  | literature source =>
    exact Builder.exists_puts ⟨"literature_source", .optional (.element .literature)⟩
      (some source) (hdeclared (by decide)) nofun rfl fun _ => by cases name <;> rfl
  | externalReference reference =>
    exact Builder.exists_puts ⟨"external_reference", .optional .text⟩ (some reference)
      (hdeclared (by decide)) nofun rfl fun _ => by cases name <;> rfl

theorem Site.builder_lawful : Site.builder.Lawful := by
  intro call
  cases call with
  | description description =>
    exact Builder.exists_puts ⟨"site_description", .optional (.element .description)⟩
      (some description) (by decide) nofun rfl fun _ => rfl
  | characterization parameters =>
    exact Builder.exists_puts
      ⟨"site_characterization_parameters", .optional (.element .characterization)⟩
      (some parameters) (by decide) nofun rfl fun _ => rfl
  | overallQuality value =>
    exact Builder.exists_puts ⟨"overall_quality_index", .optional .number⟩ (some value)
      (by decide) nofun rfl fun _ => rfl

/-! ## What the calls add up to -/

/-- The source of a title with the argument of the last call for each field. -/
def Literature.settled (title : String) (calls : List Literature.Call) : Literature where
  title := title
  firstAuthor := lastOf (fun | .firstAuthor name => some name | _ => none) calls
  secondaryAuthors := lastOf (fun | .secondaryAuthors names => some names | _ => none) calls
  year := lastOf (fun | .year year => some year | _ => none) calls
  booktitle := lastOf (fun | .booktitle title => some title | _ => none) calls
  language := lastOf (fun | .language language => some language | _ => none) calls
  doi := lastOf (fun | .doi doi => some doi | _ => none) calls

/-- The indicator of a variant and a value with the argument of the last call for
each field. -/
def Indicator.settled (detail : IndicatorDetail) (value : IndicatorValue)
    (calls : List Indicator.Call) : Indicator where
  detail := detail
  value := value
  uncertainty := lastOf (fun | .uncertainty value => some value | _ => none) calls
  methods := (lastOf (fun | .methods names => some names | _ => none) calls).getD []
  qualityIndex := lastOf (fun | .qualityIndex value => some value | _ => none) calls
  literature := lastOf (fun | .literature source => some source | _ => none) calls
  externalReference :=
    lastOf (fun | .externalReference reference => some reference | _ => none) calls

/-- The site of a code with the argument of the last call for each field. -/
def Site.settled (code : String) (calls : List Site.Call) : Site where
  stationCode := code
  description := lastOf (fun | .description description => some description | _ => none) calls
  characterization :=
    lastOf (fun | .characterization parameters => some parameters | _ => none) calls
  overallQuality := lastOf (fun | .overallQuality value => some value | _ => none) calls

theorem Literature.run_eq_settled (title : String) (calls : List Literature.Call) :
    Literature.builder.run (Literature.ofTitle title) calls = Literature.settled title calls := by
  refine Literature.builder.run_eq (settled title) rfl (fun calls call => ?_) calls
  simp only [settled, lastOf_concat]
  cases call <;> rfl

theorem Indicator.run_eq_settled (detail : IndicatorDetail) (value : IndicatorValue)
    (calls : List Indicator.Call) :
    (Indicator.builder detail.name).run (Indicator.ofDetail detail value) calls =
      Indicator.settled detail value calls := by
  refine (Indicator.builder detail.name).run_eq (settled detail value) rfl (fun calls call => ?_)
    calls
  simp only [settled, lastOf_concat]
  cases call <;> rfl

theorem Site.run_eq_settled (code : String) (calls : List Site.Call) :
    Site.builder.run (Site.ofCode code) calls = Site.settled code calls := by
  refine Site.builder.run_eq (settled code) rfl (fun calls call => ?_) calls
  simp only [settled, lastOf_concat]
  cases call <;> rfl

/-! ## Entities as they are made -/

/-- The parts that only some variants have, under their names. -/
def IndicatorDetail.given : IndicatorDetail → List (String × Option FieldValue)
  | geologicalUnit mapScale ogeUnit =>
    [("geological_map_scale", mapScale.map .text), ("geological_unit_OGE", ogeUnit.map .text)]
  | velocityS30 combinedQuality manualQuality =>
    [("method_combined_quality_index", combinedQuality.map .float),
      ("manual_quality_index", manualQuality.map .float)]
  | _ => []

theorem Literature.ofRecord_title (title : String) :
    (EntityKind.element .literature).ofRecord (.ofPresent [("title", some (.text title))]) =
      .ok (Literature.ofTitle title) := by
  refine @EntityKind.ofRecord_ofPresent (.element .literature) _ (toRow (ofTitle title)) (by simp) ?_
  exact ⟨FieldType.takes_text.mpr rfl, rfl, rfl, rfl, rfl, rfl, rfl, trivial⟩

theorem Site.ofRecord_code (code : String) :
    EntityKind.site.ofRecord (.ofPresent [("station_code", some (.text code))]) =
      .ok (Site.ofCode code) := by
  refine @EntityKind.ofRecord_ofPresent .site _ (toRow (ofCode code)) (by simp) ?_
  exact ⟨FieldType.takes_text.mpr rfl, rfl, rfl, rfl, trivial⟩

theorem Indicator.ofRecord_detail (detail : IndicatorDetail) (value : IndicatorValue) :
    (EntityKind.element (.indicator detail.name)).ofRecord
        (.ofPresent (("value", some (FieldType.reading.wrap value)) :: detail.given)) =
      .ok (Indicator.ofDetail detail value) := by
  have hmake : (EntityKind.element (.indicator detail.name)).ofRow
      (toRow (ofDetail detail value)) = ofDetail detail value := by cases detail <;> rfl
  have hvalue := @FieldType.takes_wrap .reading nofun value
  refine (@EntityKind.ofRecord_ofPresent (.element (.indicator detail.name)) _
    (toRow (ofDetail detail value)) ?_ ?_).trans (congrArg Except.ok hmake)
  · cases detail <;> simp [IndicatorDetail.given]
  · cases detail with
    | geologicalUnit mapScale ogeUnit =>
      exact ⟨@Content.takes_wrap (.optional .text) nofun mapScale,
        @Content.takes_wrap (.optional .text) nofun ogeUnit,
        hvalue, rfl, rfl, rfl, rfl, rfl, trivial⟩
    | velocityS30 combinedQuality manualQuality =>
      exact ⟨@Content.takes_wrap (.optional .number) nofun combinedQuality,
        @Content.takes_wrap (.optional .number) nofun manualQuality,
        hvalue, rfl, rfl, rfl, rfl, rfl, trivial⟩
    | _ => exact ⟨hvalue, rfl, rfl, rfl, rfl, rfl, trivial⟩

/-! ## Runs and records -/

/-- **Runs of calls and records of their arguments agree** for every source, every
indicator and every site: they make the same entity, each field of it is the argument
of the last call for it or as it was, and runs with the same last calls make the same.
An indicator may be made of its variant or by the constructor of that name. -/
theorem builders_agree_with_records :
    (∀ title, Literature.builder.Agrees [("title", some (.text title))]
        (Literature.ofTitle title) (Literature.settled title)) ∧
      (∀ detail value, (Indicator.builder detail.name).Agrees
        (("value", some (FieldType.reading.wrap value)) :: detail.given)
        (Indicator.ofDetail detail value) (Indicator.settled detail value)) ∧
      (∀ detail value, Indicator.ofVariant detail value = Indicator.ofDetail detail value) ∧
      ∀ code, Site.builder.Agrees [("station_code", some (.text code))] (Site.ofCode code)
        (Site.settled code) :=
  ⟨fun title => Literature.builder_lawful.agrees (Literature.ofRecord_title title)
      (Literature.run_eq_settled title),
    fun detail value => (Indicator.builder_lawful detail.name).agrees
      (Indicator.ofRecord_detail detail value) (Indicator.run_eq_settled detail value),
    Indicator.ofVariant_eq_ofDetail,
    fun code => Site.builder_lawful.agrees (Site.ofRecord_code code) (Site.run_eq_settled code)⟩

/-- Where a field is set twice, the later call stays. -/
example :
    (EntityKind.element .literature).ofRecord
        (Literature.builder.record (.ofPresent [("title", some (.text "Vs30 map"))])
          [.year 1998, .doi "10.1785", .year 2004]) =
      .ok { title := "Vs30 map", year := some 2004, doi := some "10.1785" } := by
  decide

end SeismicSite
