import SeismicSite.Proofs.Document.Build
import SeismicSite.Proofs.Document.Walk
/-!
# The first fault

The reader, which stops at the first fault, and the survey, which never stops,
agree: a document can be read exactly if a survey finds no fault, and else the
reader reports the first that the survey meets. The two are run side by side; at
every step the reading is what is left of the survey when all but its first
fault is forgotten.
-/

namespace SeismicSite

namespace Survey

variable {α β : Type}

/-- What a reading gives that stops at the first fault. -/
def stopped : Survey α → Except Finding α
  | clear value => .ok value
  | faulty first _ => .error first

theorem stopped_map (f : α → β) (survey : Survey α) :
    (survey.map f).stopped = f <$> survey.stopped := by
  cases survey <;> rfl

theorem stopped_under (step : Step) (survey : Survey α) :
    (survey.under step).stopped = survey.stopped.mapError (.under step) := by
  cases survey <;> rfl

theorem stopped_andThen (survey : Survey α) (next : α → Survey β) :
    (survey.andThen next).stopped = survey.stopped >>= fun value => (next value).stopped := by
  cases survey <;> rfl

/-- **Of several surveys the first faulty one decides.** -/
theorem stopped_collect_cons (survey : Survey α) (surveys : List (Survey α)) :
    (collect (survey :: surveys)).stopped = do
      let value ← survey.stopped
      let values ← (collect surveys).stopped
      return value :: values := by
  rw [collect, stopped_map]
  cases survey <;> cases collect surveys <;> rfl

end Survey

namespace Document

/-! ## Faults of an object's own -/

theorem kindNamed_eq_kindOfType? (named : Json) :
    kindNamed named = match kindOfType? named with
      | none => .error (.unknownType named)
      | some kind => .ok kind := by
  cases named with
  | string name =>
    simp only [kindNamed, kindOfType?]
    cases EntityKind.ofTypeName? name <;> rfl
  | _ => rfl

theorem stopped_surveyKind (members : List (String × Json)) :
    (surveyKind members).stopped = (objectKind members).mapError .here := by
  unfold surveyKind objectKind
  cases Json.member? members typeMember with
  | none => rfl
  | some named =>
    simp only [kindNamed_eq_kindOfType?]
    cases kindOfType? named <;> rfl

theorem stopped_surveySiteType (members : List (String × Json)) :
    (surveySiteType members).stopped = (checkSite members).mapError .here := by
  unfold surveySiteType checkSite
  cases Json.member? members typeMember with
  | none => rfl
  | some named =>
    simp only [kindNamed_eq_kindOfType?]
    rcases kindOfType? named with _ | _ | _ <;> rfl

theorem stopped_surveyEntity (kind : EntityKind) (record : Record) :
    (surveyEntity kind record).stopped = (build kind record).mapError .here := by
  simp only [surveyEntity, build]
  -- both look at what is taken and at what is left, so how it is taken does not matter
  generalize kind.take record = taken
  obtain ⟨result, left⟩ := taken
  cases result with
  | error error => rfl
  | ok entity =>
    have hempty := @Record.names_eq_nil_iff left
    by_cases hleft : left.isEmpty = true
    · simp only [hempty.mpr hleft, if_pos hleft]
      rfl
    · obtain ⟨name, names, hnames⟩ := List.exists_cons_of_ne_nil (mt hempty.mp hleft)
      simp only [hnames, if_neg hleft]
      rfl

theorem stopped_surveyNested (kind : EntityKind) (record : Record) :
    (surveyNested kind record).stopped = (buildNested kind record).mapError .here := by
  cases kind with
  | site => rfl
  | element kind =>
    rw [surveyNested, Survey.stopped_map, stopped_surveyEntity, buildNested]
    cases build (.element kind) record <;> rfl

/-! ## The walk -/

/-- Sorted members are in the order of the bytes of their names already. -/
theorem surveyFields_surveyMembers {members : List (String × Json)}
    (hsorted : (members.map Prod.fst).Pairwise (· < ·)) :
    surveyFields (surveyMembers members) = .collect ((fieldMembers members).map fun member =>
      ((surveyValue member.2).under (.member member.1)).map fun value => (member.1, value)) := by
  have hmap : surveyMembers members = members.map fun member =>
      (member.1, (surveyValue member.2).under (.member member.1)) := by
    clear hsorted
    induction members with
    | nil => rfl
    | cons member members ih => rw [surveyMembers, ih, List.map_cons]
  have hfields : (surveyMembers members).filter (fun member => member.1 ≠ typeMember) =
      (fieldMembers members).map fun member =>
        (member.1, (surveyValue member.2).under (.member member.1)) := by
    rw [hmap, List.filter_map]
    rfl
  have hordered : ((fieldMembers members).map fun member =>
      (member.1, (surveyValue member.2).under (.member member.1))).Pairwise
        fun a b => utf8 a.1 ≤ utf8 b.1 := by
    rw [List.pairwise_map]
    refine ((List.pairwise_map.mp hsorted).sublist List.filter_sublist).imp fun hlt => ?_
    exact List.le_of_lt (utf8_lt_iff.mpr hlt)
  -- sorting by bytes finds the order that the members stand in
  rw [surveyFields, hfields, hordered.insertionSort_eq, List.map_map]
  rfl

/-- **Members are read as far as their surveys are clear.** -/
theorem stopped_surveyFields {members : List (String × Json)}
    (hsorted : (members.map Prod.fst).Pairwise (· < ·))
    (hmembers : ∀ name value, (name, value) ∈ members →
      (surveyValue value).stopped = readValue value) :
    (surveyFields (surveyMembers members)).stopped = readMembers members := by
  rw [surveyFields_surveyMembers hsorted]
  clear hsorted
  induction members with
  | nil => rfl
  | cons member members ih =>
    obtain ⟨name, value⟩ := member
    have hhere := hmembers name value List.mem_cons_self
    have hthere := ih fun name value hmem => hmembers name value (List.mem_cons_of_mem _ hmem)
    by_cases htype : name = typeMember
    · simpa [fieldMembers, readMembers, htype] using hthere
    · have hcons : fieldMembers ((name, value) :: members) = (name, value) :: fieldMembers members := by
        simp [fieldMembers, htype]
      rw [hcons, List.map_cons, Survey.stopped_collect_cons, hthere, Survey.stopped_map,
        Survey.stopped_under, hhere, readMembers, if_neg htype]
      cases readValue value <;> rfl

/-- **Items are read as far as their surveys are clear.** -/
theorem stopped_surveyEach {α : Type} {surveyItem : Json → Survey α}
    {readItem : Json → Except Finding α} {items : List Json}
    (hitems : ∀ item ∈ items, (surveyItem item).stopped = readItem item) (index : Nat) :
    (Survey.collect (surveyEach surveyItem index items)).stopped =
      readEach readItem index items := by
  induction items generalizing index with
  | nil => rfl
  | cons item items ih =>
    obtain ⟨hhere, hthere⟩ := List.forall_mem_cons.mp hitems
    rw [surveyEach, Survey.stopped_collect_cons, ih hthere, Survey.stopped_under, hhere, readEach]

theorem surveyItems_eq_surveyEach (index : Nat) (items : List Json) :
    surveyItems index items = surveyEach surveyValue index items := by
  induction items generalizing index with
  | nil => rfl
  | cons item items ih => rw [surveyItems, surveyEach, ih]

/-- **The reading of a value is its survey, stopped at the first fault.** -/
theorem stopped_surveyValue {value : Json} (hsorted : value.Sorted) :
    (surveyValue value).stopped = readValue value := by
  induction value with
  | null => rfl
  | bool b => rfl
  | number n => rw [surveyValue, readValue_number, Survey.stopped]
  | string s => rfl
  | array items ih =>
    have hitems := Json.sorted_array.mp hsorted
    rw [surveyValue, readValue, Survey.stopped_map, surveyItems_eq_surveyEach,
      readItems_eq_readEach, stopped_surveyEach fun item hitem => ih item hitem (hitems item hitem)]
  | object members ih =>
    obtain ⟨hordered, hvalues⟩ := Json.sorted_object.mp hsorted
    have hfields := stopped_surveyFields hordered fun name value hmem =>
      ih name value hmem (hvalues name value hmem)
    rw [surveyValue, readValue, Survey.stopped_andThen, stopped_surveyKind]
    simp only [Survey.stopped_andThen, hfields, stopped_surveyNested]

/-- A site is read as far as its survey is clear. -/
theorem stopped_surveySite {value : Json} (hsorted : value.Sorted) :
    (surveySite value).stopped = readSite value := by
  cases value with
  | object members =>
    obtain ⟨hordered, hvalues⟩ := Json.sorted_object.mp hsorted
    have hfields := stopped_surveyFields hordered fun name value hmem =>
      stopped_surveyValue (hvalues name value hmem)
    rw [surveySite, readSite, Survey.stopped_andThen, stopped_surveySiteType]
    simp only [Survey.stopped_andThen, hfields]
    exact bind_congr fun _ => bind_congr fun fields => stopped_surveyEntity .site (.ofList fields)
  | _ => rfl

/-- **The reading of a document is its survey, stopped at the first fault.** -/
theorem stopped_survey {document : Json} (hsorted : document.Sorted) :
    (survey document).stopped = Document.read document := by
  cases document with
  | array items =>
    have hitems := Json.sorted_array.mp hsorted
    exact stopped_surveyEach (fun item hitem => stopped_surveySite (hitems item hitem)) 0
  | object members =>
    rw [survey, Survey.stopped_map, stopped_surveySite hsorted]
    rfl
  | _ => rfl

/-- **The reader reports the first fault**: it succeeds exactly if a walk through
the whole document finds none, and else its error is the first that the walk
meets. -/
theorem sites_reports_first_fault {document : Json} (hsorted : document.Sorted) :
    ((∃ found, sites document = .ok found) ↔ faults document = []) ∧
      ∀ error, sites document = .error error ↔ (faults document).head? = some error := by
  rw [sites, ← stopped_survey hsorted, faults]
  cases survey document with
  | clear found => simp [Survey.stopped, Survey.faults, Except.mapError]
  | faulty first others => simp [Survey.stopped, Survey.faults, Except.mapError]

/-- Two sites with three faults: a description that tells no type, a code that
is no text, and a text in the place of a site. -/
def threefold : Json :=
  .array
    [.object [("site_description", .object []), ("station_code", .bool true)],
      .string "SFRU"]

example :
    faults threefold =
      [⟨⟨"$", [.item 0, .member "site_description"]⟩, .missingType⟩,
        ⟨⟨"$", [.item 0, .member "station_code"]⟩, .unsupportedValue .boolean⟩,
        ⟨⟨"$", [.item 1]⟩, .notASite⟩] :=
  rfl

theorem sites_threefold :
    threefold.Sorted ∧
      sites threefold = .error ⟨⟨"$", [.item 0, .member "site_description"]⟩, .missingType⟩ := by
  have hsorted : threefold.Sorted := by decide
  exact ⟨hsorted, ((sites_reports_first_fault hsorted).2 _).mpr rfl⟩

end Document

end SeismicSite
