import SeismicSite.Proofs.Document.Rejection
/-!
# Where a value stands

The place of a value has no say in how it is read. To see this, the reader is set
beside one that is told the path of the value at hand and writes it longer at every
step on the way in (`readValueAt`, `readSiteAt`). The two agree (`readSiteAt_eq`):
the path is carried along and never looked at, so a site that is read under another
path is the same site, or is rejected for the same fault with the same ending of its
path. A site of an array is then read as if it stood alone, whatever stands beside
it.
-/

namespace SeismicSite

/-! ## Faults as they are reported -/

/-- A fault and the path to it as it is written. -/
structure Notice where
  path : String
  fault : Fault

/-- What is reported of a finding in the value at a path. -/
def Notice.at (path : String) (finding : Finding) : Notice :=
  ⟨path ++ String.join (finding.steps.map Step.write), finding.fault⟩

/-- What is reported of a document error. -/
def DocumentError.notice (error : DocumentError) : Notice :=
  ⟨error.path.write, error.fault⟩

/-- A reading with its error as it is reported. -/
def reported {α : Type} (reading : Except DocumentError α) : Except Notice α :=
  reading.mapError DocumentError.notice

namespace Notice

/-- A fault of the value at hand is reported under its path. -/
theorem at_here (path : String) (fault : Fault) : Notice.at path (.here fault) = ⟨path, fault⟩ := by
  simp [Notice.at, Finding.here]

/-- **A step is written behind the path that it is taken from.** -/
theorem at_under (path : String) (step : Step) (finding : Finding) :
    Notice.at path (finding.under step) = Notice.at (path ++ step.write) finding := by
  simp only [Notice.at, Finding.under, List.map_cons, String.join_cons, String.append_assoc]

end Notice

/-! ## The reader that carries the path -/

namespace Document

mutual

/-- Reads a value inside a site that stands at the path. -/
def readValueAt (path : String) : Json → Except Notice FieldValue
  | .null => .error ⟨path, .unsupportedValue .null⟩
  | .bool _ => .error ⟨path, .unsupportedValue .boolean⟩
  | .number value => (readNumber value).mapError (.mk path)
  | .string value => .ok (.text value)
  | .array items => .list <$> readItemsAt path 0 items
  | .object members => do
    let kind ← (objectKind members).mapError (.mk path)
    let fields ← readMembersAt path members
    (buildNested kind (.ofList fields)).mapError (.mk path)

/-- Reads the items of the array at the path, the first of which has the given
index. -/
def readItemsAt (path : String) (index : Nat) : List Json → Except Notice (List FieldValue)
  | [] => .ok []
  | item :: items => do
    let value ← readValueAt (path ++ "[" ++ toString index ++ "]") item
    let values ← readItemsAt path (index + 1) items
    return value :: values

/-- Reads the members of the object at the path as fields; the type is none. -/
def readMembersAt (path : String) :
    List (String × Json) → Except Notice (List (String × FieldValue))
  | [] => .ok []
  | (name, content) :: members =>
    if name = typeMember then readMembersAt path members
    else do
      let value ← readValueAt (path ++ "." ++ name) content
      let fields ← readMembersAt path members
      return (name, value) :: fields

end

/-- Reads a site object that stands at the path. -/
def readSiteAt (path : String) : Json → Except Notice Site
  | .object members => do
    (checkSite members).mapError (.mk path)
    let fields ← readMembersAt path members
    (build .site (.ofList fields)).mapError (.mk path)
  | _ => .error ⟨path, .notASite⟩

/-- Reads the items of the array at the path one by one, the first of which has the
given index. -/
def readEachAt {α : Type} (readItem : String → Json → Except Notice α) (path : String)
    (index : Nat) : List Json → Except Notice (List α)
  | [] => .ok []
  | item :: items => do
    let value ← readItem (path ++ "[" ++ toString index ++ "]") item
    let values ← readEachAt readItem path (index + 1) items
    return value :: values

/-- Reads a document, whose path is the root. -/
def readAt : Json → Except Notice (List Site)
  | .array items => readEachAt readSiteAt "$" 0 items
  | .object members => List.singleton <$> readSiteAt "$" (.object members)
  | _ => .error ⟨"$", .notASite⟩

/-! ## The two readers agree -/

/-- What is found in a part is reported under the path of the part. -/
theorem mapError_at_under {α : Type} {check : Except Finding α} {path : String} {step : Step} :
    (check.mapError (Finding.under step)).mapError (Notice.at path) =
      check.mapError (Notice.at (path ++ step.write)) := by
  cases check with
  | ok value => rfl
  | error finding => exact congrArg _ (Notice.at_under path step finding)

/-- What is wrong with the value at hand is reported under its path. -/
theorem mapError_at_here {α : Type} {check : Except Fault α} {path : String} :
    (check.mapError Finding.here).mapError (Notice.at path) = check.mapError (Notice.mk path) := by
  cases check with
  | ok value => rfl
  | error fault => exact congrArg _ (Notice.at_here path fault)

theorem readEachAt_eq {α : Type} {readItemAt : String → Json → Except Notice α}
    {readItem : Json → Except Finding α} {items : List Json}
    (hitems : ∀ item ∈ items, ∀ path, readItemAt path item = (readItem item).mapError (.at path))
    (path : String) (index : Nat) :
    readEachAt readItemAt path index items = (readEach readItem index items).mapError (.at path) := by
  induction items generalizing index with
  | nil => rfl
  | cons item items ih =>
    obtain ⟨hhere, hthere⟩ := List.forall_mem_cons.mp hitems
    simp only [readEachAt, readEach, mapError_bind, mapError_at_under, mapError_pure, hhere,
      ih hthere, Step.write, String.append_assoc]

theorem readItemsAt_eq_readEachAt (path : String) (index : Nat) (items : List Json) :
    readItemsAt path index items = readEachAt readValueAt path index items := by
  induction items generalizing index with
  | nil => rfl
  | cons item items ih =>
    rw [readItemsAt, readEachAt]
    simp only [ih]

theorem readMembersAt_eq {members : List (String × Json)}
    (hmembers : ∀ name content, (name, content) ∈ members → ∀ path,
      readValueAt path content = (readValue content).mapError (.at path))
    (path : String) :
    readMembersAt path members = (readMembers members).mapError (.at path) := by
  induction members with
  | nil => rfl
  | cons member members ih =>
    obtain ⟨name, content⟩ := member
    have hhere := hmembers name content List.mem_cons_self
    have hthere := ih fun name content hmem => hmembers name content (List.mem_cons_of_mem _ hmem)
    by_cases htype : name = typeMember
    · rw [readMembersAt, readMembers, if_pos htype, if_pos htype, hthere]
    · rw [readMembersAt, readMembers, if_neg htype, if_neg htype]
      simp only [mapError_bind, mapError_at_under, mapError_pure, hhere, hthere, Step.write,
        String.append_assoc]

/-- **A value is read at a path as it is read anywhere**, and its faults are reported
under that path. -/
theorem readValueAt_eq (path : String) (value : Json) :
    readValueAt path value = (readValue value).mapError (.at path) := by
  induction value generalizing path with
  | null => exact congrArg _ (Notice.at_here path _).symm
  | bool b => exact congrArg _ (Notice.at_here path _).symm
  | number n => rw [readValueAt, readValue, mapError_at_here]
  | string s => rfl
  | array items ih =>
    rw [readValueAt, readValue, mapError_map, readItemsAt_eq_readEachAt, readItems_eq_readEach,
      readEachAt_eq fun item hitem path => ih item hitem path]
  | object members ih =>
    have hmembers := readMembersAt_eq (fun name content hmem path => ih name content hmem path) path
    simp only [readValueAt, readValue, mapError_bind, mapError_at_here, hmembers]

/-- What is found from a root is reported under its name. -/
theorem reported_mapError_at {α : Type} (root : String) (reading : Except Finding α) :
    reported (reading.mapError (DocumentError.at root)) = reading.mapError (Notice.at root) := by
  cases reading <;> rfl

/-- **A site is read at a path as it is read anywhere.** -/
theorem readSiteAt_eq (path : String) (value : Json) :
    readSiteAt path value = reported (Site.ofJson path value) := by
  rw [Site.ofJson, reported_mapError_at]
  cases value with
  | object members =>
    have hmembers : readMembersAt path members = (readMembers members).mapError (.at path) :=
      readMembersAt_eq (fun _ content _ path => readValueAt_eq path content) path
    simp only [readSiteAt, readSite, mapError_bind, mapError_at_here, hmembers]
  | _ => exact congrArg _ (Notice.at_here path _).symm

/-- **A document is read with its paths carried along as it is read without.** -/
theorem readAt_eq (document : Json) : readAt document = reported (sites document) := by
  rw [sites, reported_mapError_at]
  cases document with
  | array items =>
    refine readEachAt_eq (fun item _ path => ?_) "$" 0
    rw [readSiteAt_eq, Site.ofJson, reported_mapError_at]
  | object members =>
    rw [readAt, Document.read, mapError_map, readSiteAt_eq, Site.ofJson, reported_mapError_at]
    rfl
  | _ => exact congrArg _ (Notice.at_here "$" _).symm

/-! ## Readings at two places -/

/-- Two readings come to the same, except that the path of an error starts with `p` in
the one and with `q` in the other. -/
inductive SameBut {α : Type} (p q : String) : Except Notice α → Except Notice α → Prop
  | read (value : α) : SameBut p q (.ok value) (.ok value)
  | rejected (suffix : String) (fault : Fault) :
      SameBut p q (.error ⟨p ++ suffix, fault⟩) (.error ⟨q ++ suffix, fault⟩)

/-- What is found does not depend on the path that it is reported under. -/
theorem sameBut_at {α : Type} (p q : String) (reading : Except Finding α) :
    SameBut p q (reading.mapError (.at p)) (reading.mapError (.at q)) := by
  cases reading with
  | ok value => exact .read value
  | error finding => exact .rejected _ finding.fault

/-- A site is accepted under one path if under any. -/
theorem ofJson_eq_ok {path : String} {value : Json} {site : Site} :
    Site.ofJson path value = .ok site ↔ readSite value = .ok site :=
  mapError_eq_ok

/-- What is reported under a path is found behind it. -/
theorem mapError_at_eq_error {α : Type} {reading : Except Finding α} {path suffix : String}
    {fault : Fault} :
    reading.mapError (Notice.at path) = .error ⟨path ++ suffix, fault⟩ ↔
      ∃ finding, reading = .error finding ∧
        suffix = String.join (finding.steps.map Step.write) ∧ fault = finding.fault := by
  simp only [mapError_eq_error, Notice.at, Notice.mk.injEq, String.append_right_inj]

/-- An array is accepted with the sites of its items, each as it is alone. -/
theorem sites_array_eq_ok {items : List Json} {found : List Site} :
    sites (.array items) = .ok found ↔
      List.Forall₂ (fun item site => Site.ofJson "$" item = .ok site) items found := by
  simp only [sites_eq_ok, siteValues, ofJson_eq_ok]

/-- So it is accepted if all of its items are. -/
theorem exists_sites_array_iff {items : List Json} :
    (∃ found, sites (.array items) = .ok found) ↔
      ∀ item ∈ items, ∃ site, Site.ofJson "$" item = .ok site := by
  simp only [sites_array_eq_ok, exists_forall₂_iff]

/-- **An array is rejected for the first of its items that is rejected alone**, which is
reported as it is alone but with its index behind the root. -/
theorem sites_array_eq_error {items : List Json} {notice : Notice} :
    reported (sites (.array items)) = .error notice ↔
      ∃ before item after, items = before ++ item :: after ∧
        (∀ earlier ∈ before, ∃ site, Site.ofJson "$" earlier = .ok site) ∧
        ∃ suffix fault, reported (Site.ofJson "$" item) = .error ⟨"$" ++ suffix, fault⟩ ∧
          notice = ⟨"$[" ++ toString before.length ++ "]" ++ suffix, fault⟩ := by
  have hindex (index : Nat) : "$" ++ (Step.item index).write = "$[" ++ toString index ++ "]" := rfl
  simp only [sites, Document.read, readSites, Site.ofJson, mapError_eq_ok,
    reported_mapError_at, mapError_at_eq_error]
  constructor
  · intro h
    obtain ⟨finding, hfinding, rfl⟩ := mapError_eq_error.mp h
    obtain ⟨before, item, after, rfl, hbefore, inner, hinner, rfl⟩ := readEach_eq_error.mp hfinding
    refine ⟨before, item, after, rfl, hbefore, _, _, ⟨inner, hinner, rfl, rfl⟩, ?_⟩
    rw [Nat.zero_add, Notice.at_under, documentRoot, hindex]
    rfl
  · rintro ⟨before, item, after, rfl, hbefore, _, _, ⟨inner, hinner, rfl, rfl⟩, rfl⟩
    have heach := (@readEach_eq_error _ readSite 0 _ _).mpr
      ⟨before, item, after, rfl, hbefore, inner, hinner, rfl⟩
    refine mapError_eq_error.mpr ⟨_, heach, ?_⟩
    rw [Nat.zero_add, Notice.at_under, documentRoot, hindex]
    rfl

/-- **Sites are read one by one, and only their paths tell where they stand.** The path
is carried along and reported but never looked at, so a site read under another path is
the same, or is rejected for the same fault at the same place behind that path. An array
is accepted exactly if each of its items is accepted alone, and its sites are theirs in
order; else it is rejected for the first item that is rejected alone, whatever comes
behind it. An object is read as the whole document as it is as the only item of an
array. -/
theorem sites_read_one_by_one :
    (∀ path value, readSiteAt path value = reported (Site.ofJson path value)) ∧
      (∀ document, readAt document = reported (sites document)) ∧
      (∀ p q value, SameBut p q (reported (Site.ofJson p value)) (reported (Site.ofJson q value))) ∧
      (∀ items, (∃ found, sites (.array items) = .ok found) ↔
        ∀ item ∈ items, ∃ site, Site.ofJson "$" item = .ok site) ∧
      (∀ items found, sites (.array items) = .ok found ↔
        List.Forall₂ (fun item site => Site.ofJson "$" item = .ok site) items found) ∧
      (∀ items notice, reported (sites (.array items)) = .error notice ↔
        ∃ before item after, items = before ++ item :: after ∧
          (∀ earlier ∈ before, ∃ site, Site.ofJson "$" earlier = .ok site) ∧
          ∃ suffix fault, reported (Site.ofJson "$" item) = .error ⟨"$" ++ suffix, fault⟩ ∧
            notice = ⟨"$[" ++ toString before.length ++ "]" ++ suffix, fault⟩) ∧
      ∀ members, SameBut "$" "$[0]" (reported (sites (.object members)))
        (reported (sites (.array [.object members]))) := by
  refine ⟨readSiteAt_eq, readAt_eq, fun p q value => ?_, fun items => exists_sites_array_iff,
    fun items found => sites_array_eq_ok, fun items notice => sites_array_eq_error,
    fun members => ?_⟩
  · rw [Site.ofJson, Site.ofJson, reported_mapError_at, reported_mapError_at]
    exact sameBut_at p q (readSite value)
  · -- the only item of an array stands one step behind the root
    have honly : reported (sites (.array [.object members])) =
        List.singleton <$> readSiteAt "$[0]" (.object members) := by
      have hplace : "$" ++ "[" ++ toString 0 ++ "]" = "$[0]" := rfl
      rw [← readAt_eq, readAt, readEachAt, hplace]
      cases readSiteAt "$[0]" (.object members) <;> rfl
    rw [honly, ← readAt_eq, readAt, readSiteAt_eq, readSiteAt_eq, Site.ofJson, Site.ofJson,
      reported_mapError_at, reported_mapError_at, ← mapError_map, ← mapError_map]
    exact sameBut_at "$" "$[0]" _

/-- The second of three sites has no code, and the third, which is none, is not reached. -/
example :
    reported (sites (.array [.object [("station_code", .string "SFRU")], .object [], .null])) =
      .error ⟨"$[1]", .invalid (.typeMismatch "station_code" [.text] none)⟩ := by
  cbv

end Document

end SeismicSite
