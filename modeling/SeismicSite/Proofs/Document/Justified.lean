import SeismicSite.Proofs.Document.Rejection
import SeismicSite.Proofs.Json.Place
/-!
# Errors that are true

What a document error says is true of the value that its path leads to. The rules
below name, for every fault, the values that can have it: `FaultySite` for the
values that are to be sites, `FaultyPart` for those inside a site. The reader
never reports a fault of a value that does not have it, nor at another place
(`sites_error_justified`).
-/

namespace SeismicSite

namespace Document

/-! ## The rules -/

/-- What a value inside a site can be at fault for. -/
inductive FaultyPart : Json → Fault → Prop
  | null : FaultyPart .null (.unsupportedValue .null)
  | boolean (b : Bool) : FaultyPart (.bool b) (.unsupportedValue .boolean)
  | missingType {members : List (String × Json)} :
      Json.member? members typeMember = none → FaultyPart (.object members) .missingType
  /-- The type is no text, or a text that is the type name of no kind. -/
  | unknownType {members : List (String × Json)} {named : Json} :
      Json.member? members typeMember = some named →
      (∀ kind : EntityKind, named ≠ .string kind.typeName) →
      FaultyPart (.object members) (.unknownType named)
  /-- A site stands where no site may stand. -/
  | notNestable {members : List (String × Json)} :
      Json.member? members typeMember = some (.string EntityKind.site.typeName) →
      Legible members → FaultyPart (.object members) (.notNestable .site)
  | entity {members : List (String × Json)} {kind : ElementKind} {fault : Fault} :
      Json.member? members typeMember = some (.string kind.typeName) →
      Legible members → FaultyEntity (.element kind) members fault →
      FaultyPart (.object members) fault

/-- What a value that is to be a site can be at fault for. -/
inductive FaultySite : Json → Fault → Prop
  | noObject {value : Json} :
      (∀ members, value ≠ .object members) → FaultySite value .notASite
  | otherKind {members : List (String × Json)} {kind : ElementKind} :
      Json.member? members typeMember = some (.string kind.typeName) →
      FaultySite (.object members) .notASite
  | unknownType {members : List (String × Json)} {named : Json} :
      Json.member? members typeMember = some named →
      (∀ kind : EntityKind, named ≠ .string kind.typeName) →
      FaultySite (.object members) (.unknownType named)
  | entity {members : List (String × Json)} {fault : Fault} :
      (∀ named ∈ Json.member? members typeMember, named = .string EntityKind.site.typeName) →
      Legible members → FaultyEntity .site members fault → FaultySite (.object members) fault

/-- The places where a document is to have sites: the items of an array, or the
document itself if it is none. -/
inductive SitePlace : Json → List Step → Prop
  | document {document : Json} :
      (∀ items, document ≠ .array items) → SitePlace document []
  | item {items : List Json} (index : Nat) : SitePlace (.array items) [.item index]

/-- The errors that are true of a document: their path leads to a value that is
to be a site, or on to one inside it, and that value has the fault. -/
inductive Justified (document : Json) : DocumentError → Prop
  | site {place : List Step} {value : Json} {fault : Fault} :
      SitePlace document place → document.at? place = some value → FaultySite value fault →
      Justified document ⟨⟨documentRoot, place⟩, fault⟩
  | part {place inside : List Step} {value : Json} {fault : Fault} :
      SitePlace document place → inside ≠ [] →
      document.at? (place ++ inside) = some value → FaultyPart value fault →
      Justified document ⟨⟨documentRoot, place ++ inside⟩, fault⟩

/-! ## The reader -/

/-- The members of an object can be read exactly if the reader reads them. -/
theorem exists_readMembers_iff_legible {members : List (String × Json)} :
    (∃ fields, readMembers members = .ok fields) ↔ Legible members :=
  exists_readMembers_iff

/-- What is true of the values of members is true of the object, one step
further away. -/
theorem exists_faulty_of_readMembers {members : List (String × Json)} {finding : Finding}
    (hnodup : (members.map Prod.fst).Nodup)
    (hcontents : ∀ name content, (name, content) ∈ members → ∀ inner,
      readValue content = .error inner →
        ∃ part, content.at? inner.steps = some part ∧ FaultyPart part inner.fault)
    (h : readMembers members = .error finding) :
    finding.steps ≠ [] ∧
      ∃ part, (Json.object members).at? finding.steps = some part ∧ FaultyPart part finding.fault := by
  obtain ⟨before, ⟨name, content⟩, after, rfl, -, -, inner, hcontent, rfl⟩ :=
    readMembers_eq_error.mp h
  obtain ⟨part, hpart, hfaulty⟩ :=
    hcontents name content (List.mem_append_right _ List.mem_cons_self) inner hcontent
  refine ⟨List.cons_ne_nil _ _, part, ?_, hfaulty⟩
  exact (Json.at?_object_cons hnodup).mpr ⟨before, name, content, after, rfl, rfl, hpart⟩

/-- **A fault inside a value is that of the part that the finding leads to**, by
induction on the value. -/
theorem exists_faultyPart {value : Json} {finding : Finding} (hsorted : value.Sorted)
    (h : readValue value = .error finding) :
    ∃ part, value.at? finding.steps = some part ∧ FaultyPart part finding.fault := by
  induction value generalizing finding with
  | null =>
    obtain rfl := Except.error.inj h
    exact ⟨.null, rfl, .null⟩
  | bool b =>
    obtain rfl := Except.error.inj h
    exact ⟨.bool b, rfl, .boolean b⟩
  | number n =>
    rw [readValue_number] at h
    cases h
  | string s => cases h
  | array items ih =>
    rw [readValue, map_eq_error, readItems_eq_readEach] at h
    obtain ⟨before, item, after, rfl, -, inner, hitem, rfl⟩ := readEach_eq_error.mp h
    have hmem : item ∈ before ++ item :: after := List.mem_append_right _ List.mem_cons_self
    obtain ⟨part, hpart, hfaulty⟩ := ih item hmem (Json.sorted_array.mp hsorted item hmem) hitem
    refine ⟨part, ?_, hfaulty⟩
    rw [Nat.zero_add]
    exact Json.at?_array_cons.mpr ⟨before, item, after, rfl, rfl, hpart⟩
  | object members ih =>
    -- an object ends the reading at its type, in a member, or as an entity
    rw [readValue, bind_eq_error] at h
    rcases h with hkind | ⟨kind, hkind, h⟩
    · obtain ⟨fault, hfault, rfl⟩ := mapError_eq_error.mp hkind
      rcases objectKind_eq_error.mp hfault with ⟨hnone, rfl⟩ | ⟨named, hnamed, hunknown, rfl⟩
      · exact ⟨_, rfl, .missingType hnone⟩
      · exact ⟨_, rfl, .unknownType hnamed hunknown⟩
    rw [bind_eq_error] at h
    rcases h with hmember | ⟨fields, hfields, hbuild⟩
    · have hcontents := (Json.sorted_object.mp hsorted).2
      refine (exists_faulty_of_readMembers hsorted.nodup ?_ hmember).2
      exact fun name content hmem inner => ih name content hmem (hcontents name content hmem)
    · have hlegible := exists_readMembers_iff_legible.mp ⟨fields, hfields⟩
      have htype := objectKind_eq_ok.mp (mapError_eq_ok.mp hkind)
      obtain ⟨fault, hfault, rfl⟩ := mapError_eq_error.mp hbuild
      cases kind with
      | site =>
        obtain rfl := Except.error.inj hfault
        exact ⟨_, rfl, .notNestable htype hlegible⟩
      | element kind =>
        rw [buildNested, bind_eq_error] at hfault
        rcases hfault with hfault | ⟨entity, -, hnothing⟩
        · exact ⟨_, rfl, .entity htype hlegible ((build_eq_error hsorted hfields).mp hfault)⟩
        · cases hnothing

/-- **A fault of a site is its own or that of a part inside it.** -/
theorem exists_faulty_of_readSite {value : Json} {finding : Finding} (hsorted : value.Sorted)
    (h : readSite value = .error finding) :
    (finding.steps = [] ∧ FaultySite value finding.fault) ∨
      (finding.steps ≠ [] ∧
        ∃ part, value.at? finding.steps = some part ∧ FaultyPart part finding.fault) := by
  cases value with
  | object members =>
    rw [readSite, bind_eq_error] at h
    rcases h with hcheck | ⟨_, hcheck, h⟩
    · obtain ⟨fault, hfault, rfl⟩ := mapError_eq_error.mp hcheck
      obtain ⟨named, hnamed, ⟨⟨kind, rfl⟩, rfl⟩ | ⟨hunknown, rfl⟩⟩ := checkSite_eq_error.mp hfault
      · exact .inl ⟨rfl, .otherKind hnamed⟩
      · exact .inl ⟨rfl, .unknownType hnamed hunknown⟩
    rw [bind_eq_error] at h
    rcases h with hmember | ⟨fields, hfields, hbuild⟩
    · have hcontents := (Json.sorted_object.mp hsorted).2
      refine .inr (exists_faulty_of_readMembers hsorted.nodup ?_ hmember)
      exact fun name content hmem inner => exists_faultyPart (hcontents name content hmem)
    · have hlegible := exists_readMembers_iff_legible.mp ⟨fields, hfields⟩
      obtain ⟨fault, hfault, rfl⟩ := mapError_eq_error.mp hbuild
      have hsite := checkSite_eq_ok.mp (mapError_eq_ok.mp hcheck)
      exact .inl ⟨rfl, .entity hsite hlegible ((build_eq_error hsorted hfields).mp hfault)⟩
  | _ =>
    obtain rfl := Except.error.inj h
    exact .inl ⟨rfl, .noObject (by simp)⟩

/-- What is true of a site at its place is true of the document. -/
theorem justified_of_readSite {document value : Json} {place : List Step} {finding : Finding}
    (hplace : SitePlace document place) (hat : document.at? place = some value)
    (hsorted : value.Sorted) (h : readSite value = .error finding) :
    Justified document ⟨⟨documentRoot, place ++ finding.steps⟩, finding.fault⟩ := by
  rcases exists_faulty_of_readSite hsorted h with ⟨hnil, hfaulty⟩ | ⟨hinside, part, hpart, hfaulty⟩
  · rw [hnil, List.append_nil]
    exact .site hplace hat hfaulty
  · refine .part hplace hinside ?_ hfaulty
    rw [Json.at?_append, hat, Option.bind_some, hpart]

/-- **Every document error is true of the value that its path leads to.** The
path is written as the steps from the root, and an unknown type as the text in
quotes or as compact JSON. -/
theorem sites_error_justified {document : Json} {error : DocumentError} (hsorted : document.Sorted)
    (h : sites document = .error error) :
    Justified document error ∧
      error.path.write = "$" ++ String.join (error.path.steps.map Step.write) ∧
      ∀ named, error.fault = .unknownType named →
        (∀ text, named = .string text → Fault.shownType named = "'" ++ text ++ "'") ∧
          ((∀ text, named ≠ .string text) → Fault.shownType named = named.compact) := by
  obtain ⟨finding, hfinding, rfl⟩ := mapError_eq_error.mp h
  refine ⟨?_, rfl, fun named _ => ⟨?_, ?_⟩⟩
  · cases document with
    | array items =>
      rw [Document.read, readSites] at hfinding
      obtain ⟨before, item, after, rfl, -, inner, hitem, rfl⟩ := readEach_eq_error.mp hfinding
      have hmem : item ∈ before ++ item :: after := List.mem_append_right _ List.mem_cons_self
      have hat := Json.at?_array_cons.mpr ⟨before, item, after, rfl, rfl, Json.at?_nil item⟩
      rw [Nat.zero_add]
      exact justified_of_readSite (.item before.length) hat
        (Json.sorted_array.mp hsorted item hmem) hitem
    | object members =>
      have hsite := map_eq_error.mp hfinding
      exact justified_of_readSite (.document (by simp)) (Json.at?_nil _) hsorted hsite
    | _ =>
      obtain rfl := Except.error.inj hfinding
      exact .site (.document (by simp)) (Json.at?_nil _) (.noObject (by simp))
  · rintro text rfl
    rfl
  · intro hnot
    cases named with
    | string text => exact absurd rfl (hnot text)
    | _ => rfl

/-- Two sites, the second with a misspelled member of a ground type. -/
def misspelled : Json :=
  .array
    [.object [("station_code", .string "SFRU")],
      .object
        [("site_description", .object
          [("EC8", .object
            [("methodz", .ofInt64 5),
              ("type", .string "EC8_class"), ("value", .string "B")]),
            ("latitude", .ofInt64 46),
            ("longitude", .ofInt64 8),
            ("type", .string "SiteDescription")]),
          ("station_code", .string "SENGL")]]

theorem sites_misspelled_justified :
    ∃ error, misspelled.Sorted ∧ sites misspelled = .error error ∧ Justified misspelled error ∧
      error.path.write = "$[1].site_description.EC8" ∧
      error.fault = .unknownMembers ["methodz"] := by
  have hsorted : misspelled.Sorted := by decide
  have hsites : sites misspelled = .error
      ⟨⟨"$", [.item 1, .member "site_description", .member "EC8"]⟩, .unknownMembers ["methodz"]⟩ := rfl
  obtain ⟨hjustified, hpath, -⟩ := sites_error_justified hsorted hsites
  exact ⟨_, hsorted, hsites, hjustified, hpath.trans (by decide), rfl⟩

end Document

end SeismicSite
