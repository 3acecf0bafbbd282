import SeismicSite.Proofs.Document.Justified
import SeismicSite.Proofs.Schema.TypeError
/-!
# Type errors of documents

An error of a document that a field complains of is a complaint of the object at its
path, which is a site or tells its kind. So the type errors of a document make sense
as those of a record do.
-/

namespace SeismicSite

namespace Document

/-- **An error of a document is that of a site at its place.** -/
theorem exists_site_of_sites_eq_error {document : Json} {error : DocumentError}
    (h : sites document = .error error) :
    ∃ place value finding, SitePlace document place ∧ document.at? place = some value ∧
      value ∈ siteValues document ∧ readSite value = .error finding ∧
      error = ⟨⟨documentRoot, place ++ finding.steps⟩, finding.fault⟩ := by
  obtain ⟨finding, hfinding, rfl⟩ := mapError_eq_error.mp h
  cases document with
  | array items =>
    rw [Document.read, readSites] at hfinding
    obtain ⟨before, item, after, rfl, -, inner, hitem, rfl⟩ := readEach_eq_error.mp hfinding
    have hmem : item ∈ before ++ item :: after := List.mem_append_right _ List.mem_cons_self
    have hat := Json.at?_array_cons.mpr ⟨before, item, after, rfl, rfl, Json.at?_nil item⟩
    refine ⟨[.item before.length], item, inner, .item _, hat, hmem, hitem, ?_⟩
    rw [Nat.zero_add]
    rfl
  | object members =>
    have hsite := map_eq_error.mp hfinding
    exact ⟨[], _, finding, .document (by simp), rfl, List.mem_cons_self, hsite, rfl⟩
  | _ =>
    obtain rfl := Except.error.inj hfinding
    exact ⟨[], _, _, .document (by simp), rfl, List.mem_cons_self, rfl, rfl⟩

/-- An object at its place in a document, and the kind that the reader builds it as. -/
inductive ObjectAt (document : Json) (steps : List Step) :
    EntityKind → List (String × Json) → Prop
  | site {members : List (String × Json)} :
      SitePlace document steps → document.at? steps = some (.object members) →
      ObjectAt document steps .site members
  | part {kind : ElementKind} {members : List (String × Json)} :
      document.at? steps = some (.object members) →
      Json.member? members typeMember = some (.string kind.typeName) →
      ObjectAt document steps (.element kind) members

/-- **A complaint in a document is one of the object at its path.** -/
theorem Justified.exists_complains {document : Json} {error : DocumentError} {cause : FieldError}
    (h : Justified document error) (hfault : error.fault = .invalid cause) :
    ∃ kind members, ObjectAt document error.path.steps kind members ∧
      Complains kind.fields (reading members) cause := by
  cases h with
  | site hplace hat hfaulty =>
    obtain rfl := hfault
    cases hfaulty with
    | entity _ _ hentity =>
      cases hentity with
      | invalid hcomplains => exact ⟨_, _, .site hplace hat, hcomplains⟩
  | part _ _ hat hfaulty =>
    obtain rfl := hfault
    cases hfaulty with
    | entity htype _ hentity =>
      cases hentity with
      | invalid hcomplains => exact ⟨_, _, .part hat htype, hcomplains⟩

/-- **A type error of a document makes sense** for the object at its path. -/
theorem exists_sensible_of_sites {document : Json} {error : DocumentError} {field : String}
    {expected : List ValueKind} {actual : Option ValueKind} (hsorted : document.Sorted)
    (h : sites document = .error error)
    (hfault : error.fault = .invalid (.typeMismatch field expected actual)) :
    ∃ kind members, ObjectAt document error.path.steps kind members ∧
      Sensible kind (reading members) field expected actual := by
  obtain ⟨place, value, finding, hplace, hat, hmem, hread, rfl⟩ := exists_site_of_sites_eq_error h
  have hjustified := justified_of_readSite hplace hat (sorted_of_mem_siteValues hsorted hmem) hread
  obtain ⟨kind, members, hobject, hcomplains⟩ := hjustified.exists_complains hfault
  exact ⟨kind, members, hobject, EntityKind.sensible_of_complains hcomplains⟩

end Document

/-- **A type error blames no kind that it lists as accepted, but for a year.** In the
reading of a record, of any kind, what is blamed is missing, of another kind or a year
out of range; what is blamed by the check of the slots is of another kind; and in a
document the same holds of the object at the path. A source with such a year is
rejected for it. Everywhere else a value of an accepted kind is unwrapped, and the row
that was read makes an entity. -/
theorem type_error_blames_no_accepted_kind :
    (∀ (kind : EntityKind) (record : Record) (field : String) (expected : List ValueKind)
        (actual : Option ValueKind),
      kind.ofRecord record = .error (.typeMismatch field expected actual) →
        Sensible kind record.get? field expected actual) ∧
      (∀ (description : Description) (field : String) (expected : List ValueKind)
          (actual : Option ValueKind),
        description.checked = .error (.typeMismatch field expected actual) →
          ∃ kind, actual = some kind ∧ kind ∉ expected) ∧
      (∀ (parameters : Characterization) (field : String) (expected : List ValueKind)
          (actual : Option ValueKind),
        parameters.checked = .error (.typeMismatch field expected actual) →
          ∃ kind, actual = some kind ∧ kind ∉ expected) ∧
      (∀ (record : Record) (title : String) (n : Int64),
        record.get? "title" = some (.text title) →
        (∀ name ∈ ["firstAuthor", "secondaryAuthors"],
          (Content.optional .text).Conforms (record.get? name)) →
        record.get? "year" = some (.integer n) → OutOfRange n →
          (EntityKind.element .literature).ofRecord record =
            .error (.typeMismatch "year" [.integer] (some .integer))) ∧
      (∀ (kind : EntityKind) (field : Field) (value : FieldValue), field ∈ kind.fields →
        value.kind ∈ field.content.type.expected →
          ((∃ rejected, field.content.type.unwrap value = .error rejected) ↔
            kind = .element .literature ∧ field.name = "year" ∧
              ∃ n, value = .integer n ∧ OutOfRange n)) ∧
      (∀ (kind : EntityKind) (record : Record) (row : Row kind.fields),
        (Row.take kind.fields record).result = .ok row → kind.make row = .ok (kind.ofRow row)) ∧
      (∀ (document : Json) (error : DocumentError) (field : String) (expected : List ValueKind)
          (actual : Option ValueKind),
        document.Sorted → Document.sites document = .error error →
        error.fault = .invalid (.typeMismatch field expected actual) →
          ∃ kind members, Document.ObjectAt document error.path.steps kind members ∧
            Sensible kind (Document.reading members) field expected actual) := by
  refine ⟨?_, ?_, ?_, ?_, ?_, ?_, ?_⟩
  · intro kind record field expected actual herror
    exact EntityKind.sensible_of_complains (EntityKind.take_eq_error.mp herror)
  · exact fun description field expected actual => Description.typeMismatch_of_checked
  · exact fun parameters field expected actual => Characterization.typeMismatch_of_checked
  · exact fun record title n => EntityKind.take_literature_eq_error
  · intro kind field value hfield hkind
    rw [FieldType.exists_rejects_iff hkind]
    constructor
    · rintro ⟨htype, hrange⟩
      obtain ⟨hliterature, rfl⟩ := EntityKind.eq_year_of_type hfield htype
      exact ⟨hliterature, rfl, hrange⟩
    · rintro ⟨rfl, hname, hrange⟩
      have hyear : field = ⟨"year", .optional .year⟩ :=
        EntityKind.field_eq_of_name_eq hfield (by decide) hname
      exact ⟨by rw [hyear, Content.type], hrange⟩
  · intro kind record row hrow
    exact EntityKind.make_eq_ok ((Row.take_result_eq_ok kind.nodup_fieldNames).mp hrow)
  · exact fun document error field expected actual => Document.exists_sensible_of_sites

/-- A ground type from a publication of a year that does not fit 32 bits. -/
def farFuture : Json :=
  .object
    [("site_description", .object
      [("EC8", .object
        [("literature_source", .object
          [("title", .string "Vs30 map"),
            ("type", .string "LiteratureSource"),
            ("year", .ofInt64 3000000000)]),
          ("type", .string "EC8_class"),
          ("value", .string "A")]),
        ("latitude", .ofInt64 46),
        ("longitude", .ofInt64 8),
        ("type", .string "SiteDescription")]),
      ("station_code", .string "SENGL")]

/-- An H800 depth in the slot of the ground type. -/
def misplaced : Description where
  latitude := 46
  longitude := 8
  ec8 := some (.h800 (.text "deep"))

theorem type_error_blames_no_accepted_kind_far_future :
    (∃ error kind members, farFuture.Sorted ∧ Document.sites farFuture = .error error ∧
        error.fault = .invalid (.typeMismatch "year" [.integer] (some .integer)) ∧
        Document.ObjectAt farFuture error.path.steps kind members ∧
        Sensible kind (Document.reading members) "year" [.integer] (some .integer)) ∧
      (EntityKind.element .literature).ofRecord
          (.ofList [("title", .text "Vs30 map"), ("year", .integer 3000000000)]) =
        .error (.typeMismatch "year" [.integer] (some .integer)) ∧
      (∃ field expected actual, misplaced.checked = .error (.typeMismatch field expected actual) ∧
        ∃ kind, actual = some kind ∧ kind ∉ expected) := by
  obtain ⟨-, hdescription, -, hyear, -, -, hdocument⟩ := type_error_blames_no_accepted_kind
  refine ⟨?_, ?_, ?_⟩
  · have hsorted : farFuture.Sorted := by decide
    have hsites : Document.sites farFuture = .error
        ⟨⟨"$", [.member "site_description", .member "EC8", .member "literature_source"]⟩,
          .invalid (.typeMismatch "year" [.integer] (some .integer))⟩ := rfl
    obtain ⟨kind, members, hobject, hsensible⟩ := hdocument _ _ _ _ _ hsorted hsites rfl
    exact ⟨_, kind, members, hsorted, hsites, rfl, hobject, hsensible⟩
  · have hrange : OutOfRange 3000000000 := .inr (by decide)
    exact hyear _ "Vs30 map" 3000000000 rfl (by decide) rfl hrange
  · have hchecked : misplaced.checked = .error (.typeMismatch "EC8"
        [.entity (.element (.indicator .ec8))] (some (.entity (.element (.indicator .h800))))) := rfl
    exact ⟨_, _, _, hchecked, hdescription _ _ _ _ hchecked⟩

end SeismicSite
