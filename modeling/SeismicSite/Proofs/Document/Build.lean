import SeismicSite.Proofs.Document.Members
import SeismicSite.Proofs.Schema.Frame
/-!
# When an object is built

An object is built exactly if it tells its kind, every member can be read, the
kind can take what it needs from the readings, and it declares all of them.
These lemmas say so step by step: for the type, for the record, and for the
object.
-/

namespace SeismicSite

namespace EntityKind

/-- **A type name is the name of one kind.** -/
theorem ofTypeName?_eq_some {name : String} {kind : EntityKind} :
    ofTypeName? name = some kind ↔ name = kind.typeName := by
  constructor
  · intro h
    have hfound := List.find?_some h
    exact (beq_iff_eq.mp hfound).symm
  · rintro rfl
    have hall : ∀ kind ∈ all, ofTypeName? kind.typeName = some kind := by decide
    exact hall kind kind.mem_all

end EntityKind

namespace ElementKind

/-- An entity built as an element kind is of that kind. -/
theorem kind_toElement_ofRow (kind : ElementKind) (row : Row kind.fields) :
    (kind.toElement (kind.ofRow row)).kind = kind := by
  cases kind with
  | indicator name => cases name <;> rfl
  | _ => rfl

end ElementKind

namespace Document

/-! ## Numbers -/

variable {n : Int} {lower : Int64.minValue.toInt ≤ n} {upper : n < UInt64.size}

/-- A whole number that fits is read as itself. -/
theorem numberValue_of_le (h : n ≤ Int64.maxValue.toInt) :
    numberValue (.integer n lower upper) = .integer (Int64.ofInt n) :=
  if_pos h

/-- A whole number beyond the integers is read as a float. -/
theorem numberValue_of_not_le (h : ¬ n ≤ Int64.maxValue.toInt) :
    numberValue (.integer n lower upper) = .float (Float.ofInt n) :=
  if_neg h

/-- Reading a whole number that fits does not change it. -/
theorem toInt_ofInt_of_fits (lower : Int64.minValue.toInt ≤ n) (h : n ≤ Int64.maxValue.toInt) :
    (Int64.ofInt n).toInt = n := by
  refine Int64.toInt_ofInt_of_le lower ?_
  have : Int64.maxValue.toInt = 2 ^ 63 - 1 := by decide
  omega

/-! ## The type -/

theorem kindNamed_eq_ok {named : Json} {kind : EntityKind} :
    kindNamed named = .ok kind ↔ named = .string kind.typeName := by
  cases named with
  | string name =>
    rw [Json.string.injEq, ← EntityKind.ofTypeName?_eq_some]
    simp only [kindNamed]
    split <;> simp_all
  | _ => simp [kindNamed]

/-- The type is no field of any kind. -/
theorem typeMember_not_mem_fieldNames (kind : EntityKind) :
    typeMember ∉ fieldNames kind.fields := by
  have hall : ∀ kind ∈ EntityKind.all, typeMember ∉ fieldNames kind.fields := by decide
  exact hall kind kind.mem_all

theorem name_ne_typeMember {kind : EntityKind} {field : Field} (hfield : field ∈ kind.fields) :
    field.name ≠ typeMember := by
  intro h
  exact typeMember_not_mem_fieldNames kind (h ▸ List.mem_map_of_mem hfield)

/-- An object inside a site is of the kind that its type names. -/
theorem objectKind_eq_ok {members : List (String × Json)} {kind : EntityKind} :
    objectKind members = .ok kind ↔
      Json.member? members typeMember = some (.string kind.typeName) := by
  unfold objectKind
  split <;> simp_all [kindNamed_eq_ok]

/-- A site object has no type or that of a site. -/
theorem checkSite_eq_ok {members : List (String × Json)} :
    checkSite members = .ok () ↔
      ∀ named ∈ Json.member? members typeMember, named = .string EntityKind.site.typeName := by
  unfold checkSite
  split
  · simp_all
  · rename_i named hnamed
    simp only [hnamed, bind_eq_ok, kindNamed_eq_ok, Option.mem_some_iff, forall_eq']
    constructor
    · rintro ⟨kind, rfl, hkind⟩
      cases kind with
      | site => rfl
      | element _ => simp at hkind
    · rintro rfl
      exact ⟨.site, rfl, rfl⟩

/-! ## The record -/

/-- **An entity is built exactly from a record that its kind can read and that
holds nothing else.** -/
theorem build_eq_ok {kind : EntityKind} {record : Record} {entity : kind.Carrier} :
    build kind record = .ok entity ↔
      (∃ row, Row.Takes kind.fields record.get? row ∧ entity = kind.ofRow row) ∧
        ∀ name value, record.get? name = some value → name ∈ fieldNames kind.fields := by
  rw [← EntityKind.take_eq_ok]
  simp only [build]
  cases hresult : (kind.take record).result with
  | error error => simp
  | ok built =>
    -- every declared name is taken, so what is left is not declared
    have hleft : (kind.take record).left.isEmpty = true ↔
        ∀ name value, record.get? name = some value → name ∈ fieldNames kind.fields := by
      simp only [Record.isEmpty_iff, EntityKind.get?_take_left hresult]
      refine forall_congr' fun name => ?_
      by_cases hname : name ∈ fieldNames kind.fields <;>
        simp [hname, Option.eq_none_iff_forall_ne_some]
    rw [← hleft]
    by_cases hempty : (kind.take record).left.isEmpty = true <;> simp [hempty]

/-! ## The object -/

/-- **A nested object is read** as the entity of the kind it tells, built from
the readings of its members. -/
theorem readValue_object_eq_ok {members : List (String × Json)} {value : FieldValue} :
    readValue (.object members) = .ok value ↔
      ∃ kind fields entity,
        Json.member? members typeMember = some (.string (EntityKind.element kind).typeName) ∧
        readMembers members = .ok fields ∧
        build (.element kind) (.ofList fields) = .ok entity ∧
        value = .element (kind.toElement entity) := by
  simp only [readValue, bind_eq_ok, mapError_eq_ok, objectKind_eq_ok]
  constructor
  · rintro ⟨kind, hkind, fields, hfields, hbuild⟩
    cases kind with
    | site => simp [buildNested] at hbuild
    | element kind =>
      simp only [buildNested, bind_eq_ok, pure_eq_ok] at hbuild
      obtain ⟨entity, hentity, rfl⟩ := hbuild
      exact ⟨kind, fields, entity, hkind, hfields, hentity, rfl⟩
  · rintro ⟨kind, fields, entity, hkind, hfields, hentity, rfl⟩
    refine ⟨.element kind, hkind, fields, hfields, ?_⟩
    simp only [buildNested, bind_eq_ok, pure_eq_ok]
    exact ⟨entity, hentity, rfl⟩

/-! Lists and texts are read from arrays and strings alone. -/

/-- Only an array is read as a list. -/
theorem eq_array_of_readValue {value : Json} {values : List FieldValue}
    (h : readValue value = .ok (.list values)) : ∃ items, value = .array items := by
  cases value with
  | array items => exact ⟨items, rfl⟩
  | number n =>
    rw [readValue_number, Except.ok.injEq] at h
    unfold numberValue at h
    split at h <;> (try split at h) <;> simp at h
  | object members =>
    obtain ⟨_, _, _, -, -, -, h⟩ := readValue_object_eq_ok.mp h
    cases h
  | _ => simp [readValue] at h

/-- Only a string is read as a text. -/
theorem readValue_eq_text {value : Json} {text : String} :
    readValue value = .ok (.text text) ↔ value = .string text := by
  cases value with
  | string s => simp [readValue]
  | number n =>
    simp only [readValue_number, numberValue, Except.ok.injEq, reduceCtorEq, iff_false]
    split <;> (try split) <;> simp
  | array items => simp [readValue, map_eq_ok]
  | object members =>
    simp only [reduceCtorEq, iff_false]
    intro h
    obtain ⟨_, _, _, -, -, -, h⟩ := readValue_object_eq_ok.mp h
    cases h
  | _ => simp [readValue]

/-- **A site object is read** as the site built from the readings of its
members. -/
theorem readSite_eq_ok {value : Json} {site : Site} :
    readSite value = .ok site ↔
      ∃ members fields, value = .object members ∧ checkSite members = .ok () ∧
        readMembers members = .ok fields ∧ build .site (.ofList fields) = .ok site := by
  cases value with
  | object members =>
    simp only [readSite, bind_eq_ok, mapError_eq_ok, Json.object.injEq]
    constructor
    · rintro ⟨_, hcheck, fields, hfields, hsite⟩
      exact ⟨members, fields, rfl, hcheck, hfields, hsite⟩
    · rintro ⟨_, fields, rfl, hcheck, hfields, hsite⟩
      exact ⟨(), hcheck, fields, hfields, hsite⟩
  | _ => simp [readSite]

/-! ## The document -/

/-- The values of a document that are to be sites: the items of an array, or
the value itself. -/
def siteValues : Json → List Json
  | .array items => items
  | value => [value]

theorem sorted_of_mem_siteValues {document value : Json} (hsorted : document.Sorted)
    (h : value ∈ siteValues document) : value.Sorted := by
  cases document with
  | array items => exact Json.sorted_array.mp hsorted value h
  | _ =>
    obtain rfl := List.mem_singleton.mp h
    exact hsorted

/-- **A document is read site by site**, whether it is one site or many. -/
theorem sites_eq_ok {document : Json} {found : List Site} :
    sites document = .ok found ↔
      List.Forall₂ (fun value site => readSite value = .ok site) (siteValues document) found := by
  rw [sites, mapError_eq_ok]
  cases document with
  | array items => exact readEach_eq_ok
  | object members =>
    simp only [Document.read, siteValues, map_eq_ok, List.forall₂_cons_left_iff,
      List.forall₂_nil_left_iff]
    constructor
    · rintro ⟨site, hsite, rfl⟩
      exact ⟨site, [], hsite, rfl, rfl⟩
    · rintro ⟨site, _, hsite, rfl, rfl⟩
      exact ⟨site, hsite, rfl⟩
  | _ => simp [Document.read, siteValues, readSite, List.forall₂_cons_left_iff]

end Document

end SeismicSite
