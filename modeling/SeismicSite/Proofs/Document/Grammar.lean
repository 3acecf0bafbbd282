import SeismicSite.Proofs.Document.Build
/-!
# The grammar of site documents

Which JSON values are site documents, said in the shapes of JSON alone: no
record, no field value and no error occurs in the rules. `Stands` are the
values for one value of a type, `Fits` those for a whole field, and
`FitsFields` the objects with a given list of declared fields. The reader
accepts exactly what these rules derive.

The reader decides a member by three checks that lie far apart: its value is
read on its own, taken by a field of its name, and not left over. The main
step (`exists_build_iff`) joins them for one object, given what they come to at
every member; the induction on the value then has nothing else to do at an
object.
-/

namespace SeismicSite

/-- A field that must be there. -/
def Content.Mandatory : Content → Prop
  | .required _ => True
  | _ => False

/-- A field may be missing exactly if it is not mandatory. -/
theorem Content.exists_takes_none {content : Content} :
    (∃ taken, content.Takes none taken) ↔ ¬ content.Mandatory := by
  cases content <;> simp [Takes, Mandatory]

namespace Document

/-! ## The rules -/

mutual

/-- The values that stand for one value of a type. -/
inductive Stands : FieldType → Json → Prop
  | text (s : String) : Stands .text (.string s)
  | number (n : JsonNumber) : Stands .number (.number n)
  /-- Whole numbers that fit 64 bits with a sign. -/
  | integer {n : Int} {lower : Int64.minValue.toInt ≤ n} {upper : n < UInt64.size} :
      n ≤ Int64.maxValue.toInt → Stands .integer (.number (.integer n lower upper))
  /-- Whole numbers that fit 32 bits with a sign. -/
  | year {n : Int} {lower : Int64.minValue.toInt ≤ n} {upper : n < UInt64.size} :
      Int32.minValue.toInt ≤ n → n ≤ Int32.maxValue.toInt →
      Stands .year (.number (.integer n lower upper))
  | readingNumber (n : JsonNumber) : Stands .reading (.number n)
  | readingText (s : String) : Stands .reading (.string s)
  /-- Objects that tell the kind and have its fields. -/
  | element {kind : ElementKind} {members : List (String × Json)} :
      Json.member? members typeMember = some (.string kind.typeName) →
      FitsFields kind.fields members → Stands (.element kind) (.object members)

/-- The values that a field may hold. -/
inductive Fits : Content → Json → Prop
  | required {type : FieldType} {value : Json} : Stands type value → Fits (.required type) value
  | optional {type : FieldType} {value : Json} : Stands type value → Fits (.optional type) value
  | items {type : FieldType} {items : List Json} :
      (∀ item ∈ items, Stands type item) → Fits (.repeated type) (.array items)
  | single {type : FieldType} {value : Json} : Stands type value → Fits (.repeated type) value
  | tag {scheme : Scheme} {text : String} :
      text ∈ TagSet.tags scheme.Carrier → Fits (.tag scheme) (.string text)

/-- The members that an object with the given fields may have: its type,
whatever that is, and declared fields. -/
inductive Admits : List Field → String → Json → Prop
  | type {fields : List Field} (value : Json) : Admits fields typeMember value
  | field {fields : List Field} {field : Field} {value : Json} :
      field ∈ fields → Fits field.content value → Admits fields field.name value

/-- The objects with the given fields: all members are admitted and no
mandatory one is missing. -/
inductive FitsFields : List Field → List (String × Json) → Prop
  | intro {fields : List Field} {members : List (String × Json)} :
      (∀ name value, (name, value) ∈ members → Admits fields name value) →
      (∀ field ∈ fields, field.content.Mandatory → ∃ value, (field.name, value) ∈ members) →
      FitsFields fields members

end

/-- The objects that are sites. The type may be missing. -/
inductive IsSite : Json → Prop
  | intro {members : List (String × Json)} :
      (∀ named ∈ Json.member? members typeMember, named = .string EntityKind.site.typeName) →
      FitsFields Site.fields members → IsSite (.object members)

/-- The documents: a site, or an array of any number of sites. -/
inductive IsDocument : Json → Prop
  | site {value : Json} : IsSite value → IsDocument value
  | sites {items : List Json} : (∀ item ∈ items, IsSite item) → IsDocument (.array items)

/-! ## Leaves -/

/-- A value is read and taken as one value of a type. -/
def ReadsAs (type : FieldType) (value : Json) : Prop :=
  ∃ found, readValue value = .ok found ∧ ∃ content, type.Takes found content

/-- A value is read and taken as what a field holds. -/
def ReadsIn (content : Content) (value : Json) : Prop :=
  ∃ found, readValue value = .ok found ∧ ∃ taken, content.Takes (some found) taken

theorem stands_string {type : FieldType} {s : String} :
    Stands type (.string s) ↔ type = .text ∨ type = .reading := by
  constructor
  · rintro (_ | _) <;> simp
  · rintro (rfl | rfl)
    · exact .text s
    · exact .readingText s

theorem readsAs_string {type : FieldType} {s : String} :
    ReadsAs type (.string s) ↔ Stands type (.string s) := by
  simp [ReadsAs, readValue, FieldType.exists_takes_text, stands_string]

theorem stands_float {type : FieldType} {x : Float} {finite : x.isFinite = true} :
    Stands type (.number (.float x finite)) ↔ type = .number ∨ type = .reading := by
  constructor
  · rintro (_ | _) <;> simp
  · rintro (rfl | rfl)
    · exact .number _
    · exact .readingNumber _

theorem stands_integer {type : FieldType} {n : Int} {lower : Int64.minValue.toInt ≤ n}
    {upper : n < UInt64.size} :
    Stands type (.number (.integer n lower upper)) ↔
      type = .number ∨ type = .integer ∧ n ≤ Int64.maxValue.toInt ∨ type = .reading ∨
        type = .year ∧ Int32.minValue.toInt ≤ n ∧ n ≤ Int32.maxValue.toInt := by
  constructor
  · intro h
    cases h with
    | number => exact .inl rfl
    | integer h => exact .inr (.inl ⟨rfl, h⟩)
    | readingNumber => exact .inr (.inr (.inl rfl))
    | year h₁ h₂ => exact .inr (.inr (.inr ⟨rfl, h₁, h₂⟩))
  · rintro (rfl | ⟨rfl, h⟩ | rfl | ⟨rfl, h₁, h₂⟩)
    · exact .number _
    · exact .integer h
    · exact .readingNumber _
    · exact .year h₁ h₂

/-- A number is a float or, if it fits, an integer, and the rules for numbers
name exactly the types that accept the one or the other. -/
theorem readsAs_number {type : FieldType} {n : JsonNumber} :
    ReadsAs type (.number n) ↔ Stands type (.number n) := by
  have hsplit : ReadsAs type (.number n) ↔ ∃ content, type.Takes (numberValue n) content := by
    simp [ReadsAs]
  rw [hsplit]
  cases n with
  | float x finite => simp only [numberValue, FieldType.exists_takes_float, stands_float]
  | integer n lower upper =>
    rw [stands_integer]
    by_cases hfits : n ≤ Int64.maxValue.toInt
    · rw [numberValue_of_le hfits, FieldType.exists_takes_integer, toInt_ofInt_of_fits lower hfits]
      simp only [hfits, and_true]
    · -- read as a float, and far too large for a year
      have hlarge : ¬ n ≤ Int32.maxValue.toInt := fun h => hfits (Int.le_trans h (by decide))
      rw [numberValue_of_not_le hfits, FieldType.exists_takes_float]
      simp only [hfits, hlarge, and_false, false_or, or_false]

/-! ## Fields -/

/-- An array is accepted by no type, and by a repeated field item by item. -/
theorem readsIn_array {type : FieldType} {items : List Json}
    (hitems : ∀ item ∈ items, ReadsAs type item ↔ Stands type item) :
    ReadsIn (.repeated type) (.array items) ↔ Fits (.repeated type) (.array items) := by
  have hread : ReadsIn (.repeated type) (.array items) ↔ ∀ item ∈ items, ReadsAs type item := by
    have hpasses : ReadsIn (.repeated type) (.array items) ↔
        ∃ taken, ∃ values, List.Forall₂ (fun item value => readValue item = .ok value) items values ∧
          List.Forall₂ type.Takes values taken := by
      simp only [ReadsIn, readValue, map_eq_ok, readItems_eq_ok]
      constructor
      · rintro ⟨_, ⟨values, hvalues, rfl⟩, taken, htaken⟩
        exact ⟨taken, values, hvalues, htaken⟩
      · rintro ⟨taken, values, hvalues, htaken⟩
        exact ⟨_, ⟨values, hvalues, rfl⟩, taken, htaken⟩
    simp only [hpasses, forall₂_comp_iff, exists_forall₂_iff, ReadsAs]
    refine forall₂_congr fun item _ => ?_
    rw [exists_comm]
    simp only [exists_and_left]
  rw [hread]
  constructor
  · intro h
    exact .items fun item hitem => (hitems item hitem).mp (h item hitem)
  · intro h
    cases h with
    | items h => exact fun item hitem => (hitems item hitem).mpr (h item hitem)
    | single h => cases h

/-- **A field holds what fits it**, if its types take what stands for them. -/
theorem readsIn_iff_fits {content : Content} {value : Json}
    (hvalue : ∀ type, ReadsAs type value ↔ Stands type value)
    (hitems : ∀ items, value = .array items →
      ∀ item ∈ items, ∀ type, ReadsAs type item ↔ Stands type item) :
    ReadsIn content value ↔ Fits content value := by
  cases content with
  | required type =>
    have hfits : Fits (.required type) value ↔ Stands type value :=
      ⟨fun h => by cases h; assumption, .required⟩
    rw [hfits, ← hvalue]
    rfl
  | optional type =>
    have hfits : Fits (.optional type) value ↔ Stands type value :=
      ⟨fun h => by cases h; assumption, .optional⟩
    rw [hfits, ← hvalue]
    refine exists_congr fun found => and_congr_right fun _ => ?_
    constructor
    · rintro ⟨_, one, hone, rfl⟩
      exact ⟨one, hone⟩
    · rintro ⟨one, hone⟩
      exact ⟨some one, one, hone, rfl⟩
  | repeated type =>
    by_cases harray : ∃ items, value = .array items
    · obtain ⟨items, rfl⟩ := harray
      exact readsIn_array fun item hitem => hitems items rfl item hitem type
    · have hfits : Fits (.repeated type) value ↔ Stands type value := by
        refine ⟨fun h => ?_, .single⟩
        cases h with
        | items => exact absurd ⟨_, rfl⟩ harray
        | single h => exact h
      rw [hfits, ← hvalue]
      refine exists_congr fun found => and_congr_right fun hfound => ?_
      have hlist : ∀ items, found ≠ .list items := by
        rintro items rfl
        exact harray (eq_array_of_readValue hfound)
      simp only [Content.takes_repeated_single hlist]
      constructor
      · rintro ⟨_, one, hone, rfl⟩
        exact ⟨one, hone⟩
      · rintro ⟨one, hone⟩
        exact ⟨[one], one, hone, rfl⟩
  | tag scheme =>
    constructor
    · rintro ⟨found, hfound, _, text, member, rfl, hmember, rfl⟩
      rw [readValue_eq_text.mp hfound]
      exact .tag (TagSet.mem_tags_iff.mpr ⟨member, hmember⟩)
    · intro hfits
      cases hfits with
      | tag htag =>
        obtain ⟨member, hmember⟩ := TagSet.mem_tags_iff.mp htag
        exact ⟨_, readValue_eq_text.mpr rfl, _, _, member, rfl, hmember, rfl⟩

/-! ## Objects -/

/-- A member that is not the type is admitted as one of the fields. -/
theorem exists_field_of_admits {fields : List Field} {name : String} {value : Json}
    (h : Admits fields name value) (htype : name ≠ typeMember) :
    ∃ field ∈ fields, field.name = name ∧ Fits field.content value := by
  cases h with
  | type => exact absurd rfl htype
  | field hfield hfits => exact ⟨_, hfield, rfl, hfits⟩

/-- An object that is built has the fields of its kind and no others. -/
theorem fitsFields_of_build {kind : EntityKind} {members : List (String × Json)}
    {fields : List (String × FieldValue)} {entity : kind.Carrier}
    (hnodup : (members.map Prod.fst).Nodup)
    (hmembers : ∀ name value, (name, value) ∈ members →
      ∀ content, ReadsIn content value → Fits content value)
    (hfields : readMembers members = .ok fields)
    (hbuild : build kind (.ofList fields) = .ok entity) : FitsFields kind.fields members := by
  obtain ⟨⟨row, hrow, -⟩, hdeclared⟩ := build_eq_ok.mp hbuild
  have htakes := Row.exists_takes_iff.mp ⟨row, hrow⟩
  refine .intro (fun name value hmem => ?_) (fun field hfield hmandatory => ?_)
  · by_cases htype : name = typeMember
    · subst htype
      exact .type value
    · obtain ⟨found, hfound⟩ := exists_readMembers_iff.mp ⟨fields, hfields⟩ name value hmem htype
      have hget := (get?_readMembers_eq_some hnodup hfields).mpr ⟨htype, value, hmem, hfound⟩
      -- nothing is left over, so a field of the kind has taken the reading
      obtain ⟨field, hfield, rfl⟩ := List.mem_map.mp (hdeclared name found hget)
      obtain ⟨taken, htaken⟩ := htakes field hfield
      rw [hget] at htaken
      exact .field hfield (hmembers _ _ hmem _ ⟨found, hfound, taken, htaken⟩)
  · obtain ⟨taken, htaken⟩ := htakes field hfield
    by_contra hmissing
    have hnone := (get?_readMembers_eq_none hnodup hfields (name_ne_typeMember hfield)).mpr
      (not_exists.mp hmissing)
    rw [hnone] at htaken
    exact Content.exists_takes_none.mp ⟨taken, htaken⟩ hmandatory

/-- An object with the fields of its kind and no others is built. -/
theorem exists_build_of_fitsFields {kind : EntityKind} {members : List (String × Json)}
    (hnodup : (members.map Prod.fst).Nodup)
    (hmembers : ∀ name value, (name, value) ∈ members →
      ∀ content, Fits content value → ReadsIn content value)
    (h : FitsFields kind.fields members) :
    ∃ fields entity, readMembers members = .ok fields ∧
      build kind (.ofList fields) = .ok entity := by
  obtain ⟨hadmits, hmandatory⟩ := h
  have hread : ∀ name value, (name, value) ∈ members → name ≠ typeMember →
      ∃ field ∈ kind.fields, field.name = name ∧ ReadsIn field.content value := by
    intro name value hmem htype
    obtain ⟨field, hfield, hname, hfits⟩ := exists_field_of_admits (hadmits name value hmem) htype
    exact ⟨field, hfield, hname, hmembers name value hmem _ hfits⟩
  obtain ⟨fields, hfields⟩ := exists_readMembers_iff.mpr fun name value hmem htype => by
    obtain ⟨field, -, -, found, hfound, -⟩ := hread name value hmem htype
    exact ⟨found, hfound⟩
  have hget := @get?_readMembers_eq_some _ _ hnodup hfields
  obtain ⟨row, hrow⟩ : ∃ row, Row.Takes kind.fields (Record.ofList fields).get? row := by
    refine Row.exists_takes_iff.mpr fun field hfield => ?_
    cases hfound : (Record.ofList fields).get? field.name with
    | none =>
      refine Content.exists_takes_none.mpr fun hmust => ?_
      obtain ⟨value, hmem⟩ := hmandatory field hfield hmust
      exact (get?_readMembers_eq_none hnodup hfields (name_ne_typeMember hfield)).mp hfound value hmem
    | some found =>
      obtain ⟨htype, value, hmem, hvalue⟩ := hget.mp hfound
      -- the field that admits the member is this one, for they share its name
      obtain ⟨other, hother, hname, found', hfound', taken, htaken⟩ := hread _ _ hmem htype
      obtain rfl := EntityKind.field_eq_of_name_eq hother hfield hname
      obtain rfl := Except.ok.inj (hvalue.symm.trans hfound')
      exact ⟨taken, htaken⟩
  refine ⟨fields, kind.ofRow row, hfields, build_eq_ok.mpr ⟨⟨row, hrow, rfl⟩, ?_⟩⟩
  intro name found hfound
  obtain ⟨htype, value, hmem, -⟩ := hget.mp hfound
  obtain ⟨field, hfield, rfl, -⟩ := hread name value hmem htype
  exact List.mem_map_of_mem hfield

/-- **An object is built exactly if it has the fields of its kind**, given that
at each of its members a field holds what fits it. -/
theorem exists_build_iff {kind : EntityKind} {members : List (String × Json)}
    (hnodup : (members.map Prod.fst).Nodup)
    (hmembers : ∀ name value, (name, value) ∈ members →
      ∀ content, ReadsIn content value ↔ Fits content value) :
    (∃ fields entity, readMembers members = .ok fields ∧
      build kind (.ofList fields) = .ok entity) ↔ FitsFields kind.fields members := by
  constructor
  · rintro ⟨fields, entity, hfields, hbuild⟩
    refine fitsFields_of_build hnodup (fun name value hmem content => ?_) hfields hbuild
    exact (hmembers name value hmem content).mp
  · intro h
    refine exists_build_of_fitsFields hnodup (fun name value hmem content => ?_) h
    exact (hmembers name value hmem content).mpr

/-! ## Documents -/

/-- **Reading a value as a type follows the rules**, and so it does at the
items of an array, which a repeated field takes one by one. -/
theorem readsAs_iff_stands {value : Json} (hsorted : value.Sorted) :
    (∀ type, ReadsAs type value ↔ Stands type value) ∧
      ∀ items, value = .array items →
        ∀ item ∈ items, ∀ type, ReadsAs type item ↔ Stands type item := by
  induction value with
  | null =>
    refine ⟨fun type => ⟨?_, ?_⟩, ?_⟩
    · rintro ⟨found, hfound, -⟩
      cases hfound
    · rintro ⟨⟩
    · rintro items ⟨⟩
  | bool b =>
    refine ⟨fun type => ⟨?_, ?_⟩, ?_⟩
    · rintro ⟨found, hfound, -⟩
      cases hfound
    · rintro ⟨⟩
    · rintro items ⟨⟩
  | number n =>
    refine ⟨fun type => readsAs_number, ?_⟩
    rintro items ⟨⟩
  | string s =>
    refine ⟨fun type => readsAs_string, ?_⟩
    rintro items ⟨⟩
  | array items ih =>
    have hitems := Json.sorted_array.mp hsorted
    refine ⟨fun type => ⟨?_, ?_⟩, ?_⟩
    · -- an array is read as a list, which no single value is taken from
      rintro ⟨found, hfound, content, hcontent⟩
      obtain ⟨values, -, rfl⟩ := map_eq_ok.mp hfound
      exact absurd hcontent FieldType.not_takes_list
    · rintro ⟨⟩
    · rintro _ ⟨rfl⟩ item hitem
      exact (ih item hitem (hitems item hitem)).1
  | object members ih =>
    refine ⟨fun type => ?_, by rintro items ⟨⟩⟩
    have hsortedMembers := (Json.sorted_object.mp hsorted).2
    have hbuild : ∀ kind : EntityKind, (∃ fields entity, readMembers members = .ok fields ∧
        build kind (.ofList fields) = .ok entity) ↔ FitsFields kind.fields members := by
      intro kind
      refine exists_build_iff hsorted.nodup fun name value hmem content => ?_
      have hmember := ih name value hmem (hsortedMembers name value hmem)
      exact readsIn_iff_fits hmember.1 hmember.2
    constructor
    · rintro ⟨found, hfound, content, hcontent⟩
      obtain ⟨kind, fields, entity, hkind, hfields, hentity, rfl⟩ :=
        readValue_object_eq_ok.mp hfound
      obtain ⟨⟨row, -, rfl⟩, -⟩ := build_eq_ok.mp hentity
      have htype := FieldType.exists_takes_element.mp ⟨content, hcontent⟩
      obtain rfl := htype.trans (congrArg _ (ElementKind.kind_toElement_ofRow kind row))
      exact .element hkind ((hbuild (.element kind)).mp ⟨fields, _, hfields, hentity⟩)
    · intro hstands
      cases hstands with
      | @element kind _ hkind hfits =>
        obtain ⟨fields, entity, hfields, hentity⟩ := (hbuild (.element kind)).mpr hfits
        obtain ⟨⟨row, -, rfl⟩, -⟩ := build_eq_ok.mp hentity
        refine ⟨_, readValue_object_eq_ok.mpr ⟨kind, fields, _, hkind, hfields, hentity, rfl⟩, ?_⟩
        exact FieldType.exists_takes_element.mpr
          (congrArg _ (ElementKind.kind_toElement_ofRow kind row).symm)

/-- A value is read as a site exactly if it is one. -/
theorem exists_readSite_iff {value : Json} (hsorted : value.Sorted) :
    (∃ site, readSite value = .ok site) ↔ IsSite value := by
  have hbuild : ∀ members, value = .object members →
      ((∃ fields site, readMembers members = .ok fields ∧
        build .site (.ofList fields) = .ok site) ↔ FitsFields Site.fields members) := by
    rintro members rfl
    refine exists_build_iff hsorted.nodup fun name value hmem content => ?_
    have hmember := readsAs_iff_stands ((Json.sorted_object.mp hsorted).2 name value hmem)
    exact readsIn_iff_fits hmember.1 hmember.2
  constructor
  · rintro ⟨site, hsite⟩
    obtain ⟨members, fields, rfl, hcheck, hfields, hsite⟩ := readSite_eq_ok.mp hsite
    exact .intro (checkSite_eq_ok.mp hcheck) ((hbuild members rfl).mp ⟨fields, site, hfields, hsite⟩)
  · intro hsite
    cases hsite with
    | @intro members hcheck hfits =>
      obtain ⟨fields, site, hfields, hsite⟩ := (hbuild members rfl).mpr hfits
      exact ⟨site, readSite_eq_ok.mpr
        ⟨members, fields, rfl, checkSite_eq_ok.mpr hcheck, hfields, hsite⟩⟩

/-- **The reader accepts exactly the site documents.** -/
theorem exists_sites_iff_isDocument {document : Json} (hsorted : document.Sorted) :
    (∃ found, sites document = .ok found) ↔ IsDocument document := by
  simp only [sites_eq_ok, exists_forall₂_iff]
  have hsites : ∀ value ∈ siteValues document,
      ((∃ site, readSite value = .ok site) ↔ IsSite value) :=
    fun value hvalue => exists_readSite_iff (sorted_of_mem_siteValues hsorted hvalue)
  rw [forall₂_congr hsites]
  constructor
  · intro h
    cases document with
    | array items => exact .sites h
    | _ => exact .site (h _ (List.mem_singleton_self _))
  · intro h value hvalue
    cases h with
    | site hsite =>
      cases hsite with
      | intro hcheck hfits =>
        obtain rfl := List.mem_singleton.mp hvalue
        exact .intro hcheck hfits
    | sites hitems => exact hitems value hvalue

/-- Two sites: one with a description that stands on a ground type, and one
that tells its own type. -/
def describedAndBare : Json :=
  .array
    [.object
      [("site_description", .object
        [("EC8", .object [("type", .string "EC8_class"), ("value", .string "A")]),
          ("latitude", .number (.integer 46 (by decide) (by decide))),
          ("longitude", .number (.integer 8 (by decide) (by decide))),
          ("type", .string "SiteDescription")]),
        ("station_code", .string "SENGL")],
      .object [("station_code", .string "SFRU"), ("type", .string "Site")]]

theorem isDocument_describedAndBare :
    describedAndBare.Sorted ∧ IsDocument describedAndBare := by
  have hsorted : describedAndBare.Sorted := by decide
  exact ⟨hsorted, (exists_sites_iff_isDocument hsorted).mp ⟨_, rfl⟩⟩

end Document

end SeismicSite
