import SeismicSite.Proofs.Document.Build
import SeismicSite.Proofs.Document.Encoding
/-!
# Annotated sites

A site as it is written does not tell the types of its parts, and tells the
names of its indicators, which the reader does not know. `annotateSite` adds
the one and drops the other. Which entity an object stands for follows from
the field that holds it, so the value alone is enough to annotate it.
-/

namespace SeismicSite

/-! ## Annotated values -/

/-- The members without the name of an indicator. -/
def ElementKind.unnamed : ElementKind → List (String × Json) → List (String × Json)
  | indicator _, members => members.filter fun member => member.1 ≠ "name"
  | _, members => members

namespace Document

mutual

/-- The value as one that a reader of the type can read: every object in it
tells its type, and no indicator its name. -/
def annotateValue (type : FieldType) : Json → Json
  | .array items => .array (annotateItems type items)
  | .object members =>
    match type with
    | .element kind =>
      .ofMembers ((typeMember, .string kind.typeName)
        :: kind.unnamed (annotateMembers kind.fields members))
    | _ => .object members
  | value => value

/-- Every item annotated. -/
def annotateItems (type : FieldType) : List Json → List Json
  | [] => []
  | item :: items => annotateValue type item :: annotateItems type items

/-- Every member annotated as its field asks for. -/
def annotateMembers (fields : List Field) : List (String × Json) → List (String × Json)
  | [] => []
  | (name, value) :: members =>
    match fields.find? (·.name = name) with
    | some field => (name, annotateValue field.content.type value) :: annotateMembers fields members
    | none => (name, value) :: annotateMembers fields members

end

/-- The site object with every entity in it annotated. -/
def annotateSite : Json → Json
  | .object members => .ofMembers (annotateMembers Site.fields members)
  | value => value

end Document

/-! ## The floats of a site -/

/-- The float of an indicator's value, if it is one. -/
def IndicatorValue.floats : IndicatorValue → List Float
  | number value => [value]
  | text _ => []

/-- The floats of a variant's own fields. -/
def IndicatorDetail.floats : IndicatorDetail → List Float
  | velocityS30 combined manual => combined.toList ++ manual.toList
  | _ => []

/-- The floats of an indicator. -/
def Indicator.floats (indicator : Indicator) : List Float :=
  indicator.detail.floats ++ indicator.value.floats ++ indicator.uncertainty.toList
    ++ indicator.qualityIndex.toList

/-- The floats of a layer. -/
def VelocityLayer.floats (layer : VelocityLayer) : List Float :=
  [layer.density, layer.velocityP, layer.velocityS, layer.topDepth, layer.bottomDepth]

/-- The floats of a profile. -/
def VelocityProfile.floats (profile : VelocityProfile) : List Float :=
  profile.layers.flatMap VelocityLayer.floats

/-- The floats of a description. -/
def Description.floats (d : Description) : List Float :=
  [d.latitude, d.longitude] ++ d.altitude.toList ++ d.minDistance.toList ++ d.maxDistance.toList
    ++ d.ec8.toList.flatMap Indicator.floats ++ d.bedrockDepth.toList.flatMap Indicator.floats
    ++ d.h800.toList.flatMap Indicator.floats ++ d.geologicalUnit.toList.flatMap Indicator.floats

/-- The floats of a characterization. -/
def Characterization.floats (c : Characterization) : List Float :=
  c.resonanceFrequency.toList.flatMap Indicator.floats
    ++ c.velocityS30.toList.flatMap Indicator.floats
    ++ c.profiles.flatMap VelocityProfile.floats

/-- **All floats of a site.** -/
def Site.floats (site : Site) : List Float :=
  site.description.toList.flatMap Description.floats
    ++ site.characterization.toList.flatMap Characterization.floats ++ site.overallQuality.toList

namespace Document

/-! ## Annotated members -/

theorem annotateItems_eq_map {type : FieldType} {items : List Json} :
    annotateItems type items = items.map (annotateValue type) := by
  induction items with
  | nil => rfl
  | cons item items ih => rw [annotateItems, ih, List.map_cons]

theorem names_annotateMembers {fields : List Field} {members : List (String × Json)} :
    (annotateMembers fields members).map Prod.fst = members.map Prod.fst := by
  induction members with
  | nil => rfl
  | cons member members ih =>
    obtain ⟨name, value⟩ := member
    simp only [annotateMembers]
    split <;> rw [List.map_cons, List.map_cons, ih]

/-- A declared member is annotated as its field asks for. -/
theorem mem_annotateMembers {fields : List Field} {members : List (String × Json)} {field : Field}
    {value : Json} (hfield : fields.find? (·.name = field.name) = some field) :
    (field.name, value) ∈ annotateMembers fields members ↔
      ∃ plain, (field.name, plain) ∈ members ∧ value = annotateValue field.content.type plain := by
  induction members with
  | nil => simp [annotateMembers]
  | cons member members ih =>
    obtain ⟨name, content⟩ := member
    by_cases hname : field.name = name
    · subst hname
      simp only [annotateMembers, hfield, List.mem_cons, Prod.mk.injEq, true_and, ih]
      constructor
      · rintro (rfl | ⟨plain, hplain, rfl⟩)
        · exact ⟨content, .inl rfl, rfl⟩
        · exact ⟨plain, .inr hplain, rfl⟩
      · rintro ⟨plain, rfl | hplain, rfl⟩
        · exact .inl rfl
        · exact .inr ⟨plain, hplain, rfl⟩
    · simp only [annotateMembers]
      split <;> simp [hname, ih]

/-- The annotated members of a row: those of its entries, each under the name of
its field. -/
theorem mem_annotateMembers_row {kind : EntityKind} {row : Row kind.fields} {name : String}
    {value : Json} :
    (name, value) ∈ annotateMembers kind.fields (Row.members kind.fields row) ↔
      ∃ entry ∈ Row.entries kind.fields row, entry.field.name = name ∧
        ∃ plain, entry.field.content.encode entry.content = some plain ∧
          value = annotateValue entry.field.content.type plain := by
  constructor
  · intro h
    have hname : name ∈ (Row.members kind.fields row).map Prod.fst :=
      names_annotateMembers ▸ List.mem_map_of_mem h
    obtain ⟨⟨_, _⟩, hmem, rfl⟩ := List.mem_map.mp hname
    obtain ⟨entry, hentry, rfl, -⟩ := Row.mem_members.mp hmem
    have hfield := EntityKind.find?_fields (Row.field_mem_of_mem_entries hentry)
    obtain ⟨plain, hplain, rfl⟩ := (mem_annotateMembers hfield).mp h
    obtain ⟨other, hother, hsame, hencode⟩ := Row.mem_members.mp hplain
    exact ⟨other, hother, hsame, plain, hencode, by
      rw [EntityKind.entry_eq_of_name_eq hother hentry hsame]⟩
  · rintro ⟨entry, hentry, rfl, plain, hencode, rfl⟩
    have hfield := EntityKind.find?_fields (Row.field_mem_of_mem_entries hentry)
    exact (mem_annotateMembers hfield).mpr
      ⟨plain, Row.mem_members.mpr ⟨entry, hentry, rfl, hencode⟩, rfl⟩

theorem names_members_sublist {name : String} {content : Content} {taken : content.Carrier} :
    ((content.members name taken).map Prod.fst).Sublist [name] := by
  cases content with
  | required type => exact .refl _
  | repeated type => exact .refl _
  | optional type => cases taken <;> simp [Content.members, Json.optional]
  | tag scheme => cases taken <;> simp [Content.members, Json.optional]

/-- A row is written under names of its fields, each once. -/
theorem names_rowMembers_sublist {fields : List Field} {row : Row fields} :
    ((Row.members fields row).map Prod.fst).Sublist (fieldNames fields) := by
  induction fields with
  | nil => exact List.Sublist.slnil
  | cons field fields ih =>
    obtain ⟨content, row⟩ := row
    rw [Row.members, List.map_append]
    exact names_members_sublist.append ih

theorem nodup_annotateMembers_row {kind : EntityKind} {row : Row kind.fields} :
    ((annotateMembers kind.fields (Row.members kind.fields row)).map Prod.fst).Nodup := by
  rw [names_annotateMembers]
  exact kind.nodup_fieldNames.sublist names_rowMembers_sublist

theorem type_not_mem_annotateMembers_row {kind : EntityKind} {row : Row kind.fields} :
    typeMember ∉ (annotateMembers kind.fields (Row.members kind.fields row)).map Prod.fst := by
  rw [names_annotateMembers]
  exact fun h => typeMember_not_mem_fieldNames kind (names_rowMembers_sublist.subset h)

/-- What annotating drops of an indicator is its name and nothing else. -/
theorem unnamed_annotateMembers {kind : ElementKind} {row : Row kind.fields} :
    kind.unnamed (annotateMembers kind.fields (kind.head ++ Row.members kind.fields row)) =
      annotateMembers kind.fields (Row.members kind.fields row) := by
  cases kind with
  | indicator name =>
    have hnot : "name" ∉ fieldNames (Indicator.fields name) := by
      cases name <;> decide
    -- the name that is dropped stands in front of the row, not in it
    have hkept : (annotateMembers (Indicator.fields name)
        (Row.members (Indicator.fields name) row)).filter (fun member => member.1 ≠ "name") =
        annotateMembers (Indicator.fields name) (Row.members (Indicator.fields name) row) := by
      refine List.filter_eq_self.mpr fun member hmember => decide_eq_true fun hname => hnot ?_
      have hmem := List.mem_map_of_mem (f := Prod.fst) hmember
      rw [names_annotateMembers, hname] at hmem
      exact names_rowMembers_sublist.subset hmem
    show (annotateMembers (Indicator.fields name) (("name", _) ::
      Row.members (Indicator.fields name) row)).filter (fun member => member.1 ≠ "name") = _
    simp only [annotateMembers]
    split <;> exact hkept
  | _ => rfl

end Document

end SeismicSite
