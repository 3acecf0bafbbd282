import SeismicSite.Proofs.Document.Annotation
import SeismicSite.Proofs.Field.Equality
import SeismicSite.Proofs.Json.Agreement
/-!
# Equality and what is written

Entities of finite floats are equal exactly if what they are written as agrees. The
forward direction says that nothing else is written than what is compared, the backward
one that nothing that is compared is lost in writing. Both are shown from the leaves up:
of the contents of a field, of a row of them, and of the entity that the row makes.
-/

namespace SeismicSite

open Json (AgreesFound agreesFound_some)

/-! ## Contents -/

instance ElementKind.instBEqCarrier : (kind : ElementKind) → BEq kind.Carrier
  | literature => inferInstanceAs (BEq Literature)
  | indicator _ => inferInstanceAs (BEq Indicator)
  | layer => inferInstanceAs (BEq VelocityLayer)
  | profile => inferInstanceAs (BEq VelocityProfile)
  | description => inferInstanceAs (BEq Description)
  | characterization => inferInstanceAs (BEq Characterization)

instance FieldType.instBEqCarrier : (type : FieldType) → BEq type.Carrier
  | text => inferInstanceAs (BEq String)
  | number => inferInstanceAs (BEq Float)
  | integer => inferInstanceAs (BEq Int64)
  | year => inferInstanceAs (BEq Int32)
  | reading => inferInstanceAs (BEq IndicatorValue)
  | element kind => inferInstanceAs (BEq kind.Carrier)

instance Scheme.instDecidableEqCarrier : (scheme : Scheme) → DecidableEq scheme.Carrier
  | slopeClass => inferInstanceAs (DecidableEq SlopeClass)
  | landform => inferInstanceAs (DecidableEq Landform)

instance Content.instBEqCarrier : (content : Content) → BEq content.Carrier
  | required type => inferInstanceAs (BEq type.Carrier)
  | optional type => inferInstanceAs (BEq (Option type.Carrier))
  | repeated type => inferInstanceAs (BEq (List type.Carrier))
  | tag scheme => inferInstanceAs (BEq (Option scheme.Carrier))

/-- Rows are compared content by content, as entities are field by field. -/
def Row.beq : (fields : List Field) → Row fields → Row fields → Bool
  | [], _, _ => true
  | [_], (a, _), (b, _) => a == b
  | _ :: next :: fields, (a, as), (b, bs) => a == b && beq (next :: fields) as bs

instance Row.instBEqRow (fields : List Field) : BEq (Row fields) where
  beq := beq fields

theorem Row.beq_cons {field : Field} {fields : List Field} (a b : field.content.Carrier)
    (as bs : Row fields) : beq (field :: fields) (a, as) (b, bs) = (a == b && as == bs) := by
  cases fields with
  | nil => exact (Bool.and_true _).symm
  | cons next fields => rfl

/-- The floats of an element. -/
def ElementKind.floats : (kind : ElementKind) → kind.Carrier → List Float
  | literature, _ => []
  | indicator _, value => Indicator.floats value
  | layer, value => VelocityLayer.floats value
  | profile, value => VelocityProfile.floats value
  | description, value => Description.floats value
  | characterization, value => Characterization.floats value

/-- The floats of a content. -/
def FieldType.floats : (type : FieldType) → type.Carrier → List Float
  | number, value => [value]
  | reading, value => value.floats
  | element kind, value => kind.floats value
  | _, _ => []

/-- The floats of what a field holds. -/
def Content.floats : (content : Content) → content.Carrier → List Float
  | required type, value => type.floats value
  | optional type, found => found.toList.flatMap type.floats
  | repeated type, values => values.flatMap type.floats
  | tag _, _ => []

/-- The floats of a row. -/
def Row.floats : (fields : List Field) → Row fields → List Float
  | [], _ => []
  | field :: fields, (content, row) => field.content.floats content ++ floats fields row

/-- Contents of the type are equal exactly if what they are written as agrees. -/
def FieldType.Faithful (type : FieldType) : Prop :=
  ∀ content : type.Carrier,
    FaithfulAt type.floats (fun a b => (type.encode a).agrees (type.encode b) = true) content

/-! ## Plain types -/

/-- A float by itself. -/
theorem faithfulAt_float (x : Float) :
    FaithfulAt (fun x => [x]) (fun x y => (Json.ofFloat x).agrees (Json.ofFloat y) = true) x where
  toEqualityAt := .float x
  iff_same hx y hy := by rw [Json.agrees_ofFloat (by simpa using hx) (by simpa using hy)]

/-- The value of an indicator is a number or a text, and written as the one or the other. -/
theorem IndicatorValue.faithfulAt (value : IndicatorValue) :
    FaithfulAt IndicatorValue.floats (fun a b => a.toJson.agrees b.toJson = true) value := by
  cases value with
  | number x =>
    refine (faithfulAt_float x).of_constructor (fun _ _ => rfl) ?_ (fun _ _ => Iff.rfl)
      (fun _ _ => Iff.rfl) ?_
    · rintro x (y | t) h
      · exact ⟨y, rfl⟩
      · cases h
    · rintro x (y | t) h
      · exact ⟨y, rfl⟩
      · rw [toJson, toJson, Json.agrees_ofFloat_string] at h
        cases h
  | text s =>
    have htext : FaithfulAt (fun _ => []) (fun a b => a = b) s := .of_lawful fun _ => Iff.rfl
    refine htext.of_constructor (fun _ _ => rfl) ?_ (fun _ _ => Iff.rfl)
      (fun _ _ => Json.agrees_string) ?_
    · rintro s (y | t) h
      · cases h
      · exact ⟨t, rfl⟩
    · rintro s (y | t) h
      · rw [toJson, toJson, Json.agrees_string_ofFloat] at h
        cases h
      · exact ⟨t, rfl⟩

namespace FieldType

theorem faithful_text : text.Faithful := fun _ => .of_lawful fun _ => Json.agrees_string.symm

theorem faithful_number : number.Faithful := faithfulAt_float

theorem faithful_integer : integer.Faithful := fun _ => .of_lawful fun _ => Json.agrees_ofInt64.symm

theorem faithful_year : year.Faithful := fun _ => .of_lawful fun _ => Json.agrees_ofInt32.symm

theorem faithful_reading : reading.Faithful := IndicatorValue.faithfulAt

end FieldType

/-! ## Fields -/

/-- Tags of two members agree only if these are the same. -/
theorem TagSet.agrees_toJson {scheme : Scheme} {a b : scheme.Carrier} :
    (TagSet.toJson a).agrees (TagSet.toJson b) = true ↔ a = b := by
  rw [TagSet.toJson_eq_tag, TagSet.toJson_eq_tag, Json.agrees_string]
  refine ⟨fun h => ?_, congrArg _⟩
  have hfound := TagSet.ofTag?_tag a
  rw [h, TagSet.ofTag?_tag] at hfound
  exact (Option.some.inj hfound).symm

/-- What a field holds is equal exactly if what it is written as agrees. -/
theorem Content.faithfulAt {content : Content} (h : content.type.Faithful)
    (taken : content.Carrier) :
    FaithfulAt content.floats (fun a b => AgreesFound (content.encode a) (content.encode b)) taken := by
  cases content with
  | required type => exact (h taken).congr fun a b => agreesFound_some
  | optional type =>
    have htype : type.Faithful := h
    refine (FaithfulAt.option fun a _ => htype a).congr fun a b => ?_
    change Option.Rel _ (a.map type.encode) (b.map type.encode) ↔ _
    cases a <;> cases b <;> simp
  | repeated type =>
    have htype : type.Faithful := h
    refine (FaithfulAt.list fun a _ => htype a).congr fun as bs => ?_
    change AgreesFound (some (.array (as.map type.encode))) (some (.array (bs.map type.encode))) ↔ _
    rw [agreesFound_some, Json.agrees_array, List.forall₂_map_left_iff, List.forall₂_map_right_iff]
  | tag scheme =>
    refine FaithfulAt.of_lawful fun b => ?_
    change _ ↔ Option.Rel _ (Option.map TagSet.toJson taken) (Option.map TagSet.toJson b)
    cases taken <;> cases b <;> simp [TagSet.agrees_toJson]

/-! ## Rows -/

/-- Under the name of a field stands what it is written as. -/
theorem Content.member?_members {content : Content} {taken : content.Carrier} {name other : String} :
    Json.member? (content.members name taken) other =
      if other = name then content.encode taken else none := by
  have hnodup : ((content.members name taken).map Prod.fst).Nodup :=
    (List.nodup_singleton name).sublist Document.names_members_sublist
  refine Option.ext fun value => ?_
  rw [Json.member?, Json.lookup_eq_some_iff hnodup, Content.mem_members]
  by_cases h : other = name
  · simp [h]
  · simp [h, Ne.symm h]

/-- Under a name that no field of a row has stands nothing. -/
theorem Row.member?_members_of_fresh {fields : List Field} {name : String}
    (hfresh : name ∉ fieldNames fields) (row : Row fields) :
    Json.member? (members fields row) name = none :=
  Record.lookup_eq_none_of_not_mem fun hname => hfresh (Document.names_rowMembers_sublist.subset hname)

/-- A row is written as its first field and the row behind it. -/
theorem Row.member?_members_cons {field : Field} {fields : List Field}
    {content : field.content.Carrier} {row : Row fields} {name : String}
    (hfresh : field.name ∉ fieldNames fields) :
    Json.member? (members (field :: fields) (content, row)) name =
      if name = field.name then field.content.encode content
      else Json.member? (members fields row) name := by
  have hrest := member?_members_of_fresh hfresh row
  rw [members, Json.member?, List.lookup_append, ← Json.member?, ← Json.member?,
    Content.member?_members]
  by_cases h : name = field.name
  · rw [if_pos h, if_pos h, h, hrest, Option.or_none]
  · rw [if_neg h, if_neg h, Option.none_or]

/-- What is found in two rows agrees if what their first fields are written as does, and
what is found in the rows behind them. -/
theorem Row.agreesFound_cons {field : Field} {fields : List Field}
    {a b : field.content.Carrier} {as bs : Row fields} (hfresh : field.name ∉ fieldNames fields) :
    (∀ name, AgreesFound (Json.member? (members (field :: fields) (a, as)) name)
        (Json.member? (members (field :: fields) (b, bs)) name)) ↔
      AgreesFound (field.content.encode a) (field.content.encode b) ∧
        ∀ name, AgreesFound (Json.member? (members fields as) name)
          (Json.member? (members fields bs) name) := by
  simp only [member?_members_cons hfresh]
  exact Json.forall_agreesFound_iff (member?_members_of_fresh hfresh as)
    (member?_members_of_fresh hfresh bs)

/-- **A row is equal exactly if what is found in it agrees.** -/
theorem Row.faithfulAt {fields : List Field} (hnames : (fieldNames fields).Nodup)
    (h : ∀ field ∈ fields, field.content.type.Faithful) (row : Row fields) :
    FaithfulAt (floats fields) (fun a b => ∀ name,
      AgreesFound (Json.member? (members fields a) name) (Json.member? (members fields b) name)) row := by
  induction fields with
  | nil =>
    have hunit : FaithfulAt (fun _ => []) (fun _ _ => True) () := .of_lawful fun _ => by simp
    exact hunit.of_map (f := fun _ => ()) (fun _ _ => rfl) (fun _ _ => Iff.rfl)
      fun _ _ => by simp [members, Json.member?]
  | cons field fields ih =>
    obtain ⟨hfresh, hrest⟩ := List.nodup_cons.mp hnames
    obtain ⟨hfield, hfields⟩ := List.forall_mem_cons.mp h
    obtain ⟨content, row⟩ := row
    have hpair := (Content.faithfulAt hfield content).prod (ih hrest hfields row)
    have hbeq (a b : Row (field :: fields)) : (instBEqRow _).beq a b = (a.1 == b.1 && a.2 == b.2) :=
      beq_cons a.1 b.1 a.2 b.2
    exact @FaithfulAt.of_map _ _ _ (instBEqRow (field :: fields)) _ _ _ _ (fun row => row) _ hpair hbeq
      (fun _ _ => Iff.rfl) fun a b => agreesFound_cons hfresh

/-! ## Entities -/

/-- **An entity is equal exactly if what it is written as agrees**, if it is compared and
written as a row of its fields. -/
theorem EntityKind.faithfulAt_of_row {kind : EntityKind} {β : Type} [BEq β] {floats : β → List Float}
    {toRow : β → Row kind.fields} {toJson : β → Json}
    (hfields : ∀ field ∈ kind.fields, field.content.type.Faithful)
    (hbeq : ∀ a b, (a == b) = (toRow a == toRow b))
    (hfloats : ∀ a x, x ∈ floats a ↔ x ∈ Row.floats kind.fields (toRow a))
    (hjson : ∀ a, toJson a = .object (Row.members kind.fields (toRow a))) (a : β) :
    FaithfulAt floats (fun a b => (toJson a).agrees (toJson b) = true) a := by
  have hnodup (row : Row kind.fields) : ((Row.members kind.fields row).map Prod.fst).Nodup :=
    kind.nodup_fieldNames.sublist Document.names_rowMembers_sublist
  refine (Row.faithfulAt kind.nodup_fieldNames hfields (toRow a)).of_map hbeq hfloats fun a b => ?_
  rw [hjson, hjson, Json.agrees_object (hnodup _) (hnodup _)]

theorem Literature.faithfulAt (source : Literature) :
    FaithfulAt (fun _ => []) (fun a b => a.toJson.agrees b.toJson = true) source := by
  refine @EntityKind.faithfulAt_of_row (.element .literature) _ _ _ toRow _ ?_ ?_ ?_ ?_ source
  · simp [EntityKind.fields, ElementKind.fields, fields, Content.type, FieldType.faithful_text,
      FieldType.faithful_year]
  · exact fun a b => rfl
  · intro a x
    simp [EntityKind.fields, ElementKind.fields, fields, toRow, Row.floats, Content.floats,
      FieldType.floats]
  · exact fun a => toJson_ofRow a.toRow

theorem VelocityLayer.faithfulAt (layer : VelocityLayer) :
    FaithfulAt VelocityLayer.floats (fun a b => a.toJson.agrees b.toJson = true) layer := by
  refine @EntityKind.faithfulAt_of_row (.element .layer) _ _ _ toRow _ ?_ ?_ ?_ ?_ layer
  · simp [EntityKind.fields, ElementKind.fields, fields, Content.type, FieldType.faithful_number]
  · exact fun a b => rfl
  · exact fun a x => Iff.rfl
  · exact fun a => toJson_ofRow a.toRow

theorem VelocityProfile.faithfulAt (profile : VelocityProfile) :
    FaithfulAt VelocityProfile.floats (fun a b => a.toJson.agrees b.toJson = true) profile := by
  have hlayer : (FieldType.element .layer).Faithful := VelocityLayer.faithfulAt
  refine @EntityKind.faithfulAt_of_row (.element .profile) _ _ _ toRow _ ?_ ?_ ?_ ?_ profile
  · simp [EntityKind.fields, ElementKind.fields, fields, Content.type, FieldType.faithful_integer,
      hlayer]
  · exact fun a b => rfl
  · intro a x
    simp [EntityKind.fields, ElementKind.fields, fields, toRow, floats, Row.floats, Content.floats,
      FieldType.floats, ElementKind.floats]
  · exact fun a => toJson_ofRow a.toRow

/-! ### Indicators

The fields of an indicator depend on its name, so two of them are compared as rows only
if they have the same name; if not, both the indicators and what they are written as
tell them apart. -/

/-- A name is told by its label. -/
theorem IndicatorName.label_inj {a b : IndicatorName} : a.label = b.label ↔ a = b := by
  cases a <;> cases b <;> decide

namespace Indicator

theorem ofRow_toRow (indicator : Indicator) : ofRow indicator.name indicator.toRow = indicator := by
  obtain ⟨detail, _⟩ := indicator
  cases detail <;> rfl

/-- An indicator of a name is made of a row of its fields. -/
theorem exists_ofRow {indicator : Indicator} {name : IndicatorName} (h : indicator.name = name) :
    ∃ row, indicator = ofRow name row := by
  subst h
  exact ⟨_, indicator.ofRow_toRow.symm⟩

theorem name_ofRow (name : IndicatorName) (row : Row (fields name)) : (ofRow name row).name = name := by
  cases name <;> rfl

/-- Indicators that are equal have the same name. -/
theorem name_eq_of_beq {a b : Indicator} (h : (a == b) = true) : a.name = b.name := by
  obtain ⟨detail, _⟩ := a
  obtain ⟨detail', _⟩ := b
  have hdetail : (detail == detail') = true := (Bool.and_eq_true_iff.mp h).1
  cases detail <;> cases detail' <;> first | rfl | cases hdetail

theorem beq_ofCommonRow (detail detail' : IndicatorDetail) (a b : Row commonFields) :
    (ofCommonRow detail a == ofCommonRow detail' b) = (detail == detail' && a == b) := rfl

/-- **Indicators of one name are compared as rows.** -/
theorem beq_ofRow (name : IndicatorName) (a b : Row (fields name)) :
    (ofRow name a == ofRow name b) = (a == b) := by
  cases name with
  | geologicalUnit =>
    exact (beq_ofCommonRow _ _ _ _).trans (Bool.and_assoc _ _ _)
  | velocityS30 => exact (beq_ofCommonRow _ _ _ _).trans (Bool.and_assoc _ _ _)
  | _ => exact beq_ofCommonRow _ _ a b

theorem mem_floats_ofCommonRow (detail : IndicatorDetail) (row : Row commonFields) (x : Float) :
    x ∈ (ofCommonRow detail row).floats ↔ x ∈ detail.floats ++ Row.floats commonFields row := by
  obtain ⟨value, uncertainty, methods, quality, literature, reference, _⟩ := row
  simp [commonFields, ofCommonRow, floats, Row.floats, Content.floats, FieldType.floats,
    ElementKind.floats]

theorem mem_floats_ofRow (name : IndicatorName) (row : Row (fields name)) (x : Float) :
    x ∈ (ofRow name row).floats ↔ x ∈ Row.floats (fields name) row := by
  cases name with
  | geologicalUnit =>
    obtain ⟨scale, unit, row⟩ := row
    rw [ofRow, mem_floats_ofCommonRow]
    simp [fields, IndicatorDetail.floats, Row.floats, Content.floats, FieldType.floats]
  | velocityS30 =>
    obtain ⟨combined, manual, row⟩ := row
    rw [ofRow, mem_floats_ofCommonRow]
    simp [fields, IndicatorDetail.floats, Row.floats, Content.floats, FieldType.floats]
  | _ => exact mem_floats_ofCommonRow _ row x

/-- **Indicators of one name are written as rows** behind the name. -/
theorem agrees_ofRow (name : IndicatorName) (a b : Row (fields name)) :
    (ofRow name a).toJson.agrees (ofRow name b).toJson = true ↔ ∀ other,
      AgreesFound (Json.member? (Row.members (fields name) a) other)
        (Json.member? (Row.members (fields name) b) other) := by
  have hnodup (row : Row (fields name)) :
      ((("name", Json.string name.label) :: Row.members (fields name) row).map Prod.fst).Nodup := by
    have hfields : ("name" :: fieldNames (fields name)).Nodup := by cases name <;> decide
    exact hfields.sublist (Document.names_rowMembers_sublist.cons_cons _)
  rw [toJson_ofRow, toJson_ofRow, Json.agrees_object_cons (hnodup a) (hnodup b), Json.agrees_string,
    Json.agrees_object (hnodup a).of_cons (hnodup b).of_cons]
  exact and_iff_right rfl

/-- What indicators of two names are written as does not agree: the name is written. -/
theorem name_eq_of_agrees {a b : Indicator} (h : a.toJson.agrees b.toJson = true) :
    a.name = b.name := by
  have ha := toJson_ofRow a.name a.toRow
  have hb := toJson_ofRow b.name b.toRow
  rw [ofRow_toRow] at ha hb
  rw [ha, hb, Json.agrees, Bool.and_eq_true, Json.agreesMembers_iff] at h
  obtain ⟨other, hother, hlabel⟩ := h.2 "name" _ List.mem_cons_self
  obtain rfl := Option.some.inj hother
  exact IndicatorName.label_inj.mp (Json.agrees_string.mp hlabel)

/-- **An indicator is equal exactly if what it is written as agrees.** -/
theorem faithfulAt (indicator : Indicator) :
    FaithfulAt floats (fun a b => a.toJson.agrees b.toJson = true) indicator := by
  obtain ⟨row, hrow⟩ := exists_ofRow (rfl : indicator.name = indicator.name)
  generalize indicator.name = name at row hrow
  subst hrow
  have hnames : (fieldNames (fields name)).Nodup :=
    EntityKind.nodup_fieldNames (.element (.indicator name))
  have hliterature : (FieldType.element .literature).Faithful := Literature.faithfulAt
  have hfields : ∀ field ∈ fields name, field.content.type.Faithful := by
    cases name <;>
      simp [fields, commonFields, Content.type, FieldType.faithful_text, FieldType.faithful_number,
        FieldType.faithful_reading, hliterature]
  -- what is equal has the same name, and so has what is written alike: it is made of a row too
  refine (Row.faithfulAt hnames hfields row).of_constructor (beq_ofRow name) ?_
    (mem_floats_ofRow name) (agrees_ofRow name) ?_
  · exact fun a b h => exists_ofRow ((name_eq_of_beq h).symm.trans (name_ofRow name a))
  · exact fun a b h => exists_ofRow ((name_eq_of_agrees h).symm.trans (name_ofRow name a))

end Indicator

/-! ### What has indicators -/

theorem Description.faithfulAt (description : Description) :
    FaithfulAt Description.floats (fun a b => a.toJson.agrees b.toJson = true) description := by
  have hindicator (name : IndicatorName) : (FieldType.element (.indicator name)).Faithful :=
    Indicator.faithfulAt
  refine @EntityKind.faithfulAt_of_row (.element .description) _ _ _ toRow _ ?_ ?_ ?_ ?_ description
  · simp [EntityKind.fields, ElementKind.fields, fields, Content.type, Slot.toField,
      FieldType.faithful_text, FieldType.faithful_number, hindicator]
  · exact fun a b => rfl
  · intro a x
    simp [EntityKind.fields, ElementKind.fields, fields, toRow, floats, Slot.toField, Row.floats,
      Content.floats, FieldType.floats, ElementKind.floats]
  · exact fun a => toJson_ofRow a.toRow

theorem Characterization.faithfulAt (parameters : Characterization) :
    FaithfulAt Characterization.floats (fun a b => a.toJson.agrees b.toJson = true) parameters := by
  have hindicator (name : IndicatorName) : (FieldType.element (.indicator name)).Faithful :=
    Indicator.faithfulAt
  have hprofile : (FieldType.element .profile).Faithful := VelocityProfile.faithfulAt
  refine @EntityKind.faithfulAt_of_row (.element .characterization) _ _ _ toRow _ ?_ ?_ ?_ ?_ parameters
  · simp [EntityKind.fields, ElementKind.fields, fields, Content.type, Slot.toField,
      FieldType.faithful_text, FieldType.faithful_integer, hindicator, hprofile]
  · exact fun a b => rfl
  · intro a x
    simp [EntityKind.fields, ElementKind.fields, fields, toRow, floats, Slot.toField, Row.floats,
      Content.floats, FieldType.floats, ElementKind.floats]
  · exact fun a => toJson_ofRow a.toRow

theorem Site.faithfulAt (site : Site) :
    FaithfulAt Site.floats (fun a b => a.toJson.agrees b.toJson = true) site := by
  have hdescription : (FieldType.element .description).Faithful := Description.faithfulAt
  have hcharacterization : (FieldType.element .characterization).Faithful := Characterization.faithfulAt
  refine @EntityKind.faithfulAt_of_row .site _ _ _ toRow _ ?_ ?_ ?_ ?_ site
  · simp [EntityKind.fields, fields, Content.type, FieldType.faithful_text,
      FieldType.faithful_number, hdescription, hcharacterization]
  · exact fun a b => rfl
  · intro a x
    simp [EntityKind.fields, fields, toRow, floats, Row.floats, Content.floats, FieldType.floats,
      ElementKind.floats]
  · exact fun a => toJson_ofRow a.toRow

end SeismicSite
