import SeismicSite.Proofs.Document.Equality
/-!
# Equality and content

Equality of field values, in lists of any depth, and of sites is that of the floats in
them. For entities of finite floats it is agreement of what they are written as: neither
tells more than the other.
-/

namespace SeismicSite

/-! ## Field values -/

/-- The floats of an element. -/
def Element.floats : Element → List Float
  | literature _ => []
  | indicator value => value.floats
  | layer value => value.floats
  | profile value => value.floats
  | description value => value.floats
  | characterization value => value.floats

namespace ElementKind

variable {kind : ElementKind}

theorem floats_toElement (value : kind.Carrier) : (kind.toElement value).floats = kind.floats value := by
  cases kind <;> rfl

/-- Elements of a kind are compared as the entities that they are. -/
theorem beq_toElement (a b : kind.Carrier) : (kind.toElement a == kind.toElement b) = (a == b) := by
  cases kind <;> rfl

/-- An element equals none but those of its kind. -/
theorem exists_toElement_of_beq {a : kind.Carrier} {made : Element}
    (h : (kind.toElement a == made) = true) : ∃ b, made = kind.toElement b := by
  cases kind <;> cases made <;> first | exact ⟨_, rfl⟩ | cases h

theorem equalityAt (value : kind.Carrier) : EqualityAt kind.floats value := by
  cases kind with
  | literature => exact (Literature.faithfulAt value).toEqualityAt
  | indicator name => exact (Indicator.faithfulAt value).toEqualityAt
  | layer => exact (VelocityLayer.faithfulAt value).toEqualityAt
  | profile => exact (VelocityProfile.faithfulAt value).toEqualityAt
  | description => exact (Description.faithfulAt value).toEqualityAt
  | characterization => exact (Characterization.faithfulAt value).toEqualityAt

end ElementKind

namespace Element

theorem exists_eq_toElement (element : Element) :
    ∃ value : element.kind.Carrier, element = element.kind.toElement value := by
  cases element <;> exact ⟨_, rfl⟩

/-- An element is compared as the entity that it is. -/
theorem equalityAt (element : Element) : EqualityAt floats element := by
  obtain ⟨value, hvalue⟩ := element.exists_eq_toElement
  rw [hvalue]
  exact (ElementKind.equalityAt value).of_constructor ElementKind.beq_toElement
    (fun _ _ => ElementKind.exists_toElement_of_beq)
    (fun a _ => by rw [ElementKind.floats_toElement])

/-- Elements that are equal have the same kind. -/
theorem kind_eq_of_beq {a b : Element} (h : (a == b) = true) : a.kind = b.kind := by
  cases a <;> cases b <;>
    first | rfl | exact congrArg ElementKind.indicator (Indicator.name_eq_of_beq h) | cases h

end Element

namespace FieldValue

/-- **Induction on field values**, with the hypothesis at every item of a list. -/
theorem induct {motive : FieldValue → Prop} (text : ∀ s, motive (text s))
    (float : ∀ x, motive (float x)) (integer : ∀ n, motive (integer n))
    (list : ∀ items, (∀ item ∈ items, motive item) → motive (list items))
    (element : ∀ one, motive (element one)) : ∀ value, motive value
  | .text s => text s
  | .float x => float x
  | .integer n => integer n
  | .list items => list items fun item _ => induct text float integer list element item
  | .element one => element one
termination_by value => sizeOf value
decreasing_by
  have := List.sizeOf_lt_of_mem ‹item ∈ items›
  simp only [FieldValue.list.sizeOf_spec]
  omega

mutual

/-- **All floats of a field value**, in lists of any depth. -/
def floats : FieldValue → List Float
  | float x => [x]
  | list items => floatsOfItems items
  | element one => one.floats
  | _ => []

/-- The floats of all items. -/
def floatsOfItems : List FieldValue → List Float
  | [] => []
  | item :: items => floats item ++ floatsOfItems items

end

theorem floatsOfItems_eq {items : List FieldValue} : floatsOfItems items = items.flatMap floats := by
  induction items with
  | nil => rfl
  | cons item items ih => rw [floatsOfItems, ih, List.flatMap_cons]

/-- Lists of values are compared item by item. -/
theorem beq_list (as bs : List FieldValue) : (list as == list bs) = (as == bs) := by
  change beqList as bs = _
  induction as generalizing bs with
  | nil => cases bs <;> rfl
  | cons a as ih =>
    cases bs with
    | nil => rfl
    | cons b bs =>
      rw [beqList, ih, List.cons_beq_cons]
      rfl

/-- **Values that are equal have the same kind**, elements that of their entity. -/
theorem kind_eq_of_beq {a b : FieldValue} (h : (a == b) = true) : b.kind = a.kind := by
  cases a with
  | element one =>
    cases b with
    | element other => rw [kind, kind, Element.kind_eq_of_beq h]
    | _ => cases h
  | _ => cases b <;> first | rfl | cases h

/-- **Equality of field values has the laws of the floats in them.** -/
theorem equalityAt (value : FieldValue) : EqualityAt floats value := by
  induction value using induct with
  | text s =>
    have htext : FaithfulAt (fun _ => []) (fun a b => a = b) s := .of_lawful fun _ => Iff.rfl
    exact htext.toEqualityAt.of_constructor (fun _ _ => rfl)
      (fun _ _ h => kind_eq_text.mp (kind_eq_of_beq h)) (fun _ _ => by simp [floats])
  | float x =>
    exact (EqualityAt.float x).of_constructor (fun _ _ => rfl)
      (fun _ _ h => kind_eq_float.mp (kind_eq_of_beq h)) (fun _ _ => by simp [floats])
  | integer n =>
    have hinteger : FaithfulAt (fun _ => []) (fun a b => a = b) n := .of_lawful fun _ => Iff.rfl
    exact hinteger.toEqualityAt.of_constructor (fun _ _ => rfl)
      (fun _ _ h => kind_eq_integer.mp (kind_eq_of_beq h)) (fun _ _ => by simp [floats])
  | list items ih =>
    exact (EqualityAt.list ih).of_constructor beq_list
      (fun _ _ h => kind_eq_list.mp (kind_eq_of_beq h))
      (fun _ _ => by rw [floats, floatsOfItems_eq])
  | element one =>
    refine one.equalityAt.of_constructor (fun _ _ => rfl) (fun _ _ h => ?_)
      (fun _ _ => by rw [floats])
    obtain ⟨other, rfl, -⟩ := kind_eq_entity.mp (kind_eq_of_beq h)
    exact ⟨other, rfl⟩

end FieldValue

/-! ## Entities and what they are written as -/

/-- Values whose floats are all finite are equal exactly if what they are written as
agrees. -/
def EqualAsWritten {α : Type} [BEq α] (floats : α → List Float) (written : α → Json) : Prop :=
  ∀ a b, (∀ x ∈ floats a, x.isFinite = true) → (∀ x ∈ floats b, x.isFinite = true) →
    ((a == b) = true ↔ (written a).agrees (written b) = true)

/-- A value is equal as it is written if its equality is faithful. -/
theorem EqualAsWritten.of_faithfulAt {α : Type} [BEq α] {floats : α → List Float}
    {written : α → Json}
    (h : ∀ a, FaithfulAt floats (fun a b => (written a).agrees (written b) = true) a) :
    EqualAsWritten floats written :=
  fun a b ha hb => (h a).iff_same ha b hb

/-- **Equality and writing see the same content.** Entities of every type, as long as
their floats are finite, are equal exactly if what they are written as agrees. Equality
of field values, in lists of any depth, and of sites, of whatever floats, is symmetric
and transitive, and a value equals itself exactly if no float in it is a NaN. -/
theorem equality_sees_what_is_written :
    EqualAsWritten (fun _ => []) Literature.toJson ∧
      EqualAsWritten VelocityLayer.floats VelocityLayer.toJson ∧
      EqualAsWritten VelocityProfile.floats VelocityProfile.toJson ∧
      EqualAsWritten Indicator.floats Indicator.toJson ∧
      EqualAsWritten Description.floats Description.toJson ∧
      EqualAsWritten Characterization.floats Characterization.toJson ∧
      EqualAsWritten Site.floats Site.toJson ∧
      (∀ a b : FieldValue, (a == b) = true → (b == a) = true) ∧
      (∀ a b c : FieldValue, (a == b) = true → (b == c) = true → (a == c) = true) ∧
      (∀ a : FieldValue, (a == a) = true ↔ ∀ x ∈ a.floats, x.isNaN = false) ∧
      (∀ a b : Site, (a == b) = true → (b == a) = true) ∧
      (∀ a b c : Site, (a == b) = true → (b == c) = true → (a == c) = true) ∧
      ∀ a : Site, (a == a) = true ↔ ∀ x ∈ a.floats, x.isNaN = false :=
  ⟨.of_faithfulAt Literature.faithfulAt, .of_faithfulAt VelocityLayer.faithfulAt,
    .of_faithfulAt VelocityProfile.faithfulAt, .of_faithfulAt Indicator.faithfulAt,
    .of_faithfulAt Description.faithfulAt, .of_faithfulAt Characterization.faithfulAt,
    .of_faithfulAt Site.faithfulAt, fun a _ h => a.equalityAt.symm h,
    fun a _ _ h h' => a.equalityAt.trans h h', fun a => a.equalityAt.self_iff,
    fun a _ h => (Site.faithfulAt a).symm h, fun a _ _ h h' => (Site.faithfulAt a).trans h h',
    fun a => (Site.faithfulAt a).self_iff⟩

/-- A site at sea, its altitude a zero of the given sign. -/
def atSea (altitude : Float) : Site where
  stationCode := "OBS1"
  description := some { latitude := 36.5, longitude := 15.75, altitude }

theorem equality_sees_what_is_written_at_sea :
    (∀ x ∈ (atSea 0.0).floats, x.isFinite = true) ∧ (∀ x ∈ (atSea (-0.0)).floats, x.isFinite = true) ∧
      (atSea 0.0).toJson.agrees (atSea (-0.0)).toJson = true ∧
      (∃ x ∈ FieldValue.floats (.list [.list [.float (0.0 / 0.0)]]), x.isNaN = true) ∧
      ¬ (FieldValue.list [.list [.float (0.0 / 0.0)]] == .list [.list [.float (0.0 / 0.0)]]) = true := by
  obtain ⟨-, -, -, -, -, -, hsite, -, -, hself, -⟩ := equality_sees_what_is_written
  have hplus : ∀ x ∈ (atSea 0.0).floats, x.isFinite = true := by decide
  have hminus : ∀ x ∈ (atSea (-0.0)).floats, x.isFinite = true := by decide
  have hequal : (atSea 0.0 == atSea (-0.0)) = true := by decide
  have hnan : (0.0 / 0.0 : Float).isNaN = true := by decide
  refine ⟨hplus, hminus, (hsite _ _ hplus hminus).mp hequal, ⟨0.0 / 0.0, List.mem_cons_self, hnan⟩, ?_⟩
  rw [hself]
  intro hall
  have hnot := hall (0.0 / 0.0) List.mem_cons_self
  rw [hnan] at hnot
  cases hnot

end SeismicSite
