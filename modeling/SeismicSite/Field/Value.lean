import SeismicSite.Entity.Site
/-!
# Field values

What a document reader finds in a field: a text, a number, a list, or an
element that has been built already. Values are compared part by part and
floats as numbers.
-/

namespace SeismicSite

/-- An entity that may stand inside another one. -/
inductive Element where
  | literature (source : Literature)
  | indicator (indicator : Indicator)
  | layer (layer : VelocityLayer)
  | profile (profile : VelocityProfile)
  | description (description : Description)
  | characterization (parameters : Characterization)
  deriving BEq

/-- The kind of an element; an indicator's follows from its name. -/
def Element.kind : Element → ElementKind
  | literature _ => .literature
  | indicator value => .indicator value.name
  | layer _ => .layer
  | profile _ => .profile
  | description _ => .description
  | characterization _ => .characterization

/-- The content of a field as a reader hands it over. -/
inductive FieldValue where
  | text (value : String)
  | float (value : Float)
  | integer (value : Int64)
  | list (items : List FieldValue)
  | element (value : Element)

namespace FieldValue

/-- The kind of a field value. -/
def kind : FieldValue → ValueKind
  | text _ => .text
  | float _ => .float
  | integer _ => .integer
  | list _ => .list
  | element value => .entity (.element value.kind)

instance : HasKind FieldValue where
  kind := kind

section

variable {value : FieldValue}

theorem kind_eq_text : value.kind = .text ↔ ∃ s, value = .text s := by
  cases value <;> simp [kind]

theorem kind_eq_float : value.kind = .float ↔ ∃ x, value = .float x := by
  cases value <;> simp [kind]

theorem kind_eq_integer : value.kind = .integer ↔ ∃ n, value = .integer n := by
  cases value <;> simp [kind]

theorem kind_eq_list : value.kind = .list ↔ ∃ items, value = .list items := by
  cases value <;> simp [kind]

theorem kind_eq_entity {entity : EntityKind} :
    value.kind = .entity entity ↔ ∃ one, value = .element one ∧ entity = .element one.kind := by
  cases value <;> simp [kind, eq_comm]

end

/-! ## Equality

Values are compared part by part and floats as numbers: zero equals its
negative, and a NaN equals nothing. An integer never equals a float. -/

mutual

/-- Equality of two values. -/
def beq : FieldValue → FieldValue → Bool
  | text a, text b => a == b
  | float a, float b => a == b
  | integer a, integer b => a == b
  | list a, list b => beqList a b
  | element a, element b => a == b
  | _, _ => false

/-- Equality of two lists of values, item by item. -/
def beqList : List FieldValue → List FieldValue → Bool
  | [], [] => true
  | a :: as, b :: bs => beq a b && beqList as bs
  | _, _ => false

end

instance : BEq FieldValue where
  beq := beq

end FieldValue

end SeismicSite
