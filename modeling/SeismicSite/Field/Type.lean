import SeismicSite.Field.Value
/-!
# Types of field values

A `FieldType` names what one value of a field can be asked to be, with the
kinds of value it accepts and the contents it stands for. `unwrap` gives
the content of a value or hands the value back unchanged, and `wrap` is the
way in.
-/

namespace SeismicSite

/-- The values of an element kind. -/
@[reducible] def ElementKind.Carrier : ElementKind → Type
  | literature => Literature
  | indicator _ => Indicator
  | layer => VelocityLayer
  | profile => VelocityProfile
  | description => Description
  | characterization => Characterization

/-- The element that a value of an element kind is. -/
def ElementKind.toElement : (kind : ElementKind) → kind.Carrier → Element
  | literature, value => .literature value
  | indicator _, value => .indicator value
  | layer, value => .layer value
  | profile, value => .profile value
  | description, value => .description value
  | characterization, value => .characterization value

/-- What one value of a field is asked to be. -/
inductive FieldType where
  | text
  /-- A float; an integer is widened. -/
  | number
  | integer
  /-- An integer that fits signed 32 bits. -/
  | year
  /-- The value of an indicator: a number or a text. -/
  | reading
  | element (kind : ElementKind)
  deriving DecidableEq

namespace FieldType

/-- The contents that a type stands for. -/
@[reducible] def Carrier : FieldType → Type
  | text => String
  | number => Float
  | integer => Int64
  | year => Int32
  | reading => IndicatorValue
  | element kind => kind.Carrier

/-- The kinds that a field of the type accepts, in the order in which an
error lists them. -/
def expected : FieldType → List ValueKind
  | text => [.text]
  | number => [.float, .integer]
  | integer => [.integer]
  | year => [.integer]
  | reading => [.float, .integer, .text]
  | element kind => [.entity (.element kind)]

/-- The float nearest to an integer; a tie goes to the even one. -/
def widen (n : Int64) : Float :=
  Float.ofInt n.toInt

/-- The integer as a signed 32-bit number, if it fits. -/
def narrow? (n : Int64) : Option Int32 :=
  if Int32.minValue.toInt ≤ n.toInt ∧ n.toInt ≤ Int32.maxValue.toInt then
    some (Int32.ofInt n.toInt)
  else none

/-- The content of a value, or the value itself where it has none of the
type. An indicator of any name is content of an indicator type. -/
def unwrap : (type : FieldType) → FieldValue → Except FieldValue type.Carrier
  | text, .text value => .ok value
  | number, .float value => .ok value
  | number, .integer value => .ok (widen value)
  | integer, .integer value => .ok value
  | year, .integer value =>
    match narrow? value with
    | some fitting => .ok fitting
    | none => .error (.integer value)
  | reading, .text value => .ok (.text value)
  | reading, .float value => .ok (.number value)
  | reading, .integer value => .ok (.number (widen value))
  | element .literature, .element (.literature value) => .ok value
  | element (.indicator _), .element (.indicator value) => .ok value
  | element .layer, .element (.layer value) => .ok value
  | element .profile, .element (.profile value) => .ok value
  | element .description, .element (.description value) => .ok value
  | element .characterization, .element (.characterization value) => .ok value
  | _, value => .error value

/-- The field value that holds a content. -/
def wrap : (type : FieldType) → type.Carrier → FieldValue
  | text, value => .text value
  | number, value => .float value
  | integer, value => .integer value
  | year, value => .integer value.toInt64
  | reading, .number value => .float value
  | reading, .text value => .text value
  | element kind, value => .element (kind.toElement value)

end FieldType

end SeismicSite
