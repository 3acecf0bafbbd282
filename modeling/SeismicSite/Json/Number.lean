import SeismicSite.Decimal.Numeral
import SeismicSite.Json.Basic
/-!
# Numbers of a JSON text

What number a numeral stands for. One without a point and a power of ten
that fits 64 bits is that whole number; negative zero is a float, since no
integer is. Any other is a float: as many leading digits as fit an unsigned
64-bit significand are taken, and the significand is scaled by a power of
ten in float arithmetic. A numeral beyond the floats has no value.
-/

namespace SeismicSite

/-- A number as a 64-bit significand and a power of ten. -/
structure Significand where
  value : Nat
  exponent : Int

namespace Significand

/-- Appends digits to a significand as long as it stays below `2 ^ 64`; the
second component is the digits that are left. -/
def gather : List Nat → Nat → Nat × List Nat
  | [], value => (value, [])
  | digit :: digits, value =>
    if 10 * value + digit < UInt64.size then gather digits (10 * value + digit)
    else (value, digit :: digits)

/-- The significand of a numeral. A digit left over before the point
counts as a power of ten; one left over behind it is dropped. -/
def ofNumeral (numeral : Numeral) : Significand :=
  let (whole, leftWhole) := gather numeral.whole 0
  let (value, leftFraction) := gather numeral.fractionDigits whole
  let places : Int := numeral.fractionDigits.length - leftFraction.length
  ⟨value, leftWhole.length - places + numeral.exponent⟩

/-- The float nearest to a power of ten. -/
def tenTo (exponent : Nat) : Float :=
  Float.ofScientific 1 false exponent

/-- Divides a float by `10 ^ exponent`, in steps that each divide by a
power of ten that is a float. -/
def scaleDown (x : Float) (exponent : Nat) : Float :=
  if exponent ≤ 308 then x / tenTo exponent
  else if x == 0 then x
  else scaleDown (x / tenTo 308) (exponent - 308)
termination_by exponent

/-- Multiplies a float by `10 ^ exponent`; none if the power of ten is no
float and there is something to scale. -/
def scaleUp? (x : Float) (exponent : Nat) : Option Float :=
  if exponent ≤ 308 then some (x * tenTo exponent)
  else if x == 0 then some x
  else none

/-- The float that a significand stands for, if it is within range. -/
def toFloat? (s : Significand) : Option Float :=
  let x := Float.ofNat s.value
  if 0 ≤ s.exponent then scaleUp? x s.exponent.toNat
  else some (scaleDown x s.exponent.natAbs)

end Significand

namespace JsonNumber

/-- The whole number, if it fits 64 bits with a sign. -/
def toInt64? : JsonNumber → Option Int64
  | integer value _ _ => if value ≤ Int64.maxValue.toInt then some (.ofInt value) else none
  | float _ _ => none

/-- The float nearest to the number. -/
def toFloat? : JsonNumber → Option Float
  | integer value _ _ => some (.ofInt value)
  | float value _ => some value

/-- A finite float as a number. -/
def ofFloat? (x : Float) : Option JsonNumber :=
  if finite : x.isFinite = true then some (.float x finite) else none

/-- A whole number that fits 64 bits. -/
def ofInt? (n : Int) : Option JsonNumber :=
  if bounds : Int64.minValue.toInt ≤ n ∧ n < UInt64.size then
    some (.integer n bounds.1 bounds.2)
  else none

/-- The whole number that a numeral spells, if it is spelled as one, fits
64 bits and is not negative zero. -/
def whole? (numeral : Numeral) : Option JsonNumber :=
  match numeral with
  | ⟨negative, digits, none, none⟩ =>
    let magnitude := Numeral.valueOf digits
    if negative then
      if magnitude = 0 then none else ofInt? (-magnitude)
    else ofInt? magnitude
  | _ => none

/-- The number that a numeral stands for. -/
def ofNumeral? (numeral : Numeral) : Option JsonNumber :=
  match whole? numeral with
  | some number => some number
  | none => do
    let magnitude ← (Significand.ofNumeral numeral).toFloat?
    ofFloat? (if numeral.negative then -magnitude else magnitude)

end JsonNumber

end SeismicSite
