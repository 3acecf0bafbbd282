/-!
# Shortest decimals

The shortest decimal of a float is the one with the fewest digits among
those that read back as the same float, and of those the nearest. It lies
on the coarsest grid of multiples of a power of ten that has a point in
the float's window, and there next to the value itself: so the search goes
from coarse grids to fine ones and looks at two points of each.
-/

namespace SeismicSite

/-! ## Magnitudes of floats

A finite 64-bit float is, up to its sign, a whole number times a power of
two. `Magnitude.window` gives the reals that round to it: they reach half
way to either neighbour, and the ends belong to it when its mantissa is
even, because a tie is rounded to the even neighbour. -/

/-- The value `mantissa * 2 ^ exponent` of a finite float without its
sign. -/
structure Magnitude where
  mantissa : Nat
  exponent : Int
  /-- The gap to the next smaller float is half the gap to the next
  greater one. -/
  closeBelow : Bool

/-- An interval around a point, all three numbers over one denominator. -/
structure Window where
  low : Nat
  point : Nat
  high : Nat
  denominator : Nat
  /-- The ends belong to the interval. -/
  closed : Bool

namespace Magnitude

/-- The magnitude of a finite float, read off its bits: 52 of fraction, 11
of exponent, and the sign. -/
def ofFloat (x : Float) : Magnitude :=
  let bits := x.toBits.toNat
  let fraction : Nat := bits % 0x10000000000000
  let biased : Nat := bits / 0x10000000000000 % 0x800
  if biased = 0 then ⟨fraction, -1074, false⟩
  else ⟨0x10000000000000 + fraction, (biased : Int) - 1075, fraction == 0 && biased > 1⟩

/-- The reals that round to the magnitude. In quarters of the last binary
place the value is four times the mantissa; a neighbour's half way point
is two quarters off, or one below a power of two. -/
def window (m : Magnitude) : Window :=
  let quarters := 4 * m.mantissa
  let scale := Nat.pow 2 (m.exponent - 2).toNat
  { low := (quarters - if m.closeBelow then 1 else 2) * scale
    point := quarters * scale
    high := (quarters + 2) * scale
    denominator := Nat.pow 2 (2 - m.exponent).toNat
    closed := m.mantissa % 2 == 0 }

end Magnitude

/-! ## The search -/

/-- The number `digits * 10 ^ exponent`. -/
structure Decimal where
  digits : Nat
  exponent : Int
  deriving DecidableEq

namespace Window

/-- Whether `numerator / divisor` lies in the window, the window's own
numbers being scaled by `scale`. -/
def holds (w : Window) (scale numerator : Nat) : Bool :=
  if w.closed then w.low * scale ≤ numerator && numerator ≤ w.high * scale
  else w.low * scale < numerator && numerator < w.high * scale

/-- The multiple of `10 ^ exponent` in the window that is nearest to its
point, given as the factor; only the two neighbours of the point can be
that. -/
def gridPoint? (w : Window) (exponent : Int) : Option Nat :=
  let scale := Nat.pow 10 (-exponent).toNat
  let unit := Nat.pow 10 exponent.toNat * w.denominator
  let point := w.point * scale
  let below := point / unit
  let above := below + 1
  match w.holds scale (below * unit), w.holds scale (above * unit) with
  | true, true => some (if point - below * unit ≤ above * unit - point then below else above)
  | true, false => some below
  | false, true => some above
  | false, false => none

/-- The first grid point met from the grid `10 ^ exponent` on, each grid
ten times finer than the one before. -/
def descend (w : Window) : (steps : Nat) → (exponent : Int) → Decimal
  | 0, exponent => ⟨w.point * Nat.pow 10 (-exponent).toNat / w.denominator, exponent⟩
  | steps + 1, exponent =>
    match w.gridPoint? exponent with
    | some factor => ⟨factor, exponent⟩
    | none => w.descend steps (exponent - 1)

/-- The shortest decimal in the window. The search starts above its upper
end and ends at the latest where the grid holds every float. -/
def shortest (w : Window) : Decimal :=
  let places := (Nat.toDigits 10 (w.high / w.denominator)).length
  w.descend (places + 1074) places

end Window

/-- The shortest decimal of a finite float, without its sign. -/
def Decimal.ofFloat (x : Float) : Decimal :=
  let magnitude := Magnitude.ofFloat x
  if magnitude.mantissa = 0 then ⟨0, 0⟩ else magnitude.window.shortest

end SeismicSite
