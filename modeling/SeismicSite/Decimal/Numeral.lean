/-!
# Numerals

A numeral is a number as it is spelled: a sign, the digits before the
point, those behind it, and a power of ten. `Numeral.scan` splits the
longest numeral off a text; what number it stands for is decided
elsewhere. A numeral has no leading zeros, no leading `+`, and at least
one digit on either side of its point.
-/

namespace SeismicSite

/-- The power of ten of a numeral. -/
structure PowerOfTen where
  negative : Bool
  digits : List Nat

/-- The parts of a numeral; digits are given by their values. -/
structure Numeral where
  negative : Bool
  whole : List Nat
  fraction : Option (List Nat)
  power : Option PowerOfTen

namespace Numeral

/-- The value of a decimal digit. -/
def digit? (c : Char) : Option Nat :=
  if '0' ≤ c ∧ c ≤ '9' then some (c.toNat - 48) else none

/-- The digits at the front of a text and what follows them. -/
def digits : List Char → List Nat × List Char
  | [] => ([], [])
  | c :: rest =>
    match digit? c with
    | some value =>
      let (values, left) := digits rest
      (value :: values, left)
    | none => ([], c :: rest)

/-- The digits at the front of a text, of which there must be one. -/
def someDigits (text : List Char) : Option (List Nat × List Char) :=
  match digits text with
  | ([], _) => none
  | found => some found

/-- The whole part: a zero alone, or digits that do not start with zero. -/
def scanWhole (text : List Char) : Option (List Nat × List Char) :=
  match digits text with
  | ([], _) => none
  | (0 :: _ :: _, _) => none
  | found => some found

/-- The fraction, if a point follows. -/
def scanFraction : List Char → Option (Option (List Nat) × List Char)
  | '.' :: rest => (someDigits rest).map fun (values, left) => (some values, left)
  | text => some (none, text)

/-- The sign and the digits of a power of ten. -/
def scanSignedPower (text : List Char) : Option (PowerOfTen × List Char) :=
  let (negative, unsigned) :=
    match text with
    | '-' :: rest => (true, rest)
    | '+' :: rest => (false, rest)
    | rest => (false, rest)
  (someDigits unsigned).map fun (values, left) => (⟨negative, values⟩, left)

/-- The power of ten, if an `e` follows. -/
def scanPower : List Char → Option (Option PowerOfTen × List Char)
  | [] => some (none, [])
  | c :: rest =>
    if c = 'e' ∨ c = 'E' then (scanSignedPower rest).map fun (power, left) => (some power, left)
    else some (none, c :: rest)

/-- The numeral at the front of a text and what follows it. -/
def scan (text : List Char) : Option (Numeral × List Char) := do
  let (negative, unsigned) :=
    match text with
    | '-' :: rest => (true, rest)
    | rest => (false, rest)
  let (whole, afterWhole) ← scanWhole unsigned
  let (fraction, afterFraction) ← scanFraction afterWhole
  let (power, left) ← scanPower afterFraction
  return (⟨negative, whole, fraction, power⟩, left)

/-! ## What the parts stand for -/

/-- The number that digits spell. -/
def valueOf (digits : List Nat) : Nat :=
  digits.foldl (fun value digit => 10 * value + digit) 0

/-- The exponent of the power of ten, zero if there is none. -/
def exponent (numeral : Numeral) : Int :=
  match numeral.power with
  | none => 0
  | some power => if power.negative then -valueOf power.digits else valueOf power.digits

/-- The digits behind the point. -/
def fractionDigits (numeral : Numeral) : List Nat :=
  numeral.fraction.getD []

/-- The float nearest to a numeral. -/
def nearest (numeral : Numeral) : Float :=
  let digits := valueOf (numeral.whole ++ numeral.fractionDigits)
  let exponent := numeral.exponent - numeral.fractionDigits.length
  let magnitude := Float.ofScientific digits (exponent < 0) exponent.natAbs
  if numeral.negative then -magnitude else magnitude

end Numeral

/-- The float that a text spells: a numeral, or one of the words that
`displayFloat` uses. -/
def readFloat? (text : String) : Option Float :=
  match text with
  | "NaN" => some (0.0 / 0.0)
  | "inf" => some (1.0 / 0.0)
  | "-inf" => some (-1.0 / 0.0)
  | _ =>
    match Numeral.scan text.toList with
    | some (numeral, []) => some numeral.nearest
    | _ => none

end SeismicSite
