import SeismicSite.Decimal.Shortest
/-!
# Layouts of decimals

A layout fixes how the digits of a decimal are written: when the point
stands at its place and when a power of ten is split off, and whether a
whole number shows a point. There are two: `display` for summaries and
`document` for numbers in documents.
-/

namespace SeismicSite

/-- A way to write decimals. -/
structure Layout where
  /-- Whether a number of the size `d.ddd * 10 ^ e` is written in full. -/
  inFull : (e : Int) → Bool
  /-- Whether a whole number written in full ends in `.0`. -/
  pointOnWhole : Bool

namespace Layout

/-- Every number in full, whole ones without a point. -/
def display : Layout where
  inFull _ := true
  pointOnWhole := false

/-- From `10 ^ -5` up to `10 ^ 16` in full and with a point, else by a
power of ten. -/
def document : Layout where
  inFull e := -5 ≤ e && e ≤ 15
  pointOnWhole := true

/-- The digits with the point after the first `places` of them; the gap
between the digits and the point is filled with zeros. -/
def positional (layout : Layout) (digits : List Char) (places : Int) : List Char :=
  let gap := places - digits.length
  if 0 ≤ gap then
    digits ++ List.replicate gap.toNat '0' ++ (if layout.pointOnWhole then ['.', '0'] else [])
  else if 0 < places then
    digits.take places.toNat ++ '.' :: digits.drop places.toNat
  else
    '0' :: '.' :: (List.replicate (-places).toNat '0' ++ digits)

/-- The first digit, the point if more follow, and the power of ten with
its sign. -/
def scientific (digits : List Char) (e : Int) : List Char :=
  let fraction := digits.drop 1
  digits.take 1 ++ (if fraction.isEmpty then [] else '.' :: fraction)
    ++ 'e' :: (if e < 0 then '-' else '+') :: Nat.toDigits 10 e.natAbs

/-- A decimal, written. -/
def write (layout : Layout) (decimal : Decimal) : List Char :=
  let digits := Nat.toDigits 10 decimal.digits
  let places := decimal.exponent + digits.length
  if layout.inFull (places - 1) then layout.positional digits places
  else scientific digits (places - 1)

/-- A finite float, written with its shortest digits; a negative sign is
kept on zero too. -/
def writeFloat (layout : Layout) (x : Float) : String :=
  let sign := if x.toBits < 0x8000000000000000 then [] else ['-']
  String.ofList (sign ++ layout.write (.ofFloat x))

end Layout

/-- A float as summaries show it. -/
def displayFloat (x : Float) : String :=
  if x.isNaN then "NaN"
  else if x.isFinite then Layout.display.writeFloat x
  else if x < 0 then "-inf"
  else "inf"

end SeismicSite
