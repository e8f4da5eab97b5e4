import GroupScript.Decimal.Digits

/-!
# The shortest decimal of a floating-point number

Of all decimals that read back as a given floating-point number, the shortest is the one with the fewest
digits, and among those of equal length the one nearest to the number.  The number is taken apart into a
whole mantissa and a power of two; the decimals that read back as it form an interval around it whose ends
count when the mantissa is even.  The search walks from coarse to fine decimal grids and stops at the first
grid with a point in the interval.  All comparisons are made in exact natural-number arithmetic.
-/

namespace GroupScript.Decimal

/-- A decimal `digits * 10 ^ exponent`. -/
structure Scaled where
  digits : Nat
  exponent : Int

/-- The numbers that round to one floating-point number, as multiples of one unit.  All three are
numerators over `denominator`; the ends belong to the interval if `closed` is set. -/
structure Interval where
  low : Nat
  middle : Nat
  high : Nat
  denominator : Nat
  closed : Bool

/-- The interval of the number `mantissa * 2 ^ exponent`.  Below a power of two the numbers lie twice as
dense, unless the exponent is the least one, `minExponent`. -/
def interval (mantissa : Nat) (exponent minExponent : Int) : Interval :=
  let scale := Nat.pow 2 (exponent - 2).toNat
  let atPower := mantissa == Nat.pow 2 52 && exponent != minExponent
  { low := (4 * mantissa - (if atPower then 1 else 2)) * scale
    middle := 4 * mantissa * scale
    high := (4 * mantissa + 2) * scale
    denominator := Nat.pow 2 (2 - exponent).toNat
    closed := mantissa % 2 == 0 }

/-- Whether `numerator / denominator` lies in an interval with that denominator. -/
def Interval.holds (range : Interval) (numerator : Nat) : Bool :=
  if range.closed then range.low ≤ numerator && numerator ≤ range.high
  else range.low < numerator && numerator < range.high

/-- The interval with all its numbers divided by `10 ^ exponent`. -/
def Interval.scaleDown (range : Interval) (exponent : Int) : Interval :=
  let up := Nat.pow 10 (-exponent).toNat
  { low := range.low * up
    middle := range.middle * up
    high := range.high * up
    denominator := range.denominator * Nat.pow 10 exponent.toNat
    closed := range.closed }

/-- The whole number in an interval that is nearest to its middle, if one of the two neighbours of the
middle lies in it and is not zero.  Of two that are equally near the greater one is taken. -/
def Interval.nearestWhole? (range : Interval) : Option Nat :=
  let below := range.middle / range.denominator
  let lowOk := below != 0 && range.holds (below * range.denominator)
  let highOk := range.holds ((below + 1) * range.denominator)
  let nearerBelow :=
    2 * (range.middle - below * range.denominator) < range.denominator
  if lowOk && (nearerBelow || !highOk) then some below
  else if highOk then some (below + 1)
  else none

/-- Walks the grids `10 ^ exponent`, `10 ^ (exponent - 1)` and so on, for a given number of steps, and
takes the first point found; the last grid gives the decimal rounded down. -/
def firstOnGrid (range : Interval) : (steps : Nat) → (exponent : Int) → Scaled
  | 0, exponent =>
      let scaled := range.scaleDown exponent
      ⟨scaled.middle / scaled.denominator, exponent⟩
  | steps + 1, exponent =>
      match (range.scaleDown exponent).nearestWhole? with
      | some digits => ⟨digits, exponent⟩
      | none => firstOnGrid range steps (exponent - 1)

/-- The shortest decimal of `mantissa * 2 ^ exponent`, for a mantissa that is not zero.  The first grid is
coarser than the number, and twenty grids reach past seventeen digits. -/
def shortest (mantissa : Nat) (exponent minExponent : Int) : Scaled :=
  let magnitude := (Nat.log2 mantissa : Int) + exponent
  firstOnGrid (interval mantissa exponent minExponent) 20 (magnitude * 30103 / 100000 + 1)

/-- A decimal without an exponent: zeros are written where the digits do not reach the point, and the
fraction is left out if there is none. -/
def Scaled.text (decimal : Scaled) : List Char :=
  let shown := Decimal.digits decimal.digits
  if 0 ≤ decimal.exponent then
    shown ++ List.replicate decimal.exponent.toNat '0'
  else
    let places := (-decimal.exponent).toNat
    let padded := List.replicate (places + 1 - shown.length) '0' ++ shown
    let whole := padded.take (padded.length - places)
    let fraction := ((padded.drop (padded.length - places)).reverse.dropWhile (· == '0')).reverse
    if fraction.isEmpty then whole else whole ++ '.' :: fraction

/-- The exponent of the least floating-point numbers. -/
def minFloatExponent : Int := -1074

/-- The sign, mantissa and exponent of a finite floating-point number. -/
def parts (x : Float) : Bool × Nat × Int :=
  let bits := x.toBits.toNat
  let negative := bits / Nat.pow 2 63 == 1
  let biased := bits / Nat.pow 2 52 % Nat.pow 2 11
  let fraction := bits % Nat.pow 2 52
  if biased == 0 then (negative, fraction, minFloatExponent)
  else (negative, Nat.pow 2 52 + fraction, minFloatExponent + (biased - 1 : Nat))

/-- A floating-point number with the fewest digits that read back, never with an exponent. -/
def floatText (x : Float) : List Char :=
  if x.isNaN then ['N', 'a', 'N']
  else
    let (negative, mantissa, exponent) := parts x
    let shown :=
      if x.isInf then ['i', 'n', 'f']
      else if mantissa == 0 then ['0']
      else (shortest mantissa exponent minFloatExponent).text
    if negative then '-' :: shown else shown

/-- Whether a floating-point number is finite and has no fraction. -/
def isWhole (x : Float) : Bool :=
  x.isFinite && x.floor == x

/-- A floating-point number as a value is shown: whole numbers below `10 ^ 16` have one place after the
point, all others the fewest digits that read back. -/
def floatValueText (x : Float) : List Char :=
  if isWhole x && x.abs < 1e16 then floatText x ++ ['.', '0'] else floatText x

end GroupScript.Decimal
