import GroupScript.Decimal.Digits

/-!
# Reading decimal fractions

A decimal is an optional sign, digits with an optional point among or around them, and an optional
exponent.  It denotes the floating-point number nearest to it.  The words for infinity and for no number
are read in any case.  An exponent that reaches a limit is complete there, whatever digits follow.
-/

namespace GroupScript.Decimal

/-- The floating-point number nearest to the number that some digits denote, times a power of ten.  Magnitudes
far outside the range of floating-point numbers are settled without computing the power. -/
def nearestFloat (shown : List Char) (exponent : Int) : Float :=
  let significant := shown.dropWhile (· == '0')
  let magnitude := (significant.length : Int) + exponent
  if significant.isEmpty then 0.0
  else if 400 < magnitude then 1.0 / 0.0
  else if magnitude < -400 then 0.0
  else if 0 ≤ exponent then Float.ofScientific (value significant) false exponent.toNat
  else Float.ofScientific (value significant) true (-exponent).toNat

/-- Where an exponent is complete. -/
def exponentLimit : Nat := Nat.pow 2 16

/-- The exponent so far with one more digit, which counts only below the limit. -/
def exponentStep (total : Nat) (c : Char) : Nat :=
  if total < exponentLimit then 10 * total + digitValue c else total

/-- The number that the digits of an exponent denote. -/
def exponentValue (text : List Char) : Nat :=
  text.foldl exponentStep 0

/-- Reads the exponent part of a decimal, which may be absent. -/
def readExponent? : List Char → Option Int
  | [] => some 0
  | mark :: text =>
      if mark == 'e' || mark == 'E' then
        let (negative, shown) := takeSign text
        if shown.isEmpty || !shown.all isDigit then none
        else some (if negative then -(exponentValue shown : Int) else exponentValue shown)
      else none

/-- Reads digits with an optional point and an optional exponent. -/
def readUnsigned? (text : List Char) : Option Float :=
  let whole := text.takeWhile isDigit
  let afterWhole := text.dropWhile isDigit
  let (fraction, rest) :=
    match afterWhole with
    | '.' :: tail => (tail.takeWhile isDigit, tail.dropWhile isDigit)
    | tail => ([], tail)
  if whole.isEmpty && fraction.isEmpty then none
  else
    (readExponent? rest).map fun exponent =>
      nearestFloat (whole ++ fraction) (exponent - fraction.length)

/-- The words for a number without end and for no number, in lower case. -/
def readWord? (text : List Char) : Option Float :=
  let word := String.ofList (text.map Char.toLower)
  if word == "inf" || word == "infinity" then some (1.0 / 0.0)
  else if word == "nan" then some (0.0 / 0.0)
  else none

/-- Reads a floating-point number. -/
def readFloat? (text : List Char) : Option Float :=
  let (negative, rest) := takeSign text
  let magnitude := (readWord? rest).orElse fun _ => readUnsigned? rest
  magnitude.map fun x => if negative then -x else x

end GroupScript.Decimal
