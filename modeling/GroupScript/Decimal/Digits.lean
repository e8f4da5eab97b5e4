/-!
# Whole numbers in decimal

Natural numbers are written with the digits `0` to `9`, most significant first and without leading
zeros, and read back by the value of their digits.  Whole numbers of sixty-four bits carry a minus sign
when they are negative.
-/

namespace GroupScript.Decimal

/-- The digit character of a number below ten. -/
def digitChar (digit : Nat) : Char :=
  Char.ofNat ('0'.toNat + digit)

/-- The value of a digit character. -/
def digitValue (c : Char) : Nat :=
  c.toNat - '0'.toNat

/-- Whether a character is one of the ten decimal digits of ASCII. -/
def isDigit (c : Char) : Bool :=
  '0'.toNat ≤ c.toNat && c.toNat ≤ '9'.toNat

/-- The decimal digits of a natural number, most significant first. -/
def digits (n : Nat) : List Char :=
  if n < 10 then [digitChar n] else digits (n / 10) ++ [digitChar (n % 10)]
termination_by n

/-- The number that a list of digits denotes; no digits denote zero. -/
def value (text : List Char) : Nat :=
  text.foldl (fun total c => 10 * total + digitValue c) 0

/-- A whole number in decimal. -/
def integerText (n : Int) : List Char :=
  if n < 0 then '-' :: digits n.natAbs else digits n.natAbs

/-- The least whole number of sixty-four bits. -/
def minInteger : Int := -(Int.pow 2 63)

/-- The greatest whole number of sixty-four bits. -/
def maxInteger : Int := Int.pow 2 63 - 1

/-- The number as a word of sixty-four bits, if it fits. -/
def integer? (n : Int) : Option Int64 :=
  if minInteger ≤ n ∧ n ≤ maxInteger then some (Int64.ofInt n) else none

theorem toInt_of_integer? {n : Int} {word : Int64} (fits : integer? n = some word) : word.toInt = n := by
  unfold integer? at fits
  split at fits
  · rename_i within
    cases fits
    exact Int64.toInt_ofInt_of_le within.1 (Int.lt_of_le_sub_one within.2)
  · cases fits

theorem outside_of_integer? {n : Int} (overflow : integer? n = none) : n < minInteger ∨ maxInteger < n := by
  unfold integer? at overflow
  split at overflow
  · cases overflow
  · omega

/-- Splits an optional sign off a text; the flag says whether it is a minus. -/
def takeSign : List Char → Bool × List Char
  | '-' :: rest => (true, rest)
  | '+' :: rest => (false, rest)
  | text => (false, text)

/-- Reads an optional sign followed by at least one digit, if the number fits in sixty-four bits. -/
def readInteger? (text : List Char) : Option Int64 :=
  let (negative, rest) := takeSign text
  if rest.isEmpty || !rest.all isDigit then none
  else integer? (if negative then -(value rest : Int) else value rest)

end GroupScript.Decimal
