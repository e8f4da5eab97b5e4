import Mathlib
import GroupScript.Store.Access

/-!
# Exact arithmetic on whole numbers

Whole numbers are words of sixty-four bits, but their operators never wrap around.  Sums, differences and products are
computed without bounds and refused if they do not fit.  Quotients and remainders are computed in words: the machine
rounds toward zero, and a correction by one step makes the quotient the one rounded down and gives the remainder the
sign of the divisor.  The correction cannot leave the range, since a remainder other than zero takes a divisor of at
least two, and then the quotient is at most half the greatest number.
-/

namespace GroupScript.Value

/-- A quotient and a remainder, which lies between zero and the divisor. -/
structure FloorDivision (a b quotient remainder : Int) : Prop where
  total : a = b * quotient + remainder
  between : 0 ≤ remainder ∧ remainder < b ∨ b < remainder ∧ remainder ≤ 0

namespace FloorDivision

variable {a b quotient remainder : Int}

theorem divisor_ne_zero (division : FloorDivision a b quotient remainder) : b ≠ 0 := by
  have := division.between
  omega

/-- The quotient is the fraction rounded down. -/
theorem floor_eq (division : FloorDivision a b quotient remainder) : ⌊(a : ℚ) / b⌋ = quotient := by
  have nonzero : (b : ℚ) ≠ 0 := mod_cast division.divisor_ne_zero
  have fraction : (a : ℚ) / b = quotient + remainder / b := by
    rw [division.total]
    push_cast
    field_simp
  rw [Int.floor_eq_iff, fraction]
  rcases division.between with ⟨nonneg, less⟩ | ⟨greater, nonpos⟩
  · have positive : (0 : ℚ) < b := mod_cast lt_of_le_of_lt nonneg less
    have lower : (0 : ℚ) ≤ remainder / b := div_nonneg (mod_cast nonneg) positive.le
    have upper : (remainder : ℚ) / b < 1 := (div_lt_one positive).mpr (mod_cast less)
    constructor <;> linarith
  · have negative : (b : ℚ) < 0 := mod_cast lt_of_lt_of_le greater nonpos
    have lower : (0 : ℚ) ≤ remainder / b := div_nonneg_of_nonpos (mod_cast nonpos) negative.le
    have upper : (remainder : ℚ) / b < 1 := (div_lt_one_of_neg negative).mpr (mod_cast greater)
    constructor <;> linarith

theorem remainder_eq (division : FloorDivision a b quotient remainder) :
    remainder = a - b * ⌊(a : ℚ) / b⌋ := by
  have := division.total
  rw [division.floor_eq]
  omega

theorem abs_remainder_lt (division : FloorDivision a b quotient remainder) : |remainder| < |b| := by
  rcases division.between with ⟨nonneg, less⟩ | ⟨greater, nonpos⟩
  · rw [abs_of_nonneg nonneg, abs_of_nonneg (by omega)]
    exact less
  · rw [abs_of_nonpos nonpos, abs_of_nonpos (by omega)]
    omega

theorem sign_remainder (division : FloorDivision a b quotient remainder) :
    remainder = 0 ∨ remainder.sign = b.sign := by
  by_cases zero : remainder = 0
  · exact .inl zero
  · right
    rcases division.between with ⟨nonneg, less⟩ | ⟨greater, nonpos⟩
    · rw [Int.sign_eq_one_of_pos (by omega), Int.sign_eq_one_of_pos (by omega)]
    · rw [Int.sign_eq_neg_one_of_neg (by omega), Int.sign_eq_neg_one_of_neg (by omega)]

end FloorDivision

section Truncated

variable {a b : Int}

theorem tmod_nonpos (nonpos : a ≤ 0) : a.tmod b ≤ 0 := by
  have flipped : 0 ≤ (-a).tmod b := Int.tmod_nonneg b (by omega)
  rw [Int.neg_tmod] at flipped
  omega

theorem natAbs_tmod_lt (nonzero : b ≠ 0) : (a.tmod b).natAbs < b.natAbs := by
  rw [Int.natAbs_tmod]
  exact Nat.mod_lt _ (Int.natAbs_pos.mpr nonzero)

/-- The truncated remainder is zero or has the sign of the dividend. -/
theorem sign_tmod_cases : 0 ≤ a ∧ 0 ≤ a.tmod b ∨ a < 0 ∧ a.tmod b ≤ 0 := by
  rcases Int.lt_or_le a 0 with negative | nonneg
  · exact .inr ⟨negative, tmod_nonpos negative.le⟩
  · exact .inl ⟨nonneg, Int.tmod_nonneg b nonneg⟩

/-- Truncated division rounds down if it is exact or the signs agree. -/
theorem floorDivision_of_kept (nonzero : b ≠ 0) (kept : a.tmod b = 0 ∨ (a < 0 ↔ b < 0)) :
    FloorDivision a b (a.tdiv b) (a.tmod b) where
  total := (Int.mul_tdiv_add_tmod a b).symm
  between := by
    have smaller := @natAbs_tmod_lt a b nonzero
    have signs := @sign_tmod_cases a b
    omega

/-- Otherwise it rounds up, and the quotient below is the one rounded down. -/
theorem floorDivision_of_corrected (nonzero : b ≠ 0) (inexact : a.tmod b ≠ 0) (differ : a < 0 ↔ ¬b < 0) :
    FloorDivision a b (a.tdiv b - 1) (a.tmod b + b) where
  total := by
    have total := Int.mul_tdiv_add_tmod a b
    rw [mul_sub]
    omega
  between := by
    have smaller := @natAbs_tmod_lt a b nonzero
    have signs := @sign_tmod_cases a b
    omega

/-- A truncated quotient that is not exact is at most half of the dividend. -/
theorem natAbs_tdiv_le_half (nonzero : b ≠ 0) (inexact : a.tmod b ≠ 0) : (a.tdiv b).natAbs ≤ a.natAbs / 2 := by
  have large : 2 ≤ b.natAbs := by
    by_contra small
    have unit : b = 1 ∨ b = -1 := by omega
    rcases unit with rfl | rfl <;> simp at inexact
  rw [Int.natAbs_tdiv]
  exact Nat.div_le_div_left large (by decide)

end Truncated

section Words

variable {a b : Int64}

theorem toInt_ne_zero (nonzero : b ≠ 0) : b.toInt ≠ 0 := by
  intro zero
  exact nonzero (Int64.toInt_inj.mp zero)

theorem toInt_div_exact (fits : ¬(a = Int64.minValue ∧ b = -1)) : (a / b).toInt = a.toInt.tdiv b.toInt := by
  by_cases divisor : b = -1
  · exact Int64.toInt_div_of_ne_left a b fun least => fits ⟨least, divisor⟩
  · exact Int64.toInt_div_of_ne_right a b divisor

theorem oppose_iff : oppose a b = true ↔ (a.toInt < 0 ↔ ¬b.toInt < 0) := by
  simp only [oppose, bne_iff_ne, ne_eq, decide_eq_decide, Int64.lt_iff_toInt_lt, Int64.toInt_zero]
  omega

theorem mod_ne_zero_iff : (a % b != 0) = true ↔ a.toInt.tmod b.toInt ≠ 0 := by
  rw [bne_iff_ne, ne_eq, ← Int64.toInt_inj, Int64.toInt_mod, Int64.toInt_zero]

/-- A remainder other than zero has a sign other than the divisor's if the dividend has. -/
theorem oppose_mod (inexact : a.toInt.tmod b.toInt ≠ 0) : oppose (a % b) b = oppose a b := by
  have signs := @sign_tmod_cases a.toInt b.toInt
  rw [Bool.eq_iff_iff, oppose_iff, oppose_iff, Int64.toInt_mod]
  omega

/-- Subtracting one from a quotient that is not exact does not wrap around. -/
theorem toInt_quotient_sub_one (nonzero : b ≠ 0) (inexact : a.toInt.tmod b.toInt ≠ 0)
    (fits : ¬(a = Int64.minValue ∧ b = -1)) : (a / b - 1).toInt = a.toInt.tdiv b.toInt - 1 := by
  have half := natAbs_tdiv_le_half (toInt_ne_zero nonzero) inexact
  have lower := a.le_toInt
  have upper := a.toInt_lt
  rw [Int64.toInt_sub, toInt_div_exact fits, Int64.toInt_one]
  apply Int.bmod_eq_of_le <;> omega

/-- Adding the divisor to a remainder of the other sign does not wrap around. -/
theorem toInt_remainder_add (nonzero : b ≠ 0) (differ : (a % b).toInt < 0 ↔ ¬b.toInt < 0) :
    (a % b + b).toInt = a.toInt.tmod b.toInt + b.toInt := by
  have smaller := @natAbs_tmod_lt a.toInt b.toInt (toInt_ne_zero nonzero)
  have lower := b.le_toInt
  have upper := b.toInt_lt
  rw [Int64.toInt_mod] at differ
  rw [Int64.toInt_add, Int64.toInt_mod]
  apply Int.bmod_eq_of_le <;> omega

/-- Where there is a truncated quotient, the words that are computed are the quotient rounded down and its
remainder. -/
theorem floorDivision_words (nonzero : b ≠ 0) (fits : ¬(a = Int64.minValue ∧ b = -1)) :
    FloorDivision a.toInt b.toInt (floorDivide a b).toInt (floorRemainder a b).toInt := by
  by_cases inexact : a.toInt.tmod b.toInt ≠ 0
  · have notZero : (a % b != 0) = true := mod_ne_zero_iff.mpr inexact
    cases differ : oppose a b with
    | true =>
        have differToo : oppose (a % b) b = true := (oppose_mod inexact).trans differ
        simp only [floorDivide, floorRemainder, notZero, differ, differToo, Bool.and_self, if_true]
        rw [toInt_quotient_sub_one nonzero inexact fits, toInt_remainder_add nonzero (oppose_iff.mp differToo)]
        exact floorDivision_of_corrected (toInt_ne_zero nonzero) inexact (oppose_iff.mp differ)
    | false =>
        have agreeToo : oppose (a % b) b = false := (oppose_mod inexact).trans differ
        have agree : a.toInt < 0 ↔ b.toInt < 0 := by
          have opposed := not_congr (@oppose_iff a b)
          simp only [differ, Bool.false_eq_true, not_false_eq_true, true_iff] at opposed
          omega
        simp only [floorDivide, floorRemainder, differ, agreeToo, Bool.and_false, Bool.false_eq_true, if_false]
        rw [toInt_div_exact fits, Int64.toInt_mod]
        exact floorDivision_of_kept (toInt_ne_zero nonzero) (.inr agree)
  · have isZero : (a % b != 0) = false := Bool.eq_false_iff.mpr fun notZero => inexact (mod_ne_zero_iff.mp notZero)
    simp only [floorDivide, floorRemainder, isZero, Bool.false_and, Bool.false_eq_true, if_false]
    rw [toInt_div_exact fits, Int64.toInt_mod]
    exact floorDivision_of_kept (toInt_ne_zero nonzero) (.inl (not_not.mp inexact))

end Words

/-- A number that fits in sixty-four bits. -/
abbrev IsWord (n : Int) : Prop :=
  -2 ^ 63 ≤ n ∧ n < 2 ^ 63

theorem isWord_toInt (word : Int64) : IsWord word.toInt :=
  ⟨word.le_toInt, word.toInt_lt⟩

theorem not_isWord_of_integer? {n : Int} (refused : Decimal.integer? n = none) : ¬IsWord n := by
  have outside := Decimal.outside_of_integer? refused
  have least : Decimal.minInteger = -2 ^ 63 := rfl
  have greatest : Decimal.maxInteger = 2 ^ 63 - 1 := rfl
  omega

/-- An outcome is a given number if that fits in sixty-four bits, and an overflow otherwise. -/
def Exact (outcome : Except EvaluationFault Value) (n : Int) : Prop :=
  if IsWord n then ∃ word : Int64, outcome = .ok (.int word) ∧ word.toInt = n
  else outcome = .error .integerOverflow

theorem exact_word {n : Int} {word : Int64} (same : word.toInt = n) : Exact (.ok (.int word)) n := by
  rw [Exact, if_pos (same ▸ isWord_toInt word)]
  exact ⟨word, rfl, same⟩

theorem exact_checked (n : Int) : Exact (checked n) n := by
  unfold checked
  cases fits : Decimal.integer? n with
  | some word => exact exact_word (Decimal.toInt_of_integer? fits)
  | none => rw [Exact, if_neg (not_isWord_of_integer? fits)]

theorem divide_of_fits {rule : Int64 → Int64 → Int64} {a b : Int64} (nonzero : b ≠ 0)
    (fits : ¬(a = Int64.minValue ∧ b = -1)) : divide rule a b = .ok (.int (rule a b)) := by
  rw [divide, if_neg nonzero, if_neg fits]

theorem fits_of_divide {rule : Int64 → Int64 → Int64} {a b : Int64} {value : Value}
    (given : divide rule a b = .ok value) : b ≠ 0 ∧ ¬(a = Int64.minValue ∧ b = -1) ∧ value = .int (rule a b) := by
  unfold divide at given
  split at given
  · cases given
  · split at given
    · cases given
    · cases given
      exact ⟨‹_›, ‹_›, rfl⟩

theorem exact_floorDiv {a b : Int64} (nonzero : b ≠ 0) :
    Exact (intArith .floorDiv a b) ⌊(a.toInt : ℚ) / b.toInt⌋ := by
  by_cases overflows : a = Int64.minValue ∧ b = -1
  · obtain ⟨rfl, rfl⟩ := overflows
    have least : Int64.minValue.toInt = -2 ^ 63 := rfl
    have divisor : (-1 : Int64).toInt = -1 := rfl
    have large : ⌊((Int64.minValue.toInt : Int) : ℚ) / ((-1 : Int64).toInt : Int)⌋ = 2 ^ 63 := by
      rw [least, divisor]
      norm_num
    rw [large, Exact, if_neg (by norm_num)]
    rfl
  · have division := floorDivision_words nonzero overflows
    rw [intArith, divide_of_fits nonzero overflows]
    exact exact_word division.floor_eq.symm

theorem exact_mod {a b : Int64} (nonzero : b ≠ 0) (fits : ¬(a = Int64.minValue ∧ b = -1)) :
    Exact (intArith .mod a b) (a.toInt - b.toInt * ⌊(a.toInt : ℚ) / b.toInt⌋) := by
  have division := floorDivision_words nonzero fits
  rw [intArith, divide_of_fits nonzero fits]
  exact exact_word division.remainder_eq

/-- The operators of whole numbers that give whole numbers. -/
def wholeOps : List BinaryOp := [.add, .sub, .mul, .floorDiv, .mod]

/-- The operators on whole numbers give the exact result if it fits in sixty-four bits and fail if it does not, with
one exception: there is no remainder of the least number by -1, although it would be zero.  Nothing is divided by zero.
A quotient and a remainder together make up the dividend, and the remainder is zero or has the sign of the divisor. -/
theorem intArith_exact (store : Store) (a b : Int64) :
    (∀ op ∈ wholeOps, store.binary op (.int a) (.int b) = intArith op a b) ∧
    Exact (intArith .add a b) (a.toInt + b.toInt) ∧
    Exact (intArith .sub a b) (a.toInt - b.toInt) ∧
    Exact (intArith .mul a b) (a.toInt * b.toInt) ∧
    (b = 0 → intArith .floorDiv a b = .error .divisionByZero ∧ intArith .mod a b = .error .divisionByZero) ∧
    (b ≠ 0 → Exact (intArith .floorDiv a b) ⌊(a.toInt : ℚ) / b.toInt⌋) ∧
    (b ≠ 0 → ¬(a = Int64.minValue ∧ b = -1) →
      Exact (intArith .mod a b) (a.toInt - b.toInt * ⌊(a.toInt : ℚ) / b.toInt⌋)) ∧
    (a = Int64.minValue ∧ b = -1 → intArith .mod a b = .error .integerOverflow) ∧
    (∀ quotient remainder, intArith .floorDiv a b = .ok (.int quotient) →
      intArith .mod a b = .ok (.int remainder) →
        a.toInt = b.toInt * quotient.toInt + remainder.toInt ∧ |remainder.toInt| < |b.toInt| ∧
          (remainder.toInt = 0 ∨ remainder.toInt.sign = b.toInt.sign)) ∧
    EvaluationFault.text .divisionByZero = "division by zero" ∧
    EvaluationFault.text .integerOverflow = "integer overflow" := by
  refine ⟨?_, exact_checked _, exact_checked _, exact_checked _, ?_, exact_floorDiv, exact_mod, ?_, ?_, rfl, rfl⟩
  · intro op member
    simp only [wholeOps, List.mem_cons, List.not_mem_nil, or_false] at member
    rcases member with rfl | rfl | rfl | rfl | rfl <;> rfl
  · rintro rfl
    exact ⟨rfl, rfl⟩
  · rintro ⟨rfl, rfl⟩
    rfl
  · intro quotient remainder divided left
    obtain ⟨nonzero, fits, same⟩ := fits_of_divide divided
    obtain ⟨-, -, sameToo⟩ := fits_of_divide left
    cases same
    cases sameToo
    have division := floorDivision_words nonzero fits
    exact ⟨division.total, division.abs_remainder_lt, division.sign_remainder⟩

/-- A third of the least number is not exact, and its quotient is rounded down. -/
theorem intArith_exact_least :
    intArith .floorDiv Int64.minValue 3 = .ok (.int (-3074457345618258603)) ∧
    intArith .mod Int64.minValue 3 = .ok (.int 1) ∧
    Exact (intArith .floorDiv Int64.minValue 3) ⌊(Int64.minValue.toInt : ℚ) / (3 : Int64).toInt⌋ ∧
    (Int64.minValue.toInt = (3 : Int64).toInt * (-3074457345618258603 : Int64).toInt + (1 : Int64).toInt ∧
      |(1 : Int64).toInt| < |(3 : Int64).toInt|) ∧
    intArith .mod Int64.minValue (-1) = .error .integerOverflow := by
  have divided : intArith .floorDiv Int64.minValue 3 = .ok (.int (-3074457345618258603)) := rfl
  have left : intArith .mod Int64.minValue 3 = .ok (.int 1) := rfl
  obtain ⟨-, -, -, -, -, quotient, -, -, together, -⟩ := intArith_exact {} Int64.minValue 3
  obtain ⟨total, smaller, -⟩ := together _ _ divided left
  obtain ⟨-, -, -, -, -, -, -, refused, -⟩ := intArith_exact {} Int64.minValue (-1)
  exact ⟨divided, left, quotient (by decide), ⟨total, smaller⟩, refused ⟨rfl, rfl⟩⟩

end GroupScript.Value
