import GroupScript.Builtin.Run
import GroupScript.Proofs.WholeNumbers

/-!
# Powers of whole numbers

A power is computed by repeated squaring, and every product on the way has to fit in sixty-four bits.  No result that
fits is lost this way.  A product of the squares so far that does not fit only grows, since all later factors are squares
of whole numbers and hence positive.  A square that does not fit is at least 2^63, but not that number, which is no
square; so it does not fit with a minus sign either, and some later product has it as a factor.

The exponent must have at most thirty-two bits.  Larger ones are refused, also for the bases -1, 0 and 1, all powers of which
fit.
-/

namespace GroupScript.Value

theorem integer?_toInt (word : Int64) : Decimal.integer? word.toInt = some word := by
  cases fits : Decimal.integer? word.toInt with
  | none => exact absurd (isWord_toInt word) (not_isWord_of_integer? fits)
  | some other => rw [Int64.toInt_inj.mp (Decimal.toInt_of_integer? fits)]

theorem integer?_eq_none_of_not_isWord {n : Int} (outside : ¬IsWord n) : Decimal.integer? n = none := by
  cases fits : Decimal.integer? n with
  | none => rfl
  | some word => exact absurd (Decimal.toInt_of_integer? fits ▸ isWord_toInt word) outside

section Growth

variable {n factor : Int}

/-- A number that does not fit does not fit when it is multiplied by a positive one. -/
theorem not_isWord_mul (outside : ¬IsWord n) (positive : 1 ≤ factor) : ¬IsWord (n * factor) := by
  rcases Int.lt_or_le n 0 with negative | nonneg
  · have grown : n * factor ≤ n := by nlinarith
    omega
  · have grown : n ≤ n * factor := by nlinarith
    omega

/-- The opposite of the least word is no square. -/
theorem mul_self_ne_two_pow (n : Int) : n * n ≠ 2 ^ 63 := by
  intro square
  rcases Int.lt_or_le n.natAbs 3037000500 with small | large
  · have : (n.natAbs : Int) * n.natAbs ≤ 3037000499 * 3037000499 := by nlinarith
    rw [Int.natAbs_mul_self'] at this
    omega
  · have : (3037000500 : Int) * 3037000500 ≤ n.natAbs * n.natAbs := by nlinarith
    rw [Int.natAbs_mul_self'] at this
    omega

/-- A square that does not fit does not fit as a factor either. -/
theorem not_isWord_of_square (outside : ¬IsWord (n * n)) (nonzero : factor ≠ 0) {exponent : Nat}
    (positive : 1 ≤ exponent) : ¬IsWord (factor * (n * n) ^ exponent) := by
  have nonneg := mul_self_nonneg n
  have beyond : 2 ^ 63 < n * n := by
    have := mul_self_ne_two_pow n
    omega
  have grown : n * n ≤ (n * n) ^ exponent := le_self_pow₀ (by omega) (by omega)
  rcases Int.lt_or_gt_of_ne nonzero with negative | isPositive
  · have : factor * (n * n) ^ exponent ≤ -((n * n) ^ exponent) := by nlinarith
    omega
  · have : (n * n) ^ exponent ≤ factor * (n * n) ^ exponent := by nlinarith
    omega

end Growth

section Squaring

variable {product base : Int64} {exponent : Nat}

/-- The factor that the last binary digit of an exponent contributes to a power. -/
def lastFactor (base : Int) (exponent : Nat) : Int :=
  if exponent % 2 = 1 then base else 1

theorem pow_eq_lastFactor_mul (base : Int) (exponent : Nat) :
    base ^ exponent = lastFactor base exponent * (base * base) ^ (exponent / 2) := by
  have halves := Nat.div_add_mod exponent 2
  have doubled : (base * base) ^ (exponent / 2) = base ^ (2 * (exponent / 2)) := by rw [pow_mul, sq]
  rw [lastFactor, doubled]
  split
  · rw [← pow_succ']
    congr 1
    omega
  · rw [one_mul]
    congr 1
    omega

/-- A product of zero would hide that a square does not fit, but it only arises from a base of zero. -/
theorem mul_lastFactor_ne_zero (regular : product.toInt = 0 → base.toInt = 0) (nonzero : base.toInt ≠ 0) :
    product.toInt * lastFactor base.toInt exponent ≠ 0 := by
  have factor : lastFactor base.toInt exponent ≠ 0 := by
    unfold lastFactor
    split <;> simp [nonzero]
  exact mul_ne_zero (fun zero => nonzero (regular zero)) factor

theorem timesOdd?_eq :
    timesOdd? product base exponent = Decimal.integer? (product.toInt * lastFactor base.toInt exponent) := by
  unfold timesOdd? lastFactor multiply?
  split
  · rfl
  · rw [mul_one, integer?_toInt]

/-- Repeated squaring gives the product with the power if that fits and nothing otherwise. -/
theorem timesPower?_eq (regular : product.toInt = 0 → base.toInt = 0) :
    timesPower? product base exponent = Decimal.integer? (product.toInt * base.toInt ^ exponent) := by
  fun_induction timesPower? product base exponent with
  | case1 product base => rw [pow_zero, mul_one, integer?_toInt]
  | case2 product base exponent positive overflow =>
      -- The product of the digits so far does not fit, and the squares to come are positive.
      rw [timesOdd?_eq] at overflow
      have outside := not_isWord_of_integer? overflow
      have nonzero : base.toInt ≠ 0 := by
        intro zero
        unfold lastFactor at outside
        split at outside
        · exact outside (by rw [zero, mul_zero]; decide)
        · exact outside (by rw [mul_one]; exact isWord_toInt product)
      have growing : 1 ≤ (base.toInt * base.toInt) ^ (exponent / 2) :=
        one_le_pow₀ (Int.add_one_le_iff.mpr (mul_self_pos.mpr nonzero))
      rw [pow_eq_lastFactor_mul, ← mul_assoc, integer?_eq_none_of_not_isWord (not_isWord_mul outside growing)]
  | case3 product base next positive taken =>
      rw [timesOdd?_eq] at taken
      rw [pow_one]
      exact taken.symm
  | case4 product base exponent positive next taken several overflow =>
      -- The next square does not fit, and the exponent has a digit left that makes it a factor.
      have outside := not_isWord_of_integer? overflow
      have nonzero : base.toInt ≠ 0 := by
        intro zero
        simp [zero] at outside
      have remaining : 1 ≤ exponent / 2 := by omega
      rw [pow_eq_lastFactor_mul, ← mul_assoc, integer?_eq_none_of_not_isWord
        (not_isWord_of_square outside (mul_lastFactor_ne_zero regular nonzero) remaining)]
  | case5 product base exponent positive next taken several square squared ih =>
      rw [timesOdd?_eq] at taken
      have nextExact := Decimal.toInt_of_integer? taken
      have squareExact := Decimal.toInt_of_integer? squared
      rw [ih, nextExact, squareExact, mul_assoc, ← pow_eq_lastFactor_mul]
      intro zero
      have baseZero : base.toInt = 0 := by
        by_contra nonzero
        rw [nextExact] at zero
        exact mul_lastFactor_ne_zero regular nonzero zero
      rw [squareExact, baseZero, mul_zero]

theorem exact_power (base : Int64) (exponent : Nat) : Exact (power base exponent) (base.toInt ^ exponent) := by
  have computed : timesPower? 1 base exponent = Decimal.integer? (base.toInt ^ exponent) := by
    rw [timesPower?_eq (by simp), Int64.toInt_one, one_mul]
  have same : power base exponent = checked (base.toInt ^ exponent) := by
    rw [power, computed, checked]
  rw [same]
  exact exact_checked _

end Squaring

section Limit

variable {base : Int} {exponent : Nat}

theorem not_isWord_pow (large : 2 ≤ |base|) (long : 64 ≤ exponent) : ¬IsWord (base ^ exponent) := by
  have grown : 2 ^ 64 ≤ |base ^ exponent| := by
    calc (2 : Int) ^ 64 ≤ 2 ^ exponent := pow_le_pow_right₀ (by decide) long
      _ ≤ |base| ^ exponent := pow_le_pow_left₀ (by decide) large exponent
      _ = |base ^ exponent| := (abs_pow base exponent).symm
  rcases abs_cases (base ^ exponent) with ⟨same, -⟩ | ⟨same, -⟩ <;> omega

theorem isWord_pow (small : |base| < 2) : IsWord (base ^ exponent) := by
  have bounded : |base ^ exponent| ≤ 1 := by
    rw [abs_pow]
    exact pow_le_one₀ (abs_nonneg base) (by omega)
  have between := abs_le.mp bounded
  omega

end Limit

theorem intArith_pow_of_short {a b : Int64} (nonneg : 0 ≤ b.toInt) (short : b.toInt < 2 ^ 32) :
    intArith .pow a b = power a b.toInt.toNat := by
  have limit : maxExponent = 2 ^ 32 - 1 := rfl
  rw [intArith, if_neg (by omega), if_pos (by omega)]

theorem intArith_pow_of_long {a b : Int64} (long : 2 ^ 32 ≤ b.toInt) :
    intArith .pow a b = .error .integerOverflow := by
  have limit : maxExponent = 2 ^ 32 - 1 := rfl
  rw [intArith, if_neg (by omega), if_neg (by omega)]

/-- A power of whole numbers with an exponent that is not negative is exact: it is the number if that fits in sixty-four
bits and an overflow otherwise.  The exponents of more than thirty-two bits are an exception for the bases -1, 0 and 1: all
powers of these fit, but the exponent is refused.  The function for powers gives what the operator gives. -/
theorem binary_pow_exact_iff (store : Store) (a b : Int64) (nonneg : 0 ≤ b.toInt) :
    (Exact (store.binary .pow (.int a) (.int b)) (a.toInt ^ b.toInt.toNat) ↔ b.toInt < 2 ^ 32 ∨ 2 ≤ |a.toInt|) ∧
    (2 ^ 32 ≤ b.toInt → store.binary .pow (.int a) (.int b) = .error .integerOverflow) ∧
    Builtin.runPure? store .pow [.int a, .int b] =
      some ((store.binary .pow (.int a) (.int b)).mapError .evaluationFailure) := by
  have computed : store.binary .pow (.int a) (.int b) = intArith .pow a b := rfl
  rw [computed]
  refine ⟨⟨?_, ?_⟩, intArith_pow_of_long, rfl⟩
  · intro isExact
    by_contra excepted
    have fits : IsWord (a.toInt ^ b.toInt.toNat) := isWord_pow (by omega)
    rw [Exact, if_pos fits, intArith_pow_of_long (by omega)] at isExact
    obtain ⟨word, given, -⟩ := isExact
    cases given
  · intro allowed
    by_cases short : b.toInt < 2 ^ 32
    · rw [intArith_pow_of_short nonneg short]
      exact exact_power a _
    · have large : 2 ≤ |a.toInt| := allowed.resolve_left short
      rw [Exact, if_neg (not_isWord_pow large (by omega)), intArith_pow_of_long (by omega)]

/-- The odd powers of a negative number reach the least word and pass it. -/
theorem binary_pow_exact_iff_least :
    0 ≤ (21 : Int64).toInt ∧
    Exact (({} : Store).binary .pow (.int (-8)) (.int 21)) ((-8 : Int64).toInt ^ (21 : Int64).toInt.toNat) ∧
    (-8 : Int64).toInt ^ (21 : Int64).toInt.toNat = Int64.minValue.toInt ∧
    Exact (({} : Store).binary .pow (.int (-8)) (.int 23)) ((-8 : Int64).toInt ^ (23 : Int64).toInt.toNat) := by
  have first := (binary_pow_exact_iff {} (-8) 21 (by decide)).1.mpr (.inl (by decide))
  have second := (binary_pow_exact_iff {} (-8) 23 (by decide)).1.mpr (.inl (by decide))
  exact ⟨by decide, first, by decide, second⟩

/-- One to the power of 2^32 is one, but the operator refuses the exponent. -/
theorem binary_pow_refuses_power_of_one :
    ({} : Store).binary .pow (.int 1) (.int 4294967296) = .error .integerOverflow ∧
    IsWord ((1 : Int64).toInt ^ (4294967296 : Int64).toInt.toNat) ∧
    ¬Exact (({} : Store).binary .pow (.int 1) (.int 4294967296))
      ((1 : Int64).toInt ^ (4294967296 : Int64).toInt.toNat) := by
  have refused : ({} : Store).binary .pow (.int 1) (.int 4294967296) = .error .integerOverflow :=
    @intArith_pow_of_long 1 4294967296 (by decide)
  have fits : IsWord ((1 : Int64).toInt ^ (4294967296 : Int64).toInt.toNat) := isWord_pow (by decide)
  refine ⟨refused, fits, ?_⟩
  rw [Exact, if_pos fits, refused]
  rintro ⟨word, given, -⟩
  cases given

end GroupScript.Value
