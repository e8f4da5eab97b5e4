import GroupScript.Builtin.Lists
import GroupScript.Proofs.WholeNumbers

/-!
# Ranges

A range is an arithmetic progression up to its stop.  The number of its terms is computed in advance from one division,
and the terms themselves come from a loop that adds the step and stops at the first sum beyond sixty-four bits.  Both
count the same terms: since the start and the stop are words, so is every number between them, and a sum that is no
word lies beyond the stop.
-/

namespace GroupScript.Builtin

open Value (IsWord isWord_toInt not_isWord_of_integer?)

/-- A number comes strictly before the stop of a range, in the direction of the step. -/
def Before (stop step n : Int) : Prop :=
  0 < step ∧ n < stop ∨ step < 0 ∧ stop < n

instance (stop step n : Int) : Decidable (Before stop step n) :=
  inferInstanceAs (Decidable (_ ∨ _))

theorem beforeStop_iff {stop step n : Int64} :
    beforeStop stop step n = true ↔ Before stop.toInt step.toInt n.toInt := by
  simp [beforeStop, Before, Int64.lt_iff_toInt_lt]

/-! ### The number of terms -/

theorem rangeSpan_neg (start stop step : Int) : rangeSpan (-start) (-stop) (-step) = rangeSpan start stop step := by
  have flipped : -stop - -start + -step - (-step).sign = -(stop - start + step - step.sign) := by
    rw [Int.sign_neg]
    omega
  rw [rangeSpan, rangeSpan, flipped, Int.tdiv_neg, Int.neg_tdiv, neg_neg]

theorem before_neg {stop step n : Int} : Before (-stop) (-step) (-n) ↔ Before stop step n := by
  unfold Before
  omega

theorem lt_rangeSpan_of_pos {start stop step : Int} (positive : 0 < step) (k : Nat) :
    k < (rangeSpan start stop step).toNat ↔ start + k * step < stop := by
  have sign : step.sign = 1 := Int.sign_eq_one_of_pos positive
  rw [Int.lt_toNat, rangeSpan, sign]
  rcases Int.lt_or_le (stop - start + step - 1) 0 with negative | nonneg
  · -- The stop is at least one step before the start, so the quotient is not positive.
    have steps : 0 ≤ (k : Int) * step := by positivity
    have flipped : 0 ≤ (-(stop - start + step - 1)).tdiv step := Int.tdiv_nonneg (by omega) positive.le
    rw [Int.neg_tdiv] at flipped
    constructor
    · omega
    · omega
  · rw [Int.tdiv_eq_ediv_of_nonneg nonneg, ← Int.add_one_le_iff, Int.le_ediv_iff_mul_le positive, add_mul, one_mul]
    omega

/-- The number computed in advance is that of the terms before the stop. -/
theorem lt_rangeSpan_iff {start stop step : Int} (nonzero : step ≠ 0) (k : Nat) :
    k < (rangeSpan start stop step).toNat ↔ Before stop step (start + k * step) := by
  rcases Int.lt_or_gt_of_ne nonzero with negative | positive
  · have opposite : -start + k * -step = -(start + k * step) := by ring
    rw [← rangeSpan_neg, ← before_neg, lt_rangeSpan_of_pos (by omega), opposite]
    unfold Before
    omega
  · rw [lt_rangeSpan_of_pos positive]
    unfold Before
    omega

/-- A term before the stop is followed by those of the range that begins at the next one. -/
theorem rangeSpan_of_before {n stop step : Int} (nonzero : step ≠ 0) (before : Before stop step n) :
    (rangeSpan n stop step).toNat = (rangeSpan (n + step) stop step).toNat + 1 := by
  have first : 0 < (rangeSpan n stop step).toNat := by
    rw [lt_rangeSpan_iff nonzero]
    simpa using before
  have shifted (k : Nat) : k + 1 < (rangeSpan n stop step).toNat ↔ k < (rangeSpan (n + step) stop step).toNat := by
    have sum : n + ((k + 1 : Nat) : Int) * step = n + step + k * step := by
      push_cast
      ring
    rw [lt_rangeSpan_iff nonzero, lt_rangeSpan_iff nonzero, sum]
  have atEnd := shifted ((rangeSpan n stop step).toNat - 1)
  have atNext := shifted (rangeSpan (n + step) stop step).toNat
  omega

theorem rangeSpan_of_not_before {n stop step : Int} (nonzero : step ≠ 0) (past : ¬Before stop step n) :
    (rangeSpan n stop step).toNat = 0 := by
  have first := @lt_rangeSpan_iff n stop step nonzero 0
  simp only [Nat.cast_zero, zero_mul, add_zero, past, iff_false] at first
  omega

/-! ### The loop -/

/-- The terms of a range. -/
def progression (start step : Int) (count : Nat) : List Int :=
  (List.range count).map fun (k : Nat) => start + k * step

theorem progression_succ (start step : Int) (count : Nat) :
    progression start step (count + 1) = start :: progression (start + step) step count := by
  have shifted (k : Nat) : start + ((k : Int) + 1) * step = start + step + k * step := by ring
  simp [progression, List.range_succ_eq_map, Function.comp_def, shifted]

/-- A sum that is no word lies beyond every stop. -/
theorem not_before_of_overflow (stop : Int64) {step n : Int} (word : IsWord n) (overflow : ¬IsWord (n + step)) :
    ¬Before stop.toInt step (n + step) := by
  have := isWord_toInt stop
  unfold Before
  omega

/-- The terms before the stop are words. -/
theorem isWord_of_before {start stop : Int64} {step : Int} {k : Nat}
    (before : Before stop.toInt step (start.toInt + k * step)) : IsWord (start.toInt + k * step) := by
  have := isWord_toInt start
  have := isWord_toInt stop
  rcases before with ⟨positive, less⟩ | ⟨negative, greater⟩
  · have forward : 0 ≤ k * step := by positivity
    omega
  · have backward : k * step ≤ 0 := mul_nonpos_of_nonneg_of_nonpos (by positivity) negative.le
    omega

/-- The loop appends the terms of the range that begins at its number. -/
theorem exists_rangeItems_eq {stop step : Int64} (nonzero : step.toInt ≠ 0) (n : Int64) (done : List Value) :
    ∃ words : List Int64, rangeItems stop step n done = done.reverse ++ words.map .int ∧
      words.map Int64.toInt = progression n.toInt step.toInt (rangeSpan n.toInt stop.toInt step.toInt).toNat := by
  fun_induction rangeItems stop step n done with
  | case1 n done before next added ih =>
      obtain ⟨words, collected, terms⟩ := ih
      have sum := Decimal.toInt_of_integer? added
      refine ⟨n :: words, by simp [collected], ?_⟩
      rw [rangeSpan_of_before nonzero (beforeStop_iff.mp before), progression_succ, ← sum, List.map_cons, terms]
  | case2 n done before overflow =>
      have isBefore := beforeStop_iff.mp before
      have last := rangeSpan_of_not_before nonzero (not_before_of_overflow stop (isWord_toInt n)
        (not_isWord_of_integer? overflow))
      refine ⟨[n], by simp, ?_⟩
      rw [rangeSpan_of_before nonzero isBefore, last, progression_succ]
      rfl
  | case3 n done past =>
      have none := rangeSpan_of_not_before nonzero (beforeStop_iff.not.mp past)
      refine ⟨[], by simp, ?_⟩
      rw [none]
      rfl

/-- A range is the arithmetic progression of all terms strictly before its stop, if these are not too many, and an
error otherwise.  The number computed in advance is the number of terms that the loop collects, every term is a word,
and a term after which the sum is no word is the last one. -/
theorem runRange_progression (start stop step : Int64) (nonzero : step ≠ 0) :
    ∃ (count : Nat) (words : List Int64),
      (∀ k : Nat, k < count ↔ Before stop.toInt step.toInt (start.toInt + k * step.toInt)) ∧
      words.map Int64.toInt = (List.range count).map (fun (k : Nat) => start.toInt + k * step.toInt) ∧
      rangeItems stop step start [] = words.map .int ∧
      (rangeSpan start.toInt stop.toInt step.toInt).toNat = words.length ∧
      (∀ k < count, ¬IsWord (start.toInt + (k + 1) * step.toInt) → k + 1 = count) ∧
      (count ≤ 2 ^ 24 → runRange [.int start, .int stop, .int step] = .ok (.list (words.map .int))) ∧
      (2 ^ 24 < count → runRange [.int start, .int stop, .int step] =
        .error (.evaluationFailure (.rangeTooLong count))) := by
  have notZero : step.toInt ≠ 0 := fun zero => nonzero (Int64.toInt_inj.mp zero)
  obtain ⟨words, collected, terms⟩ := @exists_rangeItems_eq stop step notZero start []
  have counted := @lt_rangeSpan_iff start.toInt stop.toInt step.toInt notZero
  set span := rangeSpan start.toInt stop.toInt step.toInt
  have ran : runRange [.int start, .int stop, .int step] =
      if Value.maxLength < span.toNat then .error (.evaluationFailure (.rangeTooLong span))
      else .ok (.list (rangeItems stop step start [])) := by
    change rangeOf start stop step = _
    rw [rangeOf, if_neg nonzero]
  have limit : Value.maxLength = 2 ^ 24 := rfl
  refine ⟨span.toNat, words, counted, terms, collected, ?_, ?_, ?_, ?_⟩
  · have sizes := congrArg List.length terms
    simpa [progression] using sizes.symm
  · intro k within outside
    have sum : start.toInt + (k + 1) * step.toInt = start.toInt + k * step.toInt + step.toInt := by ring
    rw [sum] at outside
    have beyond := not_before_of_overflow stop (isWord_of_before ((counted k).mp within)) outside
    have further := counted (k + 1)
    push_cast at further
    rw [sum] at further
    simp only [beyond, iff_false] at further
    omega
  · intro few
    rw [ran, if_neg (by omega), collected]
    rfl
  · intro many
    have isCount : (span.toNat : Int) = span := by omega
    rw [ran, if_pos (by omega), isCount]

/-- A range whose last sum would be the first number beyond sixty-four bits. -/
theorem runRange_progression_limit :
    (5 : Int64) ≠ 0 ∧
    ∃ words : List Int64, runRange [.int 9223372036854775798, .int 9223372036854775807, .int 5] =
        .ok (.list (words.map .int)) ∧
      words.map Int64.toInt = [9223372036854775798, 9223372036854775803] := by
  have nonzero : (5 : Int64) ≠ 0 := by decide
  obtain ⟨count, words, counted, terms, -, -, -, few, -⟩ :=
    runRange_progression 9223372036854775798 9223372036854775807 5 nonzero
  have isCount : count = 2 := by
    have second := (counted 1).mpr (by decide)
    have third := (counted 2).not.mpr (by decide)
    omega
  subst isCount
  exact ⟨nonzero, words, few (by decide), terms⟩

end GroupScript.Builtin
