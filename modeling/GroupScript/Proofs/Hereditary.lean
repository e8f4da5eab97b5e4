import GroupScript.Builtin.Run
import GroupScript.Proofs.Outcome

/-!
# Hereditary properties of values

A property of values is hereditary if numbers, texts and the like have it, and a list has it exactly if its items do.
Operators and builtin functions make their results of their operands and of such values, so the results have every
hereditary property that the operands have.
-/

namespace GroupScript

/-- Whether a value holds no other value and has no identity. -/
def Value.isPlain : Value → Bool
  | .nil | .bool _ | .int _ | .float _ | .string _ => true
  | _ => false

/-- A property that plain values have and that passes to and from lists. -/
structure Value.Hereditary (fit : Value → Prop) : Prop where
  plain : ∀ {value}, value.isPlain = true → fit value
  list : ∀ {items}, fit (.list items) ↔ ∀ item ∈ items, fit item

namespace Value

theorem hereditary_true : Hereditary fun _ => True :=
  ⟨fun _ => trivial, by simp⟩

variable {op : BinaryOp} {value : Value}

theorem isPlain_of_checked {n : Int} (made : checked n = .ok value) : value.isPlain = true := by
  unfold checked at made
  split at made <;> cases made
  rfl

theorem isPlain_of_power {base : Int64} {exponent : Nat} (made : power base exponent = .ok value) :
    value.isPlain = true := by
  unfold power at made
  split at made <;> cases made
  rfl

theorem isPlain_of_floatArith {a b : Float} (made : floatArith op a b = .ok value) :
    value.isPlain = true := by
  unfold floatArith at made
  split at made
  case h_4 | h_5 | h_6 =>
    split at made
    · cases made
    · cases made
      rfl
  all_goals
    cases made
  all_goals rfl

theorem isPlain_of_divide {rule : Int64 → Int64 → Int64} {a b : Int64} (made : divide rule a b = .ok value) :
    value.isPlain = true := by
  unfold divide at made
  split at made
  · cases made
  · split at made <;> cases made
    rfl

theorem isPlain_of_intArith {a b : Int64} (made : intArith op a b = .ok value) :
    value.isPlain = true := by
  unfold intArith at made
  split at made
  case h_1 | h_2 | h_3 => exact isPlain_of_checked made
  case h_4 | h_5 => exact isPlain_of_divide made
  case h_6 =>
    split at made
    · cases made
      rfl
    · split at made
      · exact isPlain_of_power made
      · cases made
  case h_7 => exact isPlain_of_floatArith made

theorem isPlain_of_mixedArith {a b : Value} (made : mixedArith op a b = .ok value) :
    value.isPlain = true := by
  unfold mixedArith at made
  split at made
  · exact isPlain_of_floatArith made
  · cases made

theorem isPlain_of_repeatText {text : String} {times : Int64} (made : repeatText text times = .ok value) :
    value.isPlain = true := by
  obtain ⟨count, -, made⟩ := except_bind_eq_ok.mp made
  cases made
  rfl

theorem isPlain_of_unary {op : UnaryOp} {operand : Value} (made : unary op operand = .ok value) :
    value.isPlain = true := by
  unfold unary at made
  split at made
  case h_2 => exact isPlain_of_checked made
  all_goals
    cases made
  all_goals rfl

namespace Hereditary

variable {fit : Value → Prop} (hereditary : Hereditary fit)

include hereditary

theorem repeatList {items : List Value} {times : Int64} (fits : fit (.list items))
    (made : Value.repeatList items times = .ok value) : fit value := by
  obtain ⟨count, -, made⟩ := except_bind_eq_ok.mp made
  cases made
  refine hereditary.list.mpr fun item member => ?_
  split at member
  · cases member
  · obtain ⟨part, repeated, member⟩ := List.mem_flatten.mp member
    rw [List.eq_of_mem_replicate repeated] at member
    exact hereditary.list.mp fits item member

theorem arith {a b : Value} (fitsLeft : fit a) (fitsRight : fit b)
    (made : Value.arith op a b = .ok value) : fit value := by
  unfold Value.arith at made
  split at made
  case h_1 =>
    cases made
    exact hereditary.plain rfl
  case h_2 =>
    cases made
    refine hereditary.list.mpr fun item member => ?_
    rcases List.mem_append.mp member with left | right
    · exact hereditary.list.mp fitsLeft item left
    · exact hereditary.list.mp fitsRight item right
  case h_3 | h_4 => exact hereditary.plain (isPlain_of_repeatText made)
  case h_5 => exact hereditary.repeatList fitsLeft made
  case h_6 => exact hereditary.repeatList fitsRight made
  case h_7 => exact hereditary.plain (isPlain_of_intArith made)
  case h_8 => exact hereditary.plain (isPlain_of_mixedArith made)

theorem binary {store : Store} {a b : Value} (fitsLeft : fit a) (fitsRight : fit b)
    (made : store.binary op a b = .ok value) : fit value := by
  unfold Store.binary at made
  split at made
  case h_1 | h_2 =>
    cases made
    exact hereditary.plain rfl
  case h_3 | h_4 | h_5 | h_6 | h_7 | h_8 =>
    obtain ⟨result, -, made⟩ := except_bind_eq_ok.mp made
    cases made
    exact hereditary.plain rfl
  case h_9 => exact hereditary.arith fitsLeft fitsRight made

theorem rangeItems {stop step n : Int64} {done : List Value} (fits : ∀ item ∈ done, fit item) :
    ∀ item ∈ Builtin.rangeItems stop step n done, fit item := by
  fun_induction Builtin.rangeItems stop step n done with
  | case1 n done before next added ih =>
      apply ih
      intro item member
      rcases List.mem_cons.mp member with rfl | earlier
      · exact hereditary.plain rfl
      · exact fits item earlier
  | case2 n done before added =>
      intro item member
      rcases List.mem_cons.mp (List.mem_reverse.mp member) with rfl | earlier
      · exact hereditary.plain rfl
      · exact fits item earlier
  | case3 n done past => simpa using fits

theorem rangeOf {start stop step : Int64} (made : Builtin.rangeOf start stop step = .ok value) :
    fit value := by
  unfold Builtin.rangeOf at made
  split at made
  · cases made
  · simp only at made
    split at made
    · cases made
    · cases made
      refine hereditary.list.mpr (hereditary.rangeItems fun item member => ?_)
      cases member

theorem runRange {arguments : List Value} (made : Builtin.runRange arguments = .ok value) :
    fit value := by
  unfold Builtin.runRange at made
  split at made
  · obtain ⟨_, -, made⟩ := except_bind_eq_ok.mp made
    exact hereditary.rangeOf made
  · obtain ⟨_, -, made⟩ := except_bind_eq_ok.mp made
    obtain ⟨_, -, made⟩ := except_bind_eq_ok.mp made
    exact hereditary.rangeOf made
  · obtain ⟨_, -, made⟩ := except_bind_eq_ok.mp made
    obtain ⟨_, -, made⟩ := except_bind_eq_ok.mp made
    obtain ⟨_, -, made⟩ := except_bind_eq_ok.mp made
    exact hereditary.rangeOf made
  · cases made

omit hereditary in
theorem extreme {store : Store} {best : Value} {items : List Value} (fitsBest : fit best)
    (fits : ∀ item ∈ items, fit item) (made : Builtin.extreme store op best items = .ok value) :
    fit value := by
  induction items generalizing best with
  | nil =>
      cases made
      exact fitsBest
  | cons item rest ih =>
      obtain ⟨better, -, made⟩ := except_bind_eq_ok.mp made
      refine ih ?_ (fun other member => fits other (List.mem_cons_of_mem item member)) made
      split
      · exact fits item List.mem_cons_self
      · exact fitsBest

theorem operands {arguments : List Value} (fits : ∀ item ∈ arguments, fit item) :
    ∀ item ∈ Builtin.operands arguments, fit item := by
  unfold Builtin.operands
  split
  · exact hereditary.list.mp (fits _ List.mem_cons_self)
  · exact fits

theorem runExtreme {store : Store} {function : Builtin} {arguments : List Value}
    (fits : ∀ item ∈ arguments, fit item)
    (made : Builtin.runExtreme store function op arguments = .ok value) : fit value := by
  have fitsOperands := hereditary.operands fits
  unfold Builtin.runExtreme at made
  split at made
  · cases made
  · rename_i first rest given
    rw [given] at fitsOperands
    exact extreme (fitsOperands first List.mem_cons_self)
      (fun item member => fitsOperands item (List.mem_cons_of_mem first member)) made

theorem sumFrom {store : Store} {total : Value} {items : List Value} (fitsTotal : fit total)
    (fits : ∀ item ∈ items, fit item) (made : Builtin.sumFrom store total items = .ok value) :
    fit value := by
  induction items generalizing total with
  | nil =>
      cases made
      exact fitsTotal
  | cons item rest ih =>
      obtain ⟨sum, added, made⟩ := except_bind_eq_ok.mp made
      refine ih ?_ (fun other member => fits other (List.mem_cons_of_mem item member)) made
      exact hereditary.binary fitsTotal (fits item List.mem_cons_self)
        (except_mapError_eq_ok.mp added)

theorem runSum {store : Store} {arguments : List Value} (fits : ∀ item ∈ arguments, fit item)
    (made : Builtin.runSum store arguments = .ok value) : fit value := by
  unfold Builtin.runSum at made
  split at made
  · exact hereditary.sumFrom (hereditary.plain rfl)
      (hereditary.list.mp (fits _ List.mem_cons_self)) made
  · exact hereditary.sumFrom (fits _ (List.mem_cons_of_mem _ List.mem_cons_self))
      (hereditary.list.mp (fits _ List.mem_cons_self)) made
  · cases made

theorem runSplit {arguments : List Value} (made : Builtin.runSplit arguments = .ok value) :
    fit value := by
  unfold Builtin.runSplit at made
  split at made
  · split at made
    · cases made
    · cases made
      refine hereditary.list.mpr fun item member => ?_
      obtain ⟨piece, -, rfl⟩ := List.mem_map.mp member
      exact hereditary.plain rfl
  · cases made

theorem runPow {store : Store} {arguments : List Value} (fits : ∀ item ∈ arguments, fit item)
    (made : Builtin.runPow store arguments = .ok value) : fit value := by
  unfold Builtin.runPow at made
  split at made
  · exact hereditary.binary (fits _ List.mem_cons_self)
      (fits _ (List.mem_cons_of_mem _ List.mem_cons_self)) (except_mapError_eq_ok.mp made)
  · cases made

omit hereditary in
theorem isPlain_of_runReal {function : Builtin} {defined : Float → Bool} {compute : Float → Value}
    {arguments : List Value} (computes : ∀ x, (compute x).isPlain = true)
    (made : Builtin.runReal function defined compute arguments = .ok value) : value.isPlain = true := by
  unfold Builtin.runReal at made
  split at made
  · obtain ⟨x, -, made⟩ := except_bind_eq_ok.mp made
    split at made <;> cases made
    exact computes x
  · cases made

omit hereditary in
theorem isPlain_of_runAbs {arguments : List Value} (made : Builtin.runAbs arguments = .ok value) :
    value.isPlain = true := by
  unfold Builtin.runAbs at made
  split at made
  · exact isPlain_of_checked (except_mapError_eq_ok.mp made)
  · obtain ⟨x, -, made⟩ := except_bind_eq_ok.mp made
    cases made
    rfl
  · cases made

omit hereditary in
theorem isPlain_of_runFormat {fill : List Char → List (List Char) → List Char} {store : Store} {arguments : List Value}
    (made : Builtin.runFormat fill store arguments = .ok value) : value.isPlain = true := by
  unfold Builtin.runFormat at made
  split at made
  · cases made
  · obtain ⟨text, -, made⟩ := except_bind_eq_ok.mp made
    cases made
    rfl

omit hereditary in
theorem isPlain_of_runInt {arguments : List Value} (made : Builtin.runInt arguments = .ok value) :
    value.isPlain = true := by
  unfold Builtin.runInt at made
  split at made
  · rename_i operand
    cases converted : Builtin.toInteger operand <;> rw [converted] at made <;> cases made
    rfl
  · cases made

omit hereditary in
theorem isPlain_of_runFloat {arguments : List Value} (made : Builtin.runFloat arguments = .ok value) :
    value.isPlain = true := by
  unfold Builtin.runFloat at made
  split at made
  · rename_i operand
    cases converted : Builtin.toFloat operand <;> rw [converted] at made <;> cases made
    rfl
  · cases made

/-- What a builtin function makes of its arguments without looking at groups. -/
theorem runPure? {store : Store} {function : Builtin} {arguments : List Value}
    (fits : ∀ item ∈ arguments, fit item)
    (made : function.runPure? store arguments = some (.ok value)) : fit value := by
  unfold Builtin.runPure? at made
  split at made <;> simp only [Option.some.injEq, reduceCtorEq] at made
  case h_2 => exact hereditary.runRange made
  case h_3 | h_4 => exact hereditary.runExtreme fits made
  case h_5 => exact hereditary.runSum fits made
  case h_9 => exact hereditary.runSplit made
  case h_15 => exact hereditary.plain (isPlain_of_runAbs made)
  case h_25 => exact hereditary.runPow fits made
  case h_16 | h_17 | h_18 | h_19 | h_20 | h_21 | h_22 | h_23 | h_24 =>
    exact hereditary.plain (isPlain_of_runReal (fun _ => rfl) made)
  case h_10 => exact hereditary.plain (isPlain_of_runInt made)
  case h_11 => exact hereditary.plain (isPlain_of_runFloat made)
  -- The others only look at the form of their arguments.
  case h_1 | h_6 | h_7 | h_8 | h_12 | h_13 | h_14 =>
    simp only [Builtin.runLen, Builtin.runStr, Builtin.runRepr, Builtin.runJoin, Builtin.runType,
      Builtin.runIsGroup, Builtin.runCallable] at made
    split at made
    all_goals
      cases made
    all_goals exact hereditary.plain rfl

end Hereditary

end Value

theorem Value.Hereditary.replaceAt {fit : Value → Prop} (hereditary : Value.Hereditary fit) {new old value : Value}
    {indices : List Value} (fitsNew : fit new) (fitsOld : fit old)
    (replaced : Value.replaceAt new indices old = .ok value) : fit value := by
  induction indices generalizing old value with
  | nil =>
      cases replaced
      exact fitsNew
  | cons index indices ih =>
      cases old with
      | list items =>
          obtain ⟨place, -, replaced⟩ := except_bind_eq_ok.mp replaced
          obtain ⟨element, inside, replaced⟩ := except_bind_eq_ok.mp replaced
          cases replaced
          have all := hereditary.list.mp fitsOld
          have fitsElement : fit element := by
            refine ih ?_ inside
            rcases Nat.lt_or_ge place items.length with present | absent
            · rw [List.getD_eq_getElem items .nil present]
              exact all _ (List.getElem_mem present)
            · rw [List.getD_eq_default items .nil absent]
              exact hereditary.plain rfl
          refine hereditary.list.mpr fun item member => ?_
          rcases List.mem_or_eq_of_mem_set member with old | rfl
          · exact all item old
          · exact fitsElement
      | _ => cases replaced

end GroupScript
