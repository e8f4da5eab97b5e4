import Mathlib
import GroupScript.Expr.Machine

/-!
# Outcomes of computations

A computation with a state ends with a value or halts.  Two predicates say what is known of either end without
fixing the state: `Gives` bounds the values and `HaltsOnly` bounds the ways of halting.  Both pass through
sequencing, so facts about a long computation come from facts about its steps.
-/

namespace GroupScript

variable {ε σ α β : Type}

/-- Every value that a computation gives has a property. -/
def Gives (action : Run σ α) (property : α → Prop) : Prop :=
  ∀ ⦃before value after⦄, action before = .ok value after → property value

/-- Whenever a computation halts, the reason and the state it leaves are related. -/
def HaltsOnly (action : Run σ α) (allowed : Halt → σ → Prop) : Prop :=
  ∀ ⦃before halt after⦄, action before = .error halt after → allowed halt after

/-- Two results in a row succeed if the first one does and the second one, which may depend on it, does too. -/
theorem except_bind_eq_ok {result : Except ε α} {next : α → Except ε β} {value : β} :
    result >>= next = .ok value ↔ ∃ first, result = .ok first ∧ next first = .ok value := by
  cases result with
  | ok first =>
      constructor
      · intro finished
        exact ⟨first, rfl, finished⟩
      · rintro ⟨other, equal, finished⟩
        cases equal
        exact finished
  | error fault =>
      constructor
      · intro finished
        cases finished
      · rintro ⟨other, equal, -⟩
        cases equal

/-- Rewording the error of a result leaves its value alone. -/
theorem except_mapError_eq_ok {φ : Type} {result : Except ε α} {reword : ε → φ} {value : α} :
    result.mapError reword = .ok value ↔ result = .ok value := by
  cases result <;> simp [Except.mapError]

theorem bind_apply (action : EStateM ε σ α) (next : α → EStateM ε σ β) (before : σ) :
    (action >>= next) before =
      match action before with
      | .ok value after => next value after
      | .error halt after => .error halt after := by
  change EStateM.bind action next before = _
  rw [EStateM.bind]
  cases action before <;> rfl

theorem get_bind_apply (next : σ → EStateM ε σ α) (before : σ) : (get >>= next) before = next before before :=
  rfl

theorem bind_eq_error {action : EStateM ε σ α} {next : α → EStateM ε σ β} {before after : σ} {halt : ε}
    (halted : (action >>= next) before = .error halt after) :
    action before = .error halt after ∨
      ∃ value between, action before = .ok value between ∧
        next value between = .error halt after := by
  rw [bind_apply] at halted
  cases first : action before with
  | ok value between =>
      rw [first] at halted
      exact Or.inr ⟨value, between, rfl, halted⟩
  | error reason between =>
      rw [first] at halted
      cases halted
      exact Or.inl rfl

theorem bind_eq_ok {action : EStateM ε σ α} {next : α → EStateM ε σ β} {before after : σ} {result : β}
    (finished : (action >>= next) before = .ok result after) :
    ∃ value between, action before = .ok value between ∧
      next value between = .ok result after := by
  rw [bind_apply] at finished
  cases first : action before with
  | ok value between =>
      rw [first] at finished
      exact ⟨value, between, rfl, finished⟩
  | error reason between =>
      rw [first] at finished
      cases finished

/-- Two continuations may be exchanged if they agree on the values that can reach them. -/
theorem Gives.bind_congr {action : Run σ α} {property : α → Prop} {first second : α → Run σ β}
    (gives : Gives action property)
    (agree : ∀ value, property value → first value = second value) :
    action >>= first = action >>= second := by
  funext before
  rw [bind_apply, bind_apply]
  cases result : action before with
  | ok value after => exact congrFun (agree value (gives result)) after
  | error halt after => rfl

/-- Whether a computation ends with a value. -/
def succeeds (action : Run σ α) (before : σ) : Bool :=
  match action before with
  | .ok _ _ => true
  | .error _ _ => false

theorem exists_of_succeeds {action : Run σ α} {before : σ} (success : succeeds action before = true) :
    ∃ value after, action before = .ok value after := by
  unfold succeeds at success
  split at success
  · rename_i value after finished
    exact ⟨value, after, finished⟩
  · cases success

theorem Gives.pure {property : α → Prop} {value : α} (holds : property value) :
    Gives (σ := σ) (Pure.pure value) property := by
  intro before result after finished
  cases finished
  exact holds

theorem Gives.bind {action : Run σ α} {next : α → Run σ β} {first : α → Prop} {second : β → Prop}
    (gives : Gives action first) (continues : ∀ value, first value → Gives (next value) second) :
    Gives (action >>= next) second := by
  intro before result after finished
  obtain ⟨value, between, firstRun, secondRun⟩ := bind_eq_ok finished
  exact continues value (gives firstRun) secondRun

theorem Gives.trivial (action : Run σ α) : Gives action fun _ => True :=
  fun _ _ _ _ => True.intro

theorem Gives.ite {condition : Prop} [Decidable condition] {first second : Run σ α} {property : α → Prop}
    (yes : condition → Gives first property) (no : ¬condition → Gives second property) :
    Gives (if condition then first else second) property := by
  split
  · rename_i holds
    exact yes holds
  · rename_i fails
    exact no fails

theorem Gives.throw {property : α → Prop} (halt : Halt) : Gives (MonadExcept.throw halt : Run σ α) property := by
  intro before value after finished
  cases finished

theorem Gives.ofResult (result : Except Error α) :
    Gives (GroupScript.ofResult result : Run σ α) fun value => result = .ok value := by
  intro before value after finished
  cases result with
  | ok found =>
      cases finished
      rfl
  | error error => cases finished

theorem Gives.imp {action : Run σ α} {first second : α → Prop} (gives : Gives action first)
    (implies : ∀ value, first value → second value) : Gives action second :=
  fun _ _ _ finished => implies _ (gives finished)

theorem HaltsOnly.pure (value : α) (allowed : Halt → σ → Prop) :
    HaltsOnly (Pure.pure value) allowed := by
  intro before halt after halted
  cases halted

theorem HaltsOnly.get (allowed : Halt → σ → Prop) :
    HaltsOnly (MonadState.get : Run σ σ) allowed := by
  intro before halt after halted
  cases halted

theorem HaltsOnly.bind {action : Run σ α} {next : α → Run σ β} {allowed : Halt → σ → Prop}
    (first : HaltsOnly action allowed) (second : ∀ value, HaltsOnly (next value) allowed) :
    HaltsOnly (action >>= next) allowed := by
  intro before halt after halted
  rcases bind_eq_error halted with firstHalts | ⟨value, between, -, secondHalts⟩
  · exact first firstHalts
  · exact second value secondHalts

/-- A result that is turned into a computation halts only with its own error. -/
theorem HaltsOnly.ofResult {result : Except Error α} {allowed : Halt → σ → Prop}
    (errors : ∀ error, result = .error error → ∀ state, allowed (.failure error) state) :
    HaltsOnly (GroupScript.ofResult result) allowed := by
  intro before halt after halted
  cases result with
  | ok value => cases halted
  | error error =>
      cases halted
      exact errors error rfl _

end GroupScript
