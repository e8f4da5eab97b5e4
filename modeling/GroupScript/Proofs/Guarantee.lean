import GroupScript.Interpreter.Basic
import GroupScript.Proofs.Outcome

/-!
# Guarantees

A guarantee consists of an invariant of states and a relation between earlier and later states.  A computation keeps it
if from every state with the invariant it leads to a related state with the invariant, whether it succeeds or fails, and
if its values have a given property.  Sequencing and branching keep what their parts keep, so a guarantee of a long
computation comes from its steps.  Nothing is said of a run that was cut off.
-/

namespace GroupScript

/-- Which errors are outcomes of a program; the others mean that its run was cut off. -/
class Fault (ε : Type) where
  final : ε → Prop

instance : Fault Error := ⟨fun _ => True⟩

instance : Fault Halt := ⟨fun halt => halt ≠ .exhausted⟩

/-- An invariant of states and a relation from earlier to later states. -/
structure Guarantee (σ : Type) where
  holds : σ → Prop
  leads : σ → σ → Prop
  refl : ∀ state, leads state state
  trans : ∀ {first second third}, leads first second → leads second third → leads first third

/-- A computation comes to its end in a state, with a value or with an error. -/
def Ends {σ α : Type} (action : Run σ α) (before after : σ) : Prop :=
  (∃ value, action before = .ok value after) ∨ ∃ error, action before = .error (.failure error) after

namespace Guarantee

variable {ε σ α β : Type} [Fault ε] {guarantee : Guarantee σ}

/-- A computation keeps a guarantee and gives values with a property. -/
structure Keeps (guarantee : Guarantee σ) (action : EStateM ε σ α) (property : α → Prop) : Prop where
  ok : ∀ {before value after}, guarantee.holds before → action before = .ok value after →
    guarantee.holds after ∧ guarantee.leads before after ∧ property value
  error : ∀ {before reason after}, guarantee.holds before → action before = .error reason after →
    Fault.final reason → guarantee.holds after ∧ guarantee.leads before after

namespace Keeps

variable {action : EStateM ε σ α} {property other : α → Prop}

theorem pure {value : α} (has : property value) :
    guarantee.Keeps (Pure.pure value : EStateM ε σ α) property where
  ok := by
    intro before result after holds finished
    cases finished
    exact ⟨holds, guarantee.refl before, has⟩
  error := by
    intro before reason after holds finished
    cases finished

theorem throw (reason : ε) :
    guarantee.Keeps (MonadExcept.throw reason : EStateM ε σ α) property where
  ok := by
    intro before result after holds finished
    cases finished
  error := by
    intro before found after holds finished final
    cases finished
    exact ⟨holds, guarantee.refl before⟩

theorem bind {next : α → EStateM ε σ β} {second : β → Prop} (first : guarantee.Keeps action property)
    (continues : ∀ value, property value → guarantee.Keeps (next value) second) :
    guarantee.Keeps (action >>= next) second where
  ok := by
    intro before result after holds finished
    obtain ⟨value, between, firstRun, secondRun⟩ := bind_eq_ok finished
    obtain ⟨holdsBetween, leads, has⟩ := first.ok holds firstRun
    obtain ⟨holdsAfter, leadsOn, hasToo⟩ := (continues value has).ok holdsBetween secondRun
    exact ⟨holdsAfter, guarantee.trans leads leadsOn, hasToo⟩
  error := by
    intro before reason after holds finished final
    rcases bind_eq_error finished with firstFails | ⟨value, between, firstRun, secondFails⟩
    · exact first.error holds firstFails final
    · obtain ⟨holdsBetween, leads, has⟩ := first.ok holds firstRun
      obtain ⟨holdsAfter, leadsOn⟩ := (continues value has).error holdsBetween secondFails final
      exact ⟨holdsAfter, guarantee.trans leads leadsOn⟩

/-- What follows an error is never reached. -/
theorem thrown (reason : ε) (next : α → EStateM ε σ β) {property : β → Prop} :
    guarantee.Keeps ((MonadExcept.throw reason : EStateM ε σ α) >>= next) property :=
  bind (throw reason : guarantee.Keeps _ fun _ => False) fun _ => False.elim

theorem imp (keeps : guarantee.Keeps action property)
    (weaker : ∀ value, property value → other value) : guarantee.Keeps action other where
  ok := by
    intro before value after holds finished
    obtain ⟨holdsAfter, leads, has⟩ := keeps.ok holds finished
    exact ⟨holdsAfter, leads, weaker value has⟩
  error := keeps.error

/-- What is known of the values from elsewhere may be added. -/
theorem giving (keeps : guarantee.Keeps action property)
    (gives : ∀ {before value after}, guarantee.holds before → action before = .ok value after →
      other value) :
    guarantee.Keeps action other where
  ok := by
    intro before value after holds finished
    obtain ⟨holdsAfter, leads, -⟩ := keeps.ok holds finished
    exact ⟨holdsAfter, leads, gives holds finished⟩
  error := keeps.error

/-- A guarantee that demands less is kept as well. -/
theorem transfer {weaker : Guarantee σ} (keeps : guarantee.Keeps action property)
    (holds : ∀ {state}, weaker.holds state → guarantee.holds state)
    (follows : ∀ {before after}, weaker.holds before → guarantee.leads before after →
      weaker.holds after ∧ weaker.leads before after) :
    weaker.Keeps action property where
  ok := by
    intro before value after start finished
    obtain ⟨-, leads, has⟩ := keeps.ok (holds start) finished
    obtain ⟨holdsAfter, leadsToo⟩ := follows start leads
    exact ⟨holdsAfter, leadsToo, has⟩
  error := by
    intro before reason after start finished final
    exact follows start (keeps.error (holds start) finished final).2

/-- Reading the state gives one with the invariant. -/
theorem get : guarantee.Keeps (MonadState.get : EStateM ε σ σ) guarantee.holds where
  ok := by
    intro before value after holds finished
    cases finished
    exact ⟨holds, guarantee.refl before, holds⟩
  error := by
    intro before reason after holds finished
    cases finished

theorem modifyGet {change : σ → α × σ}
    (step : ∀ state, guarantee.holds state →
      guarantee.holds (change state).2 ∧ guarantee.leads state (change state).2 ∧
        property (change state).1) :
    guarantee.Keeps (MonadState.modifyGet change : EStateM ε σ α) property where
  ok := by
    intro before value after holds finished
    have same : EStateM.modifyGet change before = .ok value after := finished
    rw [EStateM.modifyGet] at same
    have changed := step before holds
    cases made : change before with
    | mk result state =>
        rw [made] at same changed
        cases same
        exact changed
  error := by
    intro before reason after holds finished
    have same : EStateM.modifyGet change before = .error reason after := finished
    rw [EStateM.modifyGet] at same
    cases made : change before
    rw [made] at same
    cases same

theorem changing {change : σ → σ}
    (step : ∀ state, guarantee.holds state →
      guarantee.holds (change state) ∧ guarantee.leads state (change state)) :
    guarantee.Keeps (modify change : EStateM ε σ PUnit) (fun _ => True) :=
  modifyGet fun state holds => ⟨(step state holds).1, (step state holds).2, trivial⟩

theorem ite {test : Prop} [Decidable test] {yes no : EStateM ε σ α}
    (keepsYes : test → guarantee.Keeps yes property)
    (keepsNo : ¬test → guarantee.Keeps no property) :
    guarantee.Keeps (if test then yes else no) property := by
  by_cases holds : test
  · rw [if_pos holds]
    exact keepsYes holds
  · rw [if_neg holds]
    exact keepsNo holds

theorem fail (error : Error) : guarantee.Keeps (GroupScript.fail error : Run σ α) property :=
  throw _

/-- Whatever the end of a computation, it is one that the guarantee allows. -/
theorem of_ends {action : Run σ α} {before after : σ} (keeps : guarantee.Keeps action property)
    (holds : guarantee.holds before) (ends : Ends action before after) :
    guarantee.holds after ∧ guarantee.leads before after := by
  rcases ends with ⟨value, finished⟩ | ⟨error, failed⟩
  · obtain ⟨holdsAfter, leads, -⟩ := keeps.ok holds finished
    exact ⟨holdsAfter, leads⟩
  · exact keeps.error holds failed Halt.noConfusion

theorem ofResult {result : Except Error α} (has : ∀ value, result = .ok value → property value) :
    guarantee.Keeps (GroupScript.ofResult result : Run σ α) property := by
  cases result with
  | ok value => exact pure (has value rfl)
  | error error => exact fail error

end Keeps

/-! ### From one state -/

/-- From one state, a computation keeps a guarantee and ends with a value and a state that are related. -/
structure KeepsFrom (guarantee : Guarantee σ) (before : σ) (action : EStateM ε σ α) (post : α → σ → Prop) :
    Prop where
  ok : ∀ {value after}, action before = .ok value after →
    guarantee.holds after ∧ guarantee.leads before after ∧ post value after
  error : ∀ {reason after}, action before = .error reason after → Fault.final reason →
    guarantee.holds after ∧ guarantee.leads before after

theorem Keeps.here {action : EStateM ε σ α} {property : α → Prop} {before : σ}
    (keeps : guarantee.Keeps action property) (holds : guarantee.holds before) :
    guarantee.KeepsFrom before action (fun value _ => property value) where
  ok := keeps.ok holds
  error := keeps.error holds

theorem Keeps.everywhere {action : EStateM ε σ α} {property : α → Prop}
    (keeps : ∀ before, guarantee.holds before →
      guarantee.KeepsFrom before action (fun value _ => property value)) :
    guarantee.Keeps action property where
  ok := fun holds finished => (keeps _ holds).ok finished
  error := fun holds finished => (keeps _ holds).error finished

namespace KeepsFrom

variable {before : σ} {action : EStateM ε σ α} {post : α → σ → Prop}

theorem bind {next : α → EStateM ε σ β} {last : β → σ → Prop}
    (first : guarantee.KeepsFrom before action post)
    (continues : ∀ value after, guarantee.holds after → post value after →
      guarantee.KeepsFrom after (next value) last) :
    guarantee.KeepsFrom before (action >>= next) last where
  ok := by
    intro result after finished
    obtain ⟨value, between, firstRun, secondRun⟩ := bind_eq_ok finished
    obtain ⟨holds, leads, has⟩ := first.ok firstRun
    obtain ⟨holdsAfter, leadsOn, hasToo⟩ := (continues value between holds has).ok secondRun
    exact ⟨holdsAfter, guarantee.trans leads leadsOn, hasToo⟩
  error := by
    intro reason after finished final
    rcases bind_eq_error finished with firstFails | ⟨value, between, firstRun, secondFails⟩
    · exact first.error firstFails final
    · obtain ⟨holds, leads, has⟩ := first.ok firstRun
      obtain ⟨holdsAfter, leadsOn⟩ := (continues value between holds has).error secondFails final
      exact ⟨holdsAfter, guarantee.trans leads leadsOn⟩

/-- What is known of the end may include how it came about. -/
theorem recording (keeps : guarantee.KeepsFrom before action post) :
    guarantee.KeepsFrom before action
      (fun value after => action before = .ok value after ∧ guarantee.leads before after ∧ post value after) where
  ok := by
    intro value after finished
    obtain ⟨holds, leads, has⟩ := keeps.ok finished
    exact ⟨holds, leads, finished, leads, has⟩
  error := keeps.error

/-- A computation that is known to end with a value. -/
theorem ends {value : α} {after : σ} (finished : action before = .ok value after)
    (holds : guarantee.holds after) (leads : guarantee.leads before after) (has : post value after) :
    guarantee.KeepsFrom before action post where
  ok := by
    intro result other ended
    rw [finished] at ended
    cases ended
    exact ⟨holds, leads, has⟩
  error := by
    intro reason other ended
    rw [finished] at ended
    cases ended

/-- A computation that is known to halt where it started. -/
theorem halts {reason : ε} (finished : action before = .error reason before) (holds : guarantee.holds before) :
    guarantee.KeepsFrom before action post where
  ok := by
    intro result other ended
    rw [finished] at ended
    cases ended
  error := by
    intro found other ended _
    rw [finished] at ended
    cases ended
    exact ⟨holds, guarantee.refl before⟩

theorem reading {next : σ → EStateM ε σ α} (continues : guarantee.KeepsFrom before (next before) post) :
    guarantee.KeepsFrom before (get >>= next) post where
  ok := continues.ok
  error := continues.error

theorem pure {value : α} (holds : guarantee.holds before) (has : post value before) :
    guarantee.KeepsFrom before (Pure.pure value : EStateM ε σ α) post :=
  ends rfl holds (guarantee.refl before) has

theorem throw (reason : ε) (holds : guarantee.holds before) :
    guarantee.KeepsFrom before (MonadExcept.throw reason : EStateM ε σ α) post :=
  halts rfl holds

theorem setting {after : σ} (holds : guarantee.holds after) (leads : guarantee.leads before after) :
    guarantee.KeepsFrom before (set after : EStateM ε σ PUnit) (fun _ state => state = after) :=
  ends rfl holds leads rfl

/-- A computation whose end comes from the end of another one. -/
theorem wrapping {φ τ γ : Type} (inner : EStateM.Result φ τ γ)
    (succeeds : ∀ {result state}, inner = .ok result state →
      ∃ value after, action before = .ok value after ∧
        guarantee.holds after ∧ guarantee.leads before after ∧ post value after)
    (fails : ∀ {fault state}, inner = .error fault state →
      ∃ reason after, action before = .error reason after ∧
        (Fault.final reason → guarantee.holds after ∧ guarantee.leads before after)) :
    guarantee.KeepsFrom before action post := by
  cases ran : inner with
  | ok result state =>
      obtain ⟨value, after, finished, holds, leads, has⟩ := succeeds ran
      exact ends finished holds leads has
  | error fault state =>
      obtain ⟨reason, after, finished, kept⟩ := fails ran
      constructor
      · intro value other ended
        rw [finished] at ended
        cases ended
      · intro found other ended final
        rw [finished] at ended
        cases ended
        exact kept final

end KeepsFrom

section Actions

variable {guarantee : Guarantee Workspace} {property : α → Prop}

theorem KeepsFrom.ofAccess {access : Access α} {before : Workspace} {post : α → Workspace → Prop}
    (keeps : guarantee.KeepsFrom before access post) :
    guarantee.KeepsFrom before (Action.ofAccess access) post := by
  apply KeepsFrom.wrapping (access before)
  · intro value state ran
    exact ⟨value, state, by rw [Action.ofAccess, ran], keeps.ok ran⟩
  · intro error state ran
    exact ⟨_, state, by rw [Action.ofAccess, ran], fun _ => keeps.error ran trivial⟩

theorem Keeps.ofAccess {access : Access α} (keeps : guarantee.Keeps access property) :
    guarantee.Keeps (Action.ofAccess access) property :=
  .everywhere fun _ holds => (keeps.here holds).ofAccess

/-- A guarantee that does not look at the nesting is kept one level deeper. -/
theorem Keeps.deeper {action : Action α} (keeps : guarantee.Keeps action property)
    (blind : ∀ {state} depth, guarantee.holds state →
      guarantee.holds { state with depth } ∧ guarantee.leads state { state with depth }) :
    guarantee.Keeps action.deeper property := by
  apply Keeps.everywhere
  intro before holds
  obtain ⟨holdsInside, leadsInside⟩ := blind (before.depth + 1) holds
  apply KeepsFrom.wrapping (action { before with depth := before.depth + 1 })
  · intro value state ran
    obtain ⟨holdsBetween, leads, has⟩ := keeps.ok holdsInside ran
    obtain ⟨holdsAfter, leadsAfter⟩ := blind (state.depth - 1) holdsBetween
    refine ⟨value, _, by rw [Action.deeper, ran], holdsAfter, ?_, has⟩
    exact guarantee.trans leadsInside (guarantee.trans leads leadsAfter)
  · intro halt state ran
    refine ⟨halt, _, by rw [Action.deeper, ran], fun final => ?_⟩
    obtain ⟨holdsBetween, leads⟩ := keeps.error holdsInside ran final
    obtain ⟨holdsAfter, leadsAfter⟩ := blind (state.depth - 1) holdsBetween
    exact ⟨holdsAfter, guarantee.trans leadsInside (guarantee.trans leads leadsAfter)⟩

end Actions

end Guarantee

end GroupScript
