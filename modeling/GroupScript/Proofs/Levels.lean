import GroupScript.Proofs.Tandem

/-!
# Levels of the interpreter

An interpreter with few levels gives up where one with more levels goes on, and that is the only difference: a run that
came to its end is the same with more levels.
-/

namespace GroupScript

/-- A guarantee without invariant that looks neither at the groups, procedures and defined variables, nor at what is
written, logged and counted. -/
structure Tolerant (guarantee : Guarantee Workspace) : Prop where
  always : ∀ state, guarantee.holds state
  aside : ∀ (state : Workspace) (store : Store) (cache : SearchCache) (output : String) (log : Array LogEntry)
    (nextScope calls depth : Nat),
    guarantee.leads state { state with store, cache, output, log, nextScope, calls, depth }

namespace Tolerant

variable {guarantee : Guarantee Workspace} (tolerant : Tolerant guarantee)

include tolerant

theorem binding (scope : Scope) : Binding guarantee (fun _ => True) Set.univ scope where
  toCarries := Guarantee.carries_true _
  consults := by
    rintro before _ _ ⟨cache, output, log, rfl, -⟩
    exact ⟨tolerant.always _, tolerant.aside _ _ _ _ _ _ _ _⟩
  grows := fun _ => ⟨tolerant.always _, tolerant.aside _ _ _ _ _ _ _ _, trivial⟩
  searched := fun _ _ _ => trivial
  localGroup := trivial
  sets := fun _ _ _ _ => ⟨tolerant.always _, tolerant.aside _ _ _ _ _ _ _ _⟩
  removes := fun _ _ _ => ⟨tolerant.always _, tolerant.aside _ _ _ _ _ _ _ _⟩

theorem abreast {environment : Environment} {inner other : Interpreter}
    (executes : ∀ statement scope, guarantee.Lockstep .unknown (inner.execute statement scope)
      (other.execute statement scope) (Signal.Fits fun _ => True))
    (evaluates : ∀ code scope, guarantee.Lockstep .unknown (inner.evaluate code scope) (other.evaluate code scope)
      fun _ => True) :
    Abreast guarantee Set.univ .unknown environment inner other where
  mayCut := nofun
  binding := tolerant.binding
  scopes := fun _ _ => ⟨tolerant.always _, tolerant.aside _ _ _ _ _ _ _ _⟩
  supplies := fun _ _ => ⟨tolerant.always _, tolerant.aside _ _ _ _ _ _ _ _⟩
  makesGroup := fun _ _ => ⟨tolerant.always _, tolerant.aside _ _ _ _ _ _ _ _⟩
  changes := fun _ _ _ => ⟨tolerant.always _, tolerant.aside _ _ _ _ _ _ _ _⟩
  makesDefinition := fun _ _ => ⟨tolerant.always _, tolerant.aside _ _ _ _ _ _ _ _⟩
  makesProcedure := fun _ _ => ⟨tolerant.always _, tolerant.aside _ _ _ _ _ _ _ _⟩
  surroundings := environment.bindsIn_univ
  executes := fun scope _ => executes _ scope
  evaluates := evaluates
  reads := by
    intro state code scope _ _
    apply Guarantee.LockstepFrom.imp
    · apply (evaluates code scope _ (tolerant.always _)).deeper
      intro after _ leads
      have inside := guarantee.trans (tolerant.aside state _ _ _ _ _ _ _) leads
      exact ⟨tolerant.always _, guarantee.trans inside (tolerant.aside after _ _ _ _ _ _ _)⟩
    · exact fun _ _ _ => trivial
  calls := by
    intro state id arguments keywords _
    apply lockstepFrom_callProcedure guarantee Value.hereditary_true (tolerant.always _) rfl rfl
    · intro _ _
      exact lockstep_block (fun statement _ => executes statement state.callScope) _ (tolerant.always _)
    · intro _ _ after output log _ leads
      have inside := guarantee.trans (tolerant.aside state _ _ _ _ _ _ _) leads
      exact ⟨tolerant.always _, guarantee.trans inside (tolerant.aside after _ _ _ _ _ _ _)⟩

end Tolerant

/-- A tolerant guarantee that allows to register modules. -/
structure Lenient (guarantee : Guarantee Workspace) : Prop extends Tolerant guarantee where
  registers : ∀ (state : Workspace) (name : String) (loaded : LoadedModule),
    guarantee.leads state (state.register name loaded)

namespace Lenient

variable {guarantee : Guarantee Workspace} (lenient : Lenient guarantee)

include lenient

theorem tandem {environment : Environment} {inner other : Interpreter}
    (executes : ∀ statement scope, guarantee.Lockstep .unknown (inner.execute statement scope)
      (other.execute statement scope) (Signal.Fits fun _ => True))
    (evaluates : ∀ code scope, guarantee.Lockstep .unknown (inner.evaluate code scope) (other.evaluate code scope)
      fun _ => True) :
    Tandem guarantee Set.univ .unknown environment inner other where
  toAbreast := lenient.abreast executes evaluates
  registers := fun _ _ _ => ⟨lenient.always _, lenient.registers _ _ _⟩
  known := fun _ _ => trivial

/-- What an interpreter does before it gives up, one with more levels does too. -/
theorem lockstep_ofLevels {environment : Environment} {levels more : Nat} (le : levels ≤ more) :
    (∀ statement scope, guarantee.Lockstep .unknown ((Interpreter.ofLevels environment levels).execute statement scope)
      ((Interpreter.ofLevels environment more).execute statement scope) (Signal.Fits fun _ => True)) ∧
    ∀ code scope, guarantee.Lockstep .unknown ((Interpreter.ofLevels environment levels).evaluate code scope)
      ((Interpreter.ofLevels environment more).evaluate code scope) fun _ => True := by
  induction levels generalizing more with
  | zero =>
      constructor
      · intro statement scope before _
        exact .cut rfl trivial
      · intro code scope before _
        exact .cut rfl trivial
  | succ levels ih =>
      obtain ⟨rest, rfl⟩ : ∃ rest, more = rest + 1 := ⟨more - 1, by omega⟩
      have fewer : levels ≤ rest := Nat.le_of_succ_le_succ le
      have tandem : Tandem guarantee Set.univ .unknown environment (.ofLevels environment levels)
          (.ofLevels environment rest) :=
        lenient.tandem (ih fewer).1 (ih fewer).2
      constructor
      · intro statement scope
        exact tandem.lockstep_executeWith scope (.inr ⟨rfl, fewer⟩) fun _ _ _ _ => trivial
      · intro code scope
        exact tandem.lockstep_evaluateWith code scope

end Lenient

/-- The guarantee that allows everything. -/
def permitting : Guarantee Workspace where
  holds := fun _ => True
  leads := fun _ _ => True
  refl := fun _ => trivial
  trans := fun _ _ => trivial

theorem lenient_permitting : Lenient permitting :=
  ⟨⟨fun _ => trivial, fun _ _ _ _ _ _ _ _ => trivial⟩, fun _ _ _ => trivial⟩

/-- A statement that came to its end comes to the same end with more levels. -/
theorem execute_of_ends {environment : Environment} {levels more : Nat} {statement : Statement} {scope : Scope}
    {before after : Workspace} (le : levels ≤ more)
    (ended : Ends ((Interpreter.ofLevels environment levels).execute statement scope) before after) :
    (Interpreter.ofLevels environment more).execute statement scope before =
      (Interpreter.ofLevels environment levels).execute statement scope before :=
  ((lenient_permitting.lockstep_ofLevels le).1 statement scope before trivial).of_ends ended

end GroupScript
