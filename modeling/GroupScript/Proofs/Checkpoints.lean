import GroupScript.Proofs.Importing

/-!
# Interpreters with checks

An interpreter may be made to check something before each import, before an import binds what it has loaded, before each
call and before each change that a program of the surroundings makes, and to give up where the check strikes.  No
statement catches that it gives up.  So a run that it brings to an end is one in which nothing of what is checked for has
happened, and the interpreter without checks runs the same way.  With checks that never strike it is the interpreter
without checks.
-/

namespace GroupScript

/-- What is checked for, before an import in a scope and before it binds a module with a group, before a call from a scope,
and before a change of a group by a program of the surroundings. -/
structure Checks where
  imports : Scope → Import → Bool → Workspace → Bool := fun _ _ _ _ => false
  binds : Scope → Import → GroupId → Workspace → Bool := fun _ _ _ _ => false
  calls : Scope → Value → List Value → List (String × Value) → Workspace → Bool := fun _ _ _ _ _ => false
  changes : GroupId → Workspace → Bool := fun _ _ => false

/-- Gives up if a test is true, and carries out an action otherwise. -/
def Action.unless {α : Type} (test : Workspace → Bool) (action : Action α) : Action α := fun workspace =>
  if test workspace then .error .exhausted workspace else action workspace

namespace Interpreter

variable (environment : Environment) (checks : Checks) (inner : Interpreter) (scope : Scope)

/-- Imports a module unless a check strikes. -/
def importChecked (item : Import) (reload : Bool) : Action GroupId := do
  let group ← Action.unless (checks.imports scope item reload) (inner.moduleFor environment item.source reload)
  Action.unless (checks.binds scope item group) (bindImport scope item group)

/-- Changes a group unless a check strikes. -/
def changeChecked (group : GroupId) (change : Group → Group) : Action Unit :=
  .unless (checks.changes group) (changeGroup group change)

/-- Carries out a program of the surroundings with checks. -/
def fulfilChecked : HostProgram → Action Value :=
  fulfilBy (inner.evaluate · scope) (importChecked environment checks inner scope) (changeChecked checks) scope

/-- Calls a native function with checks. -/
def callNativeChecked : Native → List Value → Action Value :=
  callNativeBy environment (importChecked environment checks inner scope) (fulfilChecked environment checks inner scope)
    scope

/-- Calls a value unless a check strikes. -/
def callChecked (function : Value) (arguments : List Value) (keywords : List (String × Value)) : Action Value :=
  .unless (checks.calls scope function arguments keywords)
    (inner.callBy environment (callNativeChecked environment checks inner scope) function arguments keywords)

/-- Evaluates code with checks. -/
def evaluateChecked (code : Code) : Action Value :=
  { inner.host environment scope with call := callChecked environment checks inner scope : Host Workspace }.run code

/-- Runs a statement with checks. -/
def executeChecked (bound : Nat) (statement : Statement) : Action Signal :=
  executeBy (evaluateChecked environment checks inner scope) (inner.block scope)
    (importAllBy (importChecked environment checks inner scope)) bound statement scope

/-- The interpreter with checks and with a number of levels. -/
def checked : Nat → Interpreter
  | 0 => spent
  | levels + 1 =>
      { execute := fun statement scope => executeChecked environment checks (checked levels) scope levels statement
        evaluate := fun code scope => evaluateChecked environment checks (checked levels) scope code }

/-- Checks that never strike make no difference. -/
theorem checked_none (levels : Nat) : checked environment {} levels = ofLevels environment levels := by
  induction levels with
  | zero => rfl
  | succ levels ih =>
      rw [checked, ih]
      rfl

end Interpreter

theorem lockstep_unless {guarantee : Guarantee Workspace} {α : Type} {test : Workspace → Bool} {first second : Action α}
    {property : α → Prop}
    (lockstep : ∀ before, guarantee.holds before → test before = false →
      guarantee.LockstepFrom .unknown before first second fun value _ => property value) :
    guarantee.Lockstep .unknown (Action.unless test first) second property := by
  intro before holds
  cases tested : test before with
  | true => exact .cut (if_pos tested) trivial
  | false =>
      apply (lockstep before holds tested).of_eq
      exact if_neg (by simp [tested])

/-- What a guarantee has to allow in a scope where no check strikes, and what two interpreters for what is nested inside
have in common there. -/
structure Passing (guarantee : Guarantee Workspace) (checks : Checks) (environment : Environment)
    (inner other : Interpreter) (scope : Scope) :
    Prop extends Footing guarantee (fun _ => True) scope, Making guarantee Set.univ where
  clearance : ∀ bound, Clearance guarantee (fun _ => True) (fun _ => True) .unknown scope bound bound
  executes : ∀ statement, guarantee.Lockstep .unknown (inner.execute statement scope) (other.execute statement scope)
    (Signal.Fits fun _ => True)
  evaluates : ∀ code, guarantee.Lockstep .unknown (inner.evaluate code scope) (other.evaluate code scope) fun _ => True
  reads : ∀ {state} code, guarantee.holds state → state.depth < environment.maxDepth →
    guarantee.LockstepFrom .unknown state (inner.evaluate code scope).deeper (other.evaluate code scope).deeper
      fun _ _ => True
  loads : ∀ {state item reload}, guarantee.holds state → checks.imports scope item reload state = false →
    guarantee.LockstepFrom .unknown state (inner.moduleFor environment item.source reload)
      (other.moduleFor environment item.source reload) fun _ _ => True
  binds : ∀ {state item group}, guarantee.holds state → checks.binds scope item group state = false →
    guarantee.LockstepFrom .unknown state (Interpreter.bindImport scope item group)
      (Interpreter.bindImport scope item group) fun _ _ => True
  callsProcedure : ∀ {state id arguments keywords}, guarantee.holds state →
    checks.calls scope (.procedure id) arguments keywords state = false →
    guarantee.LockstepFrom .unknown state
      (inner.callProcedure environment (state.store.procedure id) arguments keywords)
      (other.callProcedure environment (state.store.procedure id) arguments keywords) fun _ _ => True
  deletesGroup : ∀ {state arguments}, guarantee.holds state →
    checks.calls scope (.native (.builtin .delGroup)) arguments [] state = false →
    guarantee.KeepsFrom state (Builtin.runDelGroup scope arguments) fun _ _ => True
  changes : ∀ {state group} change, guarantee.holds state → checks.changes group state = false →
    guarantee.holds (state.modifyGroup group change) ∧ guarantee.leads state (state.modifyGroup group change)

namespace Passing

variable {guarantee : Guarantee Workspace} {checks : Checks} {environment : Environment} {inner other : Interpreter}
  {scope : Scope} (passing : Passing guarantee checks environment inner other scope)

include passing

theorem lockstep_importChecked (item : Import) (reload : Bool) :
    guarantee.Lockstep .unknown (Interpreter.importChecked environment checks inner scope item reload)
      (other.importModule environment scope item reload) fun _ => True := by
  apply Guarantee.Lockstep.bind (lockstep_unless fun _ holds passes => passing.loads holds passes)
  intro group _
  exact lockstep_unless fun _ holds passes => passing.binds holds passes

theorem lockstep_importAll (items : List Import) :
    guarantee.Lockstep .unknown
      (Interpreter.importAllBy (Interpreter.importChecked environment checks inner scope) items)
      (other.importAll environment scope items) fun _ => True := by
  induction items with
  | nil => exact .pure trivial
  | cons item rest ih => exact .bind (passing.lockstep_importChecked item false) fun _ _ => ih

theorem serving : Serving guarantee Set.univ .unknown scope (inner.evaluate · scope) (other.evaluate · scope)
    (Interpreter.importChecked environment checks inner scope) (other.importModule environment scope)
    (Interpreter.changeChecked checks) Interpreter.changeGroup where
  toMaking := passing.toMaking
  consults := passing.consults
  evaluates := passing.evaluates
  loads := fun _ _ => passing.lockstep_importChecked _ _
  alters := by
    intro group change _
    apply lockstep_unless
    intro before holds passes
    obtain ⟨holdsAfter, leads⟩ := passing.changes change holds passes
    exact .ends rfl rfl holdsAfter leads trivial

theorem lockstep_callChecked (function : Value) (arguments : List Value) (keywords : List (String × Value)) :
    guarantee.Lockstep .unknown (Interpreter.callChecked environment checks inner scope function arguments keywords)
      (other.call environment scope function arguments keywords) fun _ => True := by
  apply lockstep_unless
  intro before holds passes
  unfold Interpreter.call Interpreter.callBy
  cases function with
  | procedure id => exact .reading (passing.callsProcedure holds passes)
  | native function =>
      dsimp only
      split
      · rename_i noKeywords
        rw [List.isEmpty_iff.mp noKeywords] at passes
        cases harmless : function.isHarmless with
        | true => exact passing.lockstep_callHarmless harmless (fun _ _ => trivial) before holds
        | false =>
            apply lockstepFrom_callNativeBy holds harmless
            · exact fun _ => passing.lockstep_importChecked _ _
            · rintro rfl
              exact passing.deletesGroup holds passes
            · exact fun _ => passing.serving.lockstep_fulfilBy fun _ _ => trivial
      · exact .fail _ holds
  | _ => exact .fail _ holds

/-- Code runs as without checks, up to where a check strikes. -/
theorem lockstep_evaluateChecked (code : Code) :
    guarantee.Lockstep .unknown (Interpreter.evaluateChecked environment checks inner scope code)
      (other.evaluateWith environment code scope) fun _ => True := by
  apply Guarantee.lockstep_run passing.toCarries rfl rfl
  · exact passing.lockstep_lookup fun holds _ shallow => passing.reads _ holds shallow
  · exact fun function arguments keywords _ _ _ => passing.lockstep_callChecked function arguments keywords
  · exact fun _ _ => trivial

/-- A statement runs as without checks, up to where a check strikes. -/
theorem lockstep_executeChecked (bound : Nat) (statement : Statement) :
    guarantee.Lockstep .unknown (Interpreter.executeChecked environment checks inner scope bound statement)
      (other.executeWith environment bound statement scope) (Signal.Fits fun _ => True) := by
  apply (passing.clearance bound).lockstep_executeBy passing.toFooting trivial
  · exact fun code _ => passing.lockstep_evaluateChecked code
  · exact fun body _ => lockstep_block fun part _ => passing.executes part
  · exact fun {items} _ => passing.lockstep_importAll items

end Passing

end GroupScript
