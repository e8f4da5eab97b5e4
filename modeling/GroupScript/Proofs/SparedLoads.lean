import GroupScript.Proofs.Checkpoints
import GroupScript.Proofs.Levels

/-!
# Sparing a module

A module is loaded by an import while nothing is registered under its name, and by every import that loads it anew.  The
interpreter that spares a module checks for this before each import.  So a run that it brings to an end is one in which
the module is not loaded: the interpreter runs the same way, and what is registered under the name of the module stays as
it was.
-/

namespace GroupScript

/-- Whether an import from a source would load the module of a name. -/
def Workspace.wouldLoad (workspace : Workspace) (name source : String) (reload : Bool) : Bool :=
  source == name && (reload || (workspace.moduleGroup? name).isNone)

/-- Checks for imports that would load the module of a name. -/
def Checks.loading (name : String) : Checks where
  imports := fun _ item reload workspace => workspace.wouldLoad name item.source reload

/-- The guarantee that what is registered under a name stays as it is. -/
def keepingModule (name : String) : Guarantee Workspace where
  holds := fun _ => True
  leads := fun before after => after.modules.get? name = before.modules.get? name
  refl := fun _ => rfl
  trans := fun first second => second.trans first

theorem tolerant_keepingModule (name : String) : Tolerant (keepingModule name) :=
  ⟨fun _ => trivial, fun _ _ _ _ _ _ _ _ => rfl⟩

theorem keepingModule_register {name source : String} (other : source ≠ name) (state : Workspace)
    (loaded : LoadedModule) : (keepingModule name).leads state (state.register source loaded) := by
  change (state.modules.put source loaded).get? name = state.modules.get? name
  rw [Dictionary.get?_put, if_neg other]

section Sparing

variable {environment : Environment} {name : String} {inner other : Interpreter}
  (executes : ∀ statement scope, (keepingModule name).Lockstep .unknown (inner.execute statement scope)
    (other.execute statement scope) (Signal.Fits fun _ => True))
  (evaluates : ∀ code scope, (keepingModule name).Lockstep .unknown (inner.evaluate code scope)
    (other.evaluate code scope) fun _ => True)

include executes evaluates

theorem abreast_keepingModule : Abreast (keepingModule name) Set.univ .unknown environment inner other :=
  (tolerant_keepingModule name).abreast executes evaluates

/-- A module other than the spared one may be registered. -/
theorem lockstepFrom_moduleFor_sparing {source : String} {reload : Bool} {before : Workspace}
    (spares : before.wouldLoad name source reload = false) :
    (keepingModule name).LockstepFrom .unknown before (inner.moduleFor environment source reload)
      (other.moduleFor environment source reload) fun _ _ => True := by
  have finds : (keepingModule name).LockstepFrom .unknown before (inner.moduleFor environment source reload)
      (other.moduleFor environment source reload) fun _ _ => Importable environment before source := by
    apply (abreast_keepingModule executes evaluates).loading.lockstepFrom_moduleFor trivial
    intro loads _ state loaded _
    have elsewhere : source ≠ name := by
      rintro rfl
      rcases loads with rfl | missing
      · simp [Workspace.wouldLoad] at spares
      · simp [Workspace.wouldLoad, missing] at spares
    exact ⟨trivial, keepingModule_register elsewhere state loaded⟩
  exact finds.imp fun _ _ _ => trivial

theorem passing_keepingModule (scope : Scope) :
    Passing (keepingModule name) (.loading name) environment inner other scope := by
  have abreast : Abreast (keepingModule name) Set.univ .unknown environment inner other :=
    abreast_keepingModule executes evaluates
  have binding := abreast.binding scope
  have everything (statement : Statement) : statement.BindsIn Set.univ := fun _ _ _ _ => trivial
  exact
    { toFooting := binding.toFooting
      clearance := fun bound =>
        (abreast.clearance scope (.inr ⟨rfl, Nat.le_refl bound⟩)).mono fun statement _ => everything statement
      executes := fun statement => executes statement scope
      evaluates := fun code => evaluates code scope
      reads := fun code holds shallow => abreast.reads code scope holds shallow
      loads := fun _ spares => lockstepFrom_moduleFor_sparing executes evaluates spares
      binds := fun holds _ => lockstepFrom_bindImport
        (fun value holds bound => binding.sets holds trivial bound trivial) holds fun _ _ => Set.mem_univ _
      callsProcedure := fun holds _ => abreast.calls _ _ _ holds
      deletesGroup := fun holds _ => (binding.keeps_runDelGroup _).here holds
      changes := fun _ holds _ => abreast.changes _ holds fun _ _ _ _ => trivial
      toMaking := abreast.toMaking }

end Sparing

/-- What the interpreter that spares a module brings to an end, the interpreter does too, and keeps what is registered
under the name of the module. -/
theorem lockstep_sparing (environment : Environment) (name : String) (levels : Nat) :
    (∀ statement scope, (keepingModule name).Lockstep .unknown
      ((Interpreter.checked environment (.loading name) levels).execute statement scope)
      ((Interpreter.ofLevels environment levels).execute statement scope) (Signal.Fits fun _ => True)) ∧
    ∀ code scope, (keepingModule name).Lockstep .unknown
      ((Interpreter.checked environment (.loading name) levels).evaluate code scope)
      ((Interpreter.ofLevels environment levels).evaluate code scope) fun _ => True := by
  induction levels with
  | zero =>
      constructor
      · intro statement scope before _
        exact .cut rfl trivial
      · intro code scope before _
        exact .cut rfl trivial
  | succ levels ih =>
      constructor
      · intro statement scope
        exact (passing_keepingModule ih.1 ih.2 scope).lockstep_executeChecked levels statement
      · intro code scope
        exact (passing_keepingModule ih.1 ih.2 scope).lockstep_evaluateChecked code

/-- A module that is found without loading it again is found by the interpreter in the same way. -/
theorem lockstepFrom_findModule_sparing (environment : Environment) (name : String) (levels : Nat) (before : Workspace) :
    (keepingModule name).LockstepFrom .unknown before
      ((Interpreter.checked environment (.loading name) levels).findModule environment name)
      ((Interpreter.ofLevels environment levels).findModule environment name) fun _ _ => True := by
  obtain ⟨executes, evaluates⟩ := lockstep_sparing environment name levels
  have abreast : Abreast (keepingModule name) Set.univ .unknown environment _ _ :=
    abreast_keepingModule executes evaluates
  exact (abreast.loading.lockstepFrom_findModule name trivial).imp fun _ _ _ => trivial

end GroupScript
