import GroupScript.Proofs.Concord

/-!
# Guarantees of the interpreter

If the steps of the interpreter keep a guarantee that does not look at the nesting, then so does every run, because the
interpreter for what is nested inside is in concord with itself.  The guarantee may demand that values have a property,
and then every value that a run comes by has it.
-/

namespace GroupScript

/-! ### Names and calls -/

/-- What an interpreter can rely on in a scope so that a guarantee is kept: consulting the workspace, nesting and making
groups are allowed, what is searched has the property, and what is run inside keeps the guarantee. -/
structure Practice (guarantee : Guarantee Workspace) (fit : Value → Prop) (environment : Environment)
    (inner : Interpreter) (scope : Scope) : Prop extends guarantee.Carries fit where
  consults : ∀ {before after}, guarantee.holds before → Workspace.Consulted scope before after →
    guarantee.holds after ∧ guarantee.leads before after
  nests : ∀ {state} depth, guarantee.holds state →
    guarantee.holds { state with depth } ∧ guarantee.leads state { state with depth }
  grows : ∀ {state}, guarantee.holds state →
    guarantee.holds (state.newGroup {}).2 ∧ guarantee.leads state (state.newGroup {}).2 ∧
      fit (.group (state.newGroup {}).1)
  searched : ∀ {state}, guarantee.holds state →
    ∀ id ∈ (state.refresh scope).cache.groups, fit (.group id)
  evaluates : ∀ {code}, code.Fits fit → guarantee.Keeps (inner.evaluate code scope) fit
  callsProcedure : ∀ {state id arguments keywords}, guarantee.holds state → fit (.procedure id) →
    Guarantee.FitAll fit arguments → Guarantee.FitAll fit (keywords.map Prod.snd) →
    guarantee.Keeps
      (inner.callProcedure environment (state.store.procedure id) arguments keywords) fit
  callsNative : ∀ {function arguments}, fit (.native function) → function.isHarmless = false →
    Guarantee.FitAll fit arguments →
    guarantee.Keeps (inner.callNative environment scope function arguments) fit

namespace Practice

variable {guarantee : Guarantee Workspace} {fit : Value → Prop} {environment : Environment}
  {inner : Interpreter} {scope : Scope}

theorem concord (practice : Practice guarantee fit environment inner scope) :
    Concord guarantee fit .unknown environment inner inner scope where
  toCarries := practice.toCarries
  consults := practice.consults
  grows := practice.grows
  searched := practice.searched
  reads := fun holds fits _ =>
    .of_keeps nofun (((practice.evaluates (practice.code holds fits)).deeper practice.nests).here holds)
  callsProcedure := fun holds fits fitsAll fitsKeywords =>
    .of_keeps nofun ((practice.callsProcedure holds fits fitsAll fitsKeywords).here holds)
  callsNative := fun fits harmful fitsAll => .of_keeps nofun (practice.callsNative fits harmful fitsAll)

/-- Code whose constants have the property keeps the guarantee. -/
theorem keeps_evaluateWith (practice : Practice guarantee fit environment inner scope) {code : Code}
    (fits : code.Fits fit) : guarantee.Keeps (inner.evaluateWith environment code scope) fit :=
  (practice.concord.lockstep_evaluateWith fits).keeps

end Practice

/-! ### Statements -/

/-- What an interpreter can rely on in a scope when it runs statements of a kind: the kind passes to the statements
inside, and the steps that bind, delete and import keep the guarantee. -/
structure Conduct (guarantee : Guarantee Workspace) (fit : Value → Prop) (allowed : Statement → Prop)
    (environment : Environment) (inner : Interpreter) (scope : Scope) : Prop
    extends Practice guarantee fit environment inner scope where
  codes : ∀ {statement}, allowed statement → ∀ code ∈ statement.codes, code.Fits fit
  parts : ∀ {statement}, allowed statement → ∀ part ∈ statement.parts, allowed part
  executes : ∀ {statement}, allowed statement →
    guarantee.Keeps (inner.execute statement scope) (Signal.Fits fit)
  bindsItem : ∀ {name value}, fit value →
    guarantee.Keeps (Interpreter.bindItem scope name value) (fun _ => True)
  assigns : ∀ {target code indices value}, allowed (.assign target code) →
    Guarantee.FitAll fit indices → fit value →
    guarantee.Keeps (Interpreter.assignValue scope target indices value) (fun _ => True)
  defines : ∀ {name code}, allowed (.define name code) →
    guarantee.Keeps (Interpreter.define scope name code) (fun _ => True)
  definesProcedure : ∀ {signature doc body defaults}, allowed (.procedure signature doc body) →
    Guarantee.FitAll fit (defaults.map Prod.snd) →
    guarantee.Keeps
      (Interpreter.bindProcedure scope ⟨signature.name, signature.params, defaults, doc, body⟩)
      (fun _ => True)
  deletes : ∀ {names}, allowed (.delete names) →
    guarantee.Keeps (Interpreter.deleteAll scope names) (fun _ => True)
  imports : ∀ {items}, allowed (.importModules items) →
    guarantee.Keeps (inner.importAll environment scope items) (fun _ => True)

namespace Conduct

variable {guarantee : Guarantee Workspace} {fit : Value → Prop} {allowed : Statement → Prop}
  {environment : Environment} {inner : Interpreter} {scope : Scope}

theorem keeps_block {statements : List Statement}
    (executes : ∀ statement ∈ statements, guarantee.Keeps (inner.execute statement scope) (Signal.Fits fit)) :
    guarantee.Keeps (inner.block scope statements) (Signal.Fits fit) := by
  have lockstep : guarantee.Lockstep .unknown (inner.block scope statements) _ (Signal.Fits fit) :=
    lockstep_block fun statement member => .of_keeps nofun (executes statement member)
  exact lockstep.keeps

theorem accord (conduct : Conduct guarantee fit allowed environment inner scope) (bound : Nat) :
    Accord guarantee fit allowed .unknown environment inner inner scope bound bound where
  toConcord := conduct.toPractice.concord
  codes := conduct.codes
  parts := fun admitted part inside => .of_keeps nofun (conduct.executes (conduct.parts admitted part inside))
  loops := fun _ => .inr ⟨rfl, Nat.le_refl bound⟩
  bindsItem := fun _ fits => .of_keeps nofun (conduct.bindsItem fits)
  assigns := fun admitted fitsAll fits => .of_keeps nofun (conduct.assigns admitted fitsAll fits)
  defines := fun admitted => .of_keeps nofun (conduct.defines admitted)
  definesProcedure := fun admitted fits => .of_keeps nofun (conduct.definesProcedure admitted fits)
  deletes := fun admitted => .of_keeps nofun (conduct.deletes admitted)
  imports := fun admitted => .of_keeps nofun (conduct.imports admitted)

/-- A statement of the kind keeps the guarantee. -/
theorem keeps_executeWith (conduct : Conduct guarantee fit allowed environment inner scope) {statement : Statement}
    (bound : Nat) (admitted : allowed statement) :
    guarantee.Keeps (inner.executeWith environment bound statement scope) (Signal.Fits fit) :=
  ((conduct.accord bound).lockstep_executeWith admitted).keeps

end Conduct

end GroupScript
