import GroupScript.Interpreter.Statements
import GroupScript.Proofs.Consulting
import GroupScript.Proofs.ValueFlow

/-!
# Interpreters in concord

The interpreter is a few steps that touch the workspace, put together by sequencing, branching and repetition over an
interpreter for what is nested inside.  Two interpreters for what is nested inside are in concord in a scope if they
read defined variables and carry out calls in lockstep.  Then all code runs in lockstep over them, and so do all
statements whose parts do.
-/

namespace GroupScript

open Guarantee (FitAll fitAll_cons)

/-- Whether a native function is a builtin one that changes no group that exists. -/
def Native.isHarmless : Native → Bool
  | .builtin .delGroup => false
  | .builtin .reload => false
  | .builtin _ => true
  | .host _ => false

/-- What a guarantee has to allow in a scope so that names can be looked up: consulting the workspace and making groups.
What is searched has the property that the guarantee carries. -/
structure Footing (guarantee : Guarantee Workspace) (fit : Value → Prop) (scope : Scope) : Prop
    extends guarantee.Carries fit where
  consults : ∀ {before after}, guarantee.holds before → Workspace.Consulted scope before after →
    guarantee.holds after ∧ guarantee.leads before after
  grows : ∀ {state}, guarantee.holds state →
    guarantee.holds (state.newGroup {}).2 ∧ guarantee.leads state (state.newGroup {}).2 ∧
      fit (.group (state.newGroup {}).1)
  searched : ∀ {state}, guarantee.holds state →
    ∀ id ∈ (state.refresh scope).cache.groups, fit (.group id)

namespace Footing

variable {guarantee : Guarantee Workspace} {fit : Value → Prop} {scope : Scope} (footing : Footing guarantee fit scope)

include footing

/-- What only consults the workspace keeps the guarantee. -/
theorem consulting {ε α : Type} [Fault ε] {action : EStateM ε Workspace α} {property : α → Prop}
    (keeps : (Workspace.consulting scope).Keeps action property) : guarantee.Keeps action property :=
  keeps.transfer (fun _ => trivial) footing.consults

theorem fit_of_lookupFirst {before after : Workspace} {name : String} {value : Value} (holds : guarantee.holds before)
    (looked : Workspace.lookupFirst scope name before = .ok (some value) after) : fit value := by
  rcases Workspace.source_of_lookupFirst looked with rfl | ⟨id, searched, found⟩
  · exact footing.root holds
  · exact footing.member holds (footing.searched holds id searched) found

theorem keeps_lookupFirst (name : String) :
    guarantee.Keeps (Workspace.lookupFirst scope name) fun found => ∀ value, found = some value → fit value := by
  apply (footing.consulting (Workspace.keeps_lookupFirst name)).giving
  rintro before _ after holds looked value rfl
  exact footing.fit_of_lookupFirst holds looked

theorem keeps_resolve (name : String) : guarantee.Keeps (Workspace.resolve scope name) fit := by
  apply (footing.consulting (Workspace.keeps_resolve name)).giving
  intro before value after holds resolved
  obtain ⟨start, looked, reached⟩ := Workspace.source_of_resolve resolved
  exact footing.member? holds (footing.fit_of_lookupFirst holds looked) reached

theorem keeps_resolveGroup (name : String) :
    guarantee.Keeps (Workspace.resolveGroup scope name) fun id => fit (.group id) := by
  apply Guarantee.Keeps.bind (footing.keeps_resolve name)
  intro value fits
  split
  · exact .pure fits
  · exact .throw _

theorem keeps_searchGroups :
    guarantee.Keeps (Workspace.searchGroups scope) fun groups => ∀ id ∈ groups, fit (.group id) := by
  apply (footing.consulting Workspace.keeps_searchGroups).giving
  intro before groups after holds searched
  cases searched
  exact footing.searched holds

/-- The slot in which a name is bound is in a group with the property. -/
theorem keeps_owner (name : String) :
    guarantee.Keeps (Workspace.owner scope name) fun slot => fit (.group slot.group) := by
  unfold Workspace.owner
  dsimp only
  split
  · apply Guarantee.Keeps.bind footing.keeps_searchGroups
    intro groups fits
    apply Guarantee.Keeps.bind .get
    intro state _
    cases found : groups.find? fun id => (state.group id).has name with
    | some id => exact .pure (fits id (List.mem_of_find?_eq_some found))
    | none => exact .throw _
  · apply Guarantee.Keeps.bind (footing.keeps_resolveGroup _)
    intro id fits
    exact .pure fits

theorem keeps_runHelp (environment : Environment) (arguments : List Value) :
    guarantee.Keeps (Builtin.runHelp environment scope arguments) fit := by
  have target : guarantee.Keeps (Builtin.helpTarget scope arguments) (fun _ => True) := by
    unfold Builtin.helpTarget
    split
    · exact footing.consulting (Workspace.keeps_resolve _)
    · exact .pure trivial
    · exact .throw _
  refine .bind target fun value _ => ?_
  split
  · exact .bind .get fun _ _ => .pure (footing.plain rfl)
  · exact .pure (footing.plain rfl)
  · exact .pure (footing.plain rfl)
  · exact .throw _

theorem keeps_argumentGroup (function : Builtin) (arguments : List Value) :
    guarantee.Keeps (Builtin.argumentGroup function scope arguments) (fun _ => True) := by
  unfold Builtin.argumentGroup
  split
  · exact .pure trivial
  · exact .pure trivial
  · exact footing.consulting (Workspace.keeps_resolveGroup _)
  · exact .throw _

theorem fit_ofStrings (items : List String) : fit (Builtin.ofStrings items) := by
  refine footing.list.mpr fun value member => ?_
  obtain ⟨item, -, rfl⟩ := List.mem_map.mp member
  exact footing.plain rfl

theorem keeps_runGroup (arguments : List Value) : guarantee.Keeps (Builtin.runGroup arguments) fit := by
  unfold Builtin.runGroup
  split
  · change guarantee.Keeps (modifyGet fun state : Workspace =>
      (Value.group (state.newGroup {}).1, (state.newGroup {}).2)) fit
    exact .modifyGet fun state holds => footing.grows holds
  · exact .throw _

theorem keeps_runShowGroup (arguments : List Value) :
    guarantee.Keeps (Builtin.runShowGroup scope arguments) fit := by
  have shown (name : Option String) : guarantee.Keeps (Workspace.showGroup scope name) (fun _ => True) :=
    footing.consulting (Workspace.keeps_showGroup name)
  unfold Builtin.runShowGroup
  split
  · exact .bind (shown none) fun _ _ => .pure (footing.plain rfl)
  · exact .bind (shown _) fun _ _ => .pure (footing.plain rfl)
  · exact .throw _

theorem keeps_runFormat (environment : Environment) (arguments : List Value) :
    guarantee.Keeps (do Builtin.ofValue (Builtin.runFormat environment.fill (← get).store arguments)) fit := by
  apply Guarantee.Keeps.bind .get
  intro state _
  cases made : Builtin.runFormat environment.fill state.store arguments with
  | ok value => exact .pure (footing.plain (Value.Hereditary.isPlain_of_runFormat made))
  | error error => exact .throw error

theorem keeps_runAccess {function : Builtin} (environment : Environment)
    (harmless : (Native.builtin function).isHarmless = true) (arguments : List Value) :
    guarantee.Keeps (function.runAccess environment scope arguments) fit := by
  unfold Builtin.runAccess
  split
  · exact footing.keeps_runFormat environment arguments
  · exact footing.keeps_runHelp environment arguments
  · exact footing.keeps_runGroup arguments
  · refine .bind (footing.keeps_argumentGroup _ arguments) fun id _ => ?_
    exact .bind .get fun _ _ => .pure (footing.fit_ofStrings _)
  · refine .bind (footing.keeps_argumentGroup _ arguments) fun id _ => ?_
    exact .bind .get fun _ _ => .pure (footing.fit_ofStrings _)
  · exact footing.keeps_runShowGroup arguments
  · cases harmless
  · exact .pure (footing.plain rfl)

theorem keeps_builtin {function : Builtin} {arguments : List Value} (environment : Environment)
    (harmless : (Native.builtin function).isHarmless = true) (fits : FitAll fit arguments) :
    guarantee.Keeps (function.run environment scope arguments) fit := by
  refine .bind .get fun state holds => ?_
  cases made : function.runPure? state.store arguments with
  | some result =>
      cases result with
      | ok value => exact .pure (footing.runPure? fits made)
      | error error => exact .throw error
  | none => exact footing.keeps_runAccess environment harmless arguments

/-- A harmless native function imports nothing and runs no program of the surroundings. -/
theorem lockstep_callHarmless {cutoff : Cutoff} {environment : Environment}
    {imports importsToo : Import → Bool → Action GroupId} {fulfils fulfilsToo : HostProgram → Action Value}
    {function : Native} {arguments : List Value} (harmless : function.isHarmless = true)
    (fits : FitAll fit arguments) :
    guarantee.Lockstep cutoff (Interpreter.callNativeBy environment imports fulfils scope function arguments)
      (Interpreter.callNativeBy environment importsToo fulfilsToo scope function arguments) fit := by
  unfold Interpreter.callNativeBy
  split
  · cases harmless
  · exact .ofAccess (footing.keeps_builtin environment harmless fits)
  · cases harmless

theorem lockstep_lookup {cutoff : Cutoff} {environment : Environment} {inner other : Interpreter}
    (reads : ∀ {state id}, guarantee.holds state → fit (.defined id) → state.depth < environment.maxDepth →
      guarantee.LockstepFrom cutoff state (inner.evaluate (state.store.definition id) scope).deeper
        (other.evaluate (state.store.definition id) scope).deeper fun value _ => fit value) (name : String) :
    guarantee.Lockstep cutoff (inner.lookup environment scope name) (other.lookup environment scope name) fit := by
  refine .bind (.ofAccess (footing.keeps_resolve name)) fun value fits => ?_
  split
  · refine .reading fun state holds => ?_
    dsimp only
    split
    · exact Guarantee.Lockstep.failed _ _ _ state holds
    · rename_i shallow
      exact .reading (reads holds fits (Nat.lt_of_not_le shallow))
  · exact .pure fits

end Footing

/-- What two interpreters for what is nested inside have in common in a scope: they read defined variables and call
procedures in lockstep, and also native functions that are not harmless. -/
structure Concord (guarantee : Guarantee Workspace) (fit : Value → Prop) (cutoff : Cutoff) (environment : Environment)
    (inner other : Interpreter) (scope : Scope) : Prop extends Footing guarantee fit scope where
  reads : ∀ {state id}, guarantee.holds state → fit (.defined id) → state.depth < environment.maxDepth →
    guarantee.LockstepFrom cutoff state (inner.evaluate (state.store.definition id) scope).deeper
      (other.evaluate (state.store.definition id) scope).deeper fun value _ => fit value
  callsProcedure : ∀ {state id arguments keywords}, guarantee.holds state → fit (.procedure id) →
    FitAll fit arguments → FitAll fit (keywords.map Prod.snd) →
    guarantee.LockstepFrom cutoff state
      (inner.callProcedure environment (state.store.procedure id) arguments keywords)
      (other.callProcedure environment (state.store.procedure id) arguments keywords) fun value _ => fit value
  callsNative : ∀ {function arguments}, fit (.native function) → function.isHarmless = false → FitAll fit arguments →
    guarantee.Lockstep cutoff (inner.callNative environment scope function arguments)
      (other.callNative environment scope function arguments) fit

namespace Concord

variable {guarantee : Guarantee Workspace} {fit : Value → Prop} {cutoff : Cutoff} {environment : Environment}
  {inner other : Interpreter} {scope : Scope}
  (concord : Concord guarantee fit cutoff environment inner other scope)

include concord

theorem lockstep_callNative {function : Native} {arguments : List Value} (fits : fit (.native function))
    (fitsAll : FitAll fit arguments) :
    guarantee.Lockstep cutoff (inner.callNative environment scope function arguments)
      (other.callNative environment scope function arguments) fit := by
  cases harmless : function.isHarmless with
  | false => exact concord.callsNative fits harmless fitsAll
  | true => exact concord.lockstep_callHarmless harmless fitsAll

theorem lockstep_call {function : Value} {arguments : List Value} {keywords : List (String × Value)}
    (fits : fit function) (fitsAll : FitAll fit arguments) (fitsKeywords : FitAll fit (keywords.map Prod.snd)) :
    guarantee.Lockstep cutoff (inner.call environment scope function arguments keywords)
      (other.call environment scope function arguments keywords) fit := by
  unfold Interpreter.call Interpreter.callBy
  split
  · exact .reading fun state holds => concord.callsProcedure holds fits fitsAll fitsKeywords
  · exact .ite (fun _ => concord.lockstep_callNative fits fitsAll) fun _ => .fail _
  · exact .fail _

/-- Code whose constants have the property runs in lockstep. -/
theorem lockstep_evaluateWith {code : Code} (fits : code.Fits fit) :
    guarantee.Lockstep cutoff (inner.evaluateWith environment code scope) (other.evaluateWith environment code scope)
      fit :=
  Guarantee.lockstep_run concord.toCarries rfl rfl (concord.lockstep_lookup concord.reads)
    (fun _ _ _ fits fitsAll fitsKeywords => concord.lockstep_call fits fitsAll fitsKeywords) fits

end Concord

/-! ### Statements -/

/-- The statements inside a statement that run in its scope. -/
def Statement.parts : Statement → List Statement
  | .choose branches => (branches.map Prod.snd).flatten
  | .loop _ body => body
  | .iterate _ _ body => body
  | .attempt body handler => body ++ handler
  | _ => []

/-- The code that a statement itself holds. -/
def Statement.codes : Statement → List Code
  | .evaluate code _ => [code]
  | .assign target code => target.path.flatten ++ [code]
  | .define _ code => [code]
  | .procedure signature _ _ => signature.defaults.map Prod.snd
  | .choose branches => branches.map Prod.fst
  | .loop condition _ => [condition]
  | .iterate _ items _ => [items]
  | .print items => items.toList
  | .leave values => values.toList
  | _ => []

/-- A statement inside another one, at any depth and also in the bodies of the procedures defined there. -/
inductive Statement.Within (inner : Statement) : Statement → Prop
  | here : Within inner inner
  | part {part statement : Statement} : part ∈ statement.parts → Within inner part → Within inner statement
  | body {statement : Statement} {signature : Signature} {doc : Option String} {body : List Statement} :
      statement ∈ body → Within inner statement → Within inner (.procedure signature doc body)

namespace Interpreter

/-- Assigns a value to a target whose indices are known. -/
def assignValue (scope : Scope) (target : Target) (indices : List Value) (value : Value) : Action Unit := do
  let slot ← Action.ofAccess (Workspace.bindingSlot scope target.name none)
  Action.ofAccess (Workspace.requireAssignable slot target.name)
  assignInto slot target.name indices value

/-- Defines a procedure whose defaults are known. -/
def bindProcedure (scope : Scope) (procedure : Procedure) : Action Unit := do
  let id ← Action.newProcedure procedure
  Action.ofAccess (Workspace.bind scope procedure.name (.procedure id) none)

end Interpreter

/-- The steps of statements of a kind that bind and delete are allowed in a scope, and two bounds on loops are alike. -/
structure Clearance (guarantee : Guarantee Workspace) (fit : Value → Prop) (allowed : Statement → Prop)
    (cutoff : Cutoff) (scope : Scope) (bound otherBound : Nat) : Prop where
  loops : ∀ {condition body}, allowed (.loop condition body) →
    cutoff = .alike ∧ bound = otherBound ∨ cutoff = .unknown ∧ bound ≤ otherBound
  bindsItem : ∀ {name items body value}, allowed (.iterate name items body) → fit value →
    guarantee.Lockstep cutoff (Interpreter.bindItem scope name value) (Interpreter.bindItem scope name value)
      fun _ => True
  assigns : ∀ {target code indices value}, allowed (.assign target code) → FitAll fit indices → fit value →
    guarantee.Lockstep cutoff (Interpreter.assignValue scope target indices value)
      (Interpreter.assignValue scope target indices value) fun _ => True
  defines : ∀ {name code}, allowed (.define name code) →
    guarantee.Lockstep cutoff (Interpreter.define scope name code) (Interpreter.define scope name code) fun _ => True
  definesProcedure : ∀ {signature doc body defaults}, allowed (.procedure signature doc body) →
    FitAll fit (defaults.map Prod.snd) →
    guarantee.Lockstep cutoff
      (Interpreter.bindProcedure scope ⟨signature.name, signature.params, defaults, doc, body⟩)
      (Interpreter.bindProcedure scope ⟨signature.name, signature.params, defaults, doc, body⟩) fun _ => True
  deletes : ∀ {names}, allowed (.delete names) →
    guarantee.Lockstep cutoff (Interpreter.deleteAll scope names) (Interpreter.deleteAll scope names) fun _ => True

theorem Clearance.mono {guarantee : Guarantee Workspace} {fit : Value → Prop} {allowed fewer : Statement → Prop}
    {cutoff : Cutoff} {scope : Scope} {bound otherBound : Nat}
    (clearance : Clearance guarantee fit allowed cutoff scope bound otherBound)
    (stricter : ∀ statement, fewer statement → allowed statement) :
    Clearance guarantee fit fewer cutoff scope bound otherBound where
  loops := fun admitted => clearance.loops (stricter _ admitted)
  bindsItem := fun admitted => clearance.bindsItem (stricter _ admitted)
  assigns := fun admitted => clearance.assigns (stricter _ admitted)
  defines := fun admitted => clearance.defines (stricter _ admitted)
  definesProcedure := fun admitted => clearance.definesProcedure (stricter _ admitted)
  deletes := fun admitted => clearance.deletes (stricter _ admitted)

/-- What two interpreters for what is nested inside, and two bounds on loops, have in common in a scope for statements of a
kind: what is nested in the statements runs in lockstep, and the steps that bind, delete and import are allowed. -/
structure Accord (guarantee : Guarantee Workspace) (fit : Value → Prop) (allowed : Statement → Prop) (cutoff : Cutoff)
    (environment : Environment) (inner other : Interpreter) (scope : Scope) (bound otherBound : Nat) : Prop
    extends Concord guarantee fit cutoff environment inner other scope,
      Clearance guarantee fit allowed cutoff scope bound otherBound where
  codes : ∀ {statement}, allowed statement → ∀ code ∈ statement.codes, code.Fits fit
  parts : ∀ {statement}, allowed statement → ∀ part ∈ statement.parts,
    guarantee.Lockstep cutoff (inner.execute part scope) (other.execute part scope) (Signal.Fits fit)
  imports : ∀ {items}, allowed (.importModules items) →
    guarantee.Lockstep cutoff (inner.importAll environment scope items) (other.importAll environment scope items)
      fun _ => True

section Repetition

variable {guarantee : Guarantee Workspace} {fit : Value → Prop} {cutoff : Cutoff} {inner other : Interpreter}
  {scope : Scope} {evaluate evaluateToo : Code → Action Value} {body bodyToo : Action Signal}

theorem lockstep_evaluateAll {codes : List Code}
    (lockstep : ∀ code ∈ codes, guarantee.Lockstep cutoff (evaluate code) (evaluateToo code) fit) :
    guarantee.Lockstep cutoff (Interpreter.evaluateAll evaluate codes) (Interpreter.evaluateAll evaluateToo codes)
      (FitAll fit) := by
  induction codes with
  | nil => exact .pure fun value member => by cases member
  | cons code rest ih =>
      refine .bind (lockstep code List.mem_cons_self) fun value fits => ?_
      refine .bind (ih fun later member => lockstep later (List.mem_cons_of_mem code member)) fun values fitsAll => ?_
      exact .pure (fitAll_cons fits fitsAll)

theorem lockstep_evaluateDefaults {defaults : List (String × Code)}
    (lockstep : ∀ code ∈ defaults.map Prod.snd, guarantee.Lockstep cutoff (evaluate code) (evaluateToo code) fit) :
    guarantee.Lockstep cutoff (Interpreter.evaluateDefaults evaluate defaults)
      (Interpreter.evaluateDefaults evaluateToo defaults) (fun values => FitAll fit (values.map Prod.snd)) := by
  induction defaults with
  | nil => exact .pure fun value member => by cases member
  | cons first rest ih =>
      refine .bind (lockstep first.2 List.mem_cons_self) fun value fits => ?_
      refine .bind (ih fun later member => lockstep later (List.mem_cons_of_mem _ member)) fun values fitsAll => ?_
      exact .pure (fitAll_cons fits fitsAll)

theorem lockstep_optional {code : Option Code}
    (lockstep : ∀ given ∈ code.toList, guarantee.Lockstep cutoff (evaluate given) (evaluateToo given) fit) :
    guarantee.Lockstep cutoff (Interpreter.optional evaluate code) (Interpreter.optional evaluateToo code)
      (fun value => ∀ given ∈ value, fit given) := by
  cases code with
  | none => exact .pure fun value member => by cases member
  | some code =>
      refine .bind (lockstep code (by simp)) fun value fits => .pure ?_
      rintro _ ⟨⟩
      exact fits

theorem fits_afterBody {signal after : Signal} (fits : signal.Fits fit)
    (ended : Interpreter.afterBody signal = some after) : after.Fits fit := by
  cases signal <;> cases ended
  · trivial
  · exact fits

/-- A loop that is cut off after some repetitions is in lockstep with one that is cut off at the same time, or later if
nothing need be known of cut-offs. -/
theorem lockstep_repeatWhile {condition conditionToo : Action Value} {bound otherBound : Nat}
    (bounds : cutoff = .alike ∧ bound = otherBound ∨ cutoff = .unknown ∧ bound ≤ otherBound)
    (conditions : guarantee.Lockstep cutoff condition conditionToo fit)
    (bodies : guarantee.Lockstep cutoff body bodyToo (Signal.Fits fit)) :
    guarantee.Lockstep cutoff (Interpreter.repeatWhile condition body bound)
      (Interpreter.repeatWhile conditionToo bodyToo otherBound) (Signal.Fits fit) := by
  induction bound generalizing otherBound with
  | zero =>
      intro before _
      apply Guarantee.LockstepFrom.cut rfl
      rcases bounds with ⟨rfl, rfl⟩ | ⟨rfl, -⟩
      · exact rfl
      · trivial
  | succ bound ih =>
      obtain ⟨rest, rfl⟩ : ∃ rest, otherBound = rest + 1 := by
        have : bound + 1 ≤ otherBound := by
          rcases bounds with ⟨-, same⟩ | ⟨-, more⟩
          · exact same.le
          · exact more
        exact ⟨otherBound - 1, by omega⟩
      have boundsRest : cutoff = .alike ∧ bound = rest ∨ cutoff = .unknown ∧ bound ≤ rest := by
        rcases bounds with ⟨alike, same⟩ | ⟨unknown, more⟩
        · exact .inl ⟨alike, Nat.succ.inj same⟩
        · exact .inr ⟨unknown, Nat.le_of_succ_le_succ more⟩
      refine .bind conditions fun value _ => .ite (fun _ => ?_) fun _ => .pure trivial
      refine .bind bodies fun signal fits => ?_
      cases ended : Interpreter.afterBody signal with
      | some after => exact .pure (fits_afterBody fits ended)
      | none => exact ih boundsRest

theorem lockstep_repeatFor {name : String} {items : List Value}
    (binds : ∀ item ∈ items, guarantee.Lockstep cutoff (Interpreter.bindItem scope name item)
      (Interpreter.bindItem scope name item) fun _ => True)
    (bodies : guarantee.Lockstep cutoff body bodyToo (Signal.Fits fit)) :
    guarantee.Lockstep cutoff (Interpreter.repeatFor scope name body items)
      (Interpreter.repeatFor scope name bodyToo items) (Signal.Fits fit) := by
  induction items with
  | nil => exact .pure trivial
  | cons item rest ih =>
      refine .bind (binds item List.mem_cons_self) fun _ _ => ?_
      refine .bind bodies fun signal fits => ?_
      cases ended : Interpreter.afterBody signal with
      | some after => exact .pure (fits_afterBody fits ended)
      | none => exact ih fun later member => binds later (List.mem_cons_of_mem item member)

theorem lockstep_block {statements : List Statement}
    (executes : ∀ statement ∈ statements,
      guarantee.Lockstep cutoff (inner.execute statement scope) (other.execute statement scope) (Signal.Fits fit)) :
    guarantee.Lockstep cutoff (inner.block scope statements) (other.block scope statements) (Signal.Fits fit) := by
  induction statements with
  | nil => exact .pure trivial
  | cons statement rest ih =>
      refine .bind (executes statement List.mem_cons_self) fun signal fits => ?_
      split
      · exact ih fun later member => executes later (List.mem_cons_of_mem statement member)
      · exact .pure fits

theorem lockstep_choose {block blockToo : List Statement → Action Signal} {branches : List (Code × List Statement)}
    (conditions : ∀ code ∈ branches.map Prod.fst, guarantee.Lockstep cutoff (evaluate code) (evaluateToo code) fit)
    (bodies : ∀ body ∈ branches.map Prod.snd,
      guarantee.Lockstep cutoff (block body) (blockToo body) (Signal.Fits fit)) :
    guarantee.Lockstep cutoff (Interpreter.choose evaluate block branches)
      (Interpreter.choose evaluateToo blockToo branches) (Signal.Fits fit) := by
  induction branches with
  | nil => exact .pure trivial
  | cons branch rest ih =>
      refine .bind (conditions branch.1 List.mem_cons_self) fun value _ => .ite (fun _ => ?_) fun _ => ?_
      · exact bodies branch.2 List.mem_cons_self
      · exact ih (fun code member => conditions code (List.mem_cons_of_mem _ member))
          fun body member => bodies body (List.mem_cons_of_mem _ member)

theorem fits_iterable {store : Store} {value : Value} {items : List Value} (hereditary : Value.Hereditary fit)
    (fits : fit value) (listed : Interpreter.iterable store value = .ok items) : FitAll fit items := by
  unfold Interpreter.iterable at listed
  split at listed <;> cases listed
  · exact hereditary.list.mp fits
  · intro item member
    obtain ⟨c, -, rfl⟩ := List.mem_map.mp member
    exact hereditary.plain rfl
  · intro item member
    obtain ⟨name, -, rfl⟩ := List.mem_map.mp member
    exact hereditary.plain rfl

end Repetition

/-- A statement of the kind runs in lockstep by ways to evaluate its code, to run its blocks and to import that are in
lockstep. -/
theorem Clearance.lockstep_executeBy {guarantee : Guarantee Workspace} {fit : Value → Prop}
    {allowed : Statement → Prop} {cutoff : Cutoff} {scope : Scope} {bound otherBound : Nat}
    {evaluate evaluateToo : Code → Action Value} {block blockToo : List Statement → Action Signal}
    {imports importsToo : List Import → Action Unit} {statement : Statement}
    (clearance : Clearance guarantee fit allowed cutoff scope bound otherBound) (footing : Footing guarantee fit scope)
    (admitted : allowed statement)
    (evaluates : ∀ code ∈ statement.codes, guarantee.Lockstep cutoff (evaluate code) (evaluateToo code) fit)
    (runs : ∀ body, (∀ part ∈ body, part ∈ statement.parts) →
      guarantee.Lockstep cutoff (block body) (blockToo body) (Signal.Fits fit))
    (loads : ∀ {items}, statement = .importModules items →
      guarantee.Lockstep cutoff (imports items) (importsToo items) fun _ => True) :
    guarantee.Lockstep cutoff (Interpreter.executeBy evaluate block imports bound statement scope)
      (Interpreter.executeBy evaluateToo blockToo importsToo otherBound statement scope) (Signal.Fits fit) := by
  cases statement with
  | evaluate code command =>
      exact .bind (evaluates code (by simp [Statement.codes])) fun _ _ => .pure trivial
  | assign target code =>
      refine .bind ?_ fun _ (_ : True) => .pure trivial
      refine .bind (lockstep_evaluateAll fun index member => evaluates index ?_) fun indices fitsIndices => ?_
      · exact List.mem_append_left _ member
      · refine .bind (evaluates code (by simp [Statement.codes])) fun value fits => ?_
        exact clearance.assigns admitted fitsIndices fits
  | define name code => exact .bind (clearance.defines admitted) fun _ _ => .pure trivial
  | procedure signature doc body =>
      refine .bind ?_ fun _ (_ : True) => .pure trivial
      refine .bind (lockstep_evaluateDefaults evaluates) fun defaults fits => ?_
      exact clearance.definesProcedure admitted fits
  | choose branches =>
      refine lockstep_choose evaluates fun body member => runs body fun part inside => ?_
      exact List.mem_flatten.mpr ⟨body, member, inside⟩
  | loop condition body =>
      exact lockstep_repeatWhile (clearance.loops admitted) (evaluates condition (by simp [Statement.codes]))
        (runs body fun _ => id)
  | iterate name items body =>
      refine .bind (evaluates items (by simp [Statement.codes])) fun value fits => .reading fun state holds => ?_
      have gives : guarantee.Lockstep cutoff (ofResult (Interpreter.iterable state.store value)) _ (FitAll fit) :=
        .ofResult fun listed => fits_iterable footing.toHereditary fits
      refine gives.bind (fun listed fitsAll => ?_) state holds
      exact lockstep_repeatFor (fun item member => clearance.bindsItem admitted (fitsAll item member))
        (runs body fun _ => id)
  | attempt body handler =>
      refine .bind (runs body fun part => List.mem_append_left _).caught fun outcome fits => ?_
      split
      · exact .pure (fits _ rfl)
      · exact runs handler fun part => List.mem_append_right _
  | delete names => exact .bind (clearance.deletes admitted) fun _ _ => .pure trivial
  | print items =>
      refine .bind (lockstep_optional evaluates) fun value _ => ?_
      refine .bind (.changing fun state holds => ?_) fun _ _ => .pure trivial
      exact footing.consults holds (Workspace.consulted_told _ state.log)
  | leave values =>
      refine .bind (lockstep_optional evaluates) fun value fits => .pure ?_
      cases value with
      | none => exact footing.plain rfl
      | some value => exact fits value rfl
  | breakLoop => exact .pure trivial
  | continueLoop => exact .pure trivial
  | importModules items => exact .bind (loads rfl) fun _ _ => .pure trivial

/-- A statement of the kind runs in lockstep. -/
theorem Accord.lockstep_executeWith {guarantee : Guarantee Workspace} {fit : Value → Prop}
    {allowed : Statement → Prop} {cutoff : Cutoff} {environment : Environment} {inner other : Interpreter}
    {scope : Scope} {bound otherBound : Nat}
    (accord : Accord guarantee fit allowed cutoff environment inner other scope bound otherBound)
    {statement : Statement} (admitted : allowed statement) :
    guarantee.Lockstep cutoff (inner.executeWith environment bound statement scope)
      (other.executeWith environment otherBound statement scope) (Signal.Fits fit) := by
  apply accord.toClearance.lockstep_executeBy accord.toFooting admitted
  · exact fun code held => accord.lockstep_evaluateWith (accord.codes admitted code held)
  · exact fun body inside => lockstep_block fun part member => accord.parts admitted part (inside part member)
  · rintro items rfl
    exact accord.imports admitted

end GroupScript
