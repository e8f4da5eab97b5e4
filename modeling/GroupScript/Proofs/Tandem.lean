import GroupScript.Proofs.CompileConsulting
import GroupScript.Proofs.Importing
import GroupScript.Proofs.NameBinding
import GroupScript.Proofs.ProcedureCalls

/-!
# Interpreters in tandem

Two interpreters for what is nested inside run in tandem if they run in lockstep under a guarantee that is the same in
all scopes and does not look at values.  Then they import modules in lockstep too: a module is found, its text is compiled
one statement after the other, and the names that an import binds are names that the guarantee allows.  So everything
that a statement can do is covered, and two interpreters with one more level run in tandem again.
-/

namespace GroupScript

/-! ### Statements of a text -/

/-- The statements that can be compiled from an input one after the other, whatever the workspaces in between. -/
inductive Input.Yields : Input → Statement → Prop
  | next {input : Input} {scope : Scope} {workspace : Workspace} {statement : Statement} {desk : Desk} :
      Compile.next scope ⟨input, workspace⟩ = .ok (some statement) desk → Yields input statement
  | later {input : Input} {scope : Scope} {workspace : Workspace} {first statement : Statement} {desk : Desk} :
      Compile.next scope ⟨input, workspace⟩ = .ok (some first) desk → Yields desk.input statement →
      Yields input statement

/-- The statements that can be compiled from a text. -/
def Source.Yields (text : String) (statement : Statement) : Prop :=
  ∃ (input : Input) (file : String), input.queue = [] ∧ input.reader = none ∧
    (input.pushText text.toList file).Yields statement

/-- An input binds no names but those of a set. -/
def Input.BindsIn (names : Set String) (input : Input) : Prop :=
  ∀ statement, input.Yields statement → statement.BindsIn names

theorem bindsIn_of_compileNext {names : Set String} {scope : Scope} {input rest : Input} {statement : Statement}
    {before after : Workspace} (binds : input.BindsIn names)
    (compiled : compileNext scope input before = .ok (some statement, rest) after) :
    statement.BindsIn names ∧ rest.BindsIn names := by
  unfold compileNext at compiled
  cases ran : Compile.next scope ⟨input, before⟩ with
  | ok found desk =>
      rw [ran] at compiled
      cases compiled
      exact ⟨binds statement (.next ran), fun later yields => binds later (.later ran yields)⟩
  | error halt desk =>
      rw [ran] at compiled
      cases compiled

/-- The surroundings bind no names but those of a set: not by the texts of files, not by the procedures that come with
modules they provide, and not by programs. -/
structure Environment.BindsIn (names : Set String) (environment : Environment) : Prop where
  files : ∀ {path text statement}, environment.files.read path = .ok text → Source.Yields text statement →
    statement.BindsIn names
  supplies : ∀ {name} {state : Workspace} {supply : Supply state.store}, environment.load name state = .ok (some supply) →
    ∀ id, state.store.procedures.size ≤ id → ∀ statement ∈ (supply.store.procedure id).body, statement.BindsIn names
  programs : ∀ {name host} arguments, environment.function? name = some host → (host.run arguments).BindsIn names

theorem Environment.bindsIn_univ (environment : Environment) : environment.BindsIn Set.univ :=
  ⟨fun _ _ _ _ _ _ => trivial, fun _ _ _ _ _ _ _ _ _ => trivial, fun _ _ _ _ => trivial⟩

/-! ### Running in tandem -/

/-- What two interpreters for what is nested inside have in common, under a guarantee that allows to bind names of a
set, apart from what is registered. -/
structure Abreast (guarantee : Guarantee Workspace) (names : Set String) (cutoff : Cutoff) (environment : Environment)
    (inner other : Interpreter) : Prop extends Making guarantee names where
  mayCut : cutoff ≠ .never
  binding : ∀ scope, Binding guarantee (fun _ => True) names scope
  scopes : ∀ {state} group, guarantee.holds state →
    guarantee.holds (state.isolatedScope group).2 ∧ guarantee.leads state (state.isolatedScope group).2
  supplies : ∀ {state name} {supply : Supply state.store}, guarantee.holds state →
    environment.load name state = .ok (some supply) →
    guarantee.holds { state with store := supply.store } ∧ guarantee.leads state { state with store := supply.store }
  changes : ∀ {state change} group, guarantee.holds state → Group.ChangeBindsIn names change →
    guarantee.holds (state.modifyGroup group change) ∧ guarantee.leads state (state.modifyGroup group change)
  surroundings : environment.BindsIn names
  executes : ∀ {statement} scope, statement.BindsIn names →
    guarantee.Lockstep cutoff (inner.execute statement scope) (other.execute statement scope) (Signal.Fits fun _ => True)
  evaluates : ∀ code scope, guarantee.Lockstep cutoff (inner.evaluate code scope) (other.evaluate code scope)
    fun _ => True
  reads : ∀ {state} code scope, guarantee.holds state → state.depth < environment.maxDepth →
    guarantee.LockstepFrom cutoff state (inner.evaluate code scope).deeper (other.evaluate code scope).deeper
      fun _ _ => True
  calls : ∀ {state} id arguments keywords, guarantee.holds state →
    guarantee.LockstepFrom cutoff state
      (inner.callProcedure environment (state.store.procedure id) arguments keywords)
      (other.callProcedure environment (state.store.procedure id) arguments keywords) fun _ _ => True

namespace Abreast

variable {guarantee : Guarantee Workspace} {names : Set String} {cutoff : Cutoff} {environment : Environment}
  {inner other : Interpreter} (abreast : Abreast guarantee names cutoff environment inner other)

include abreast

theorem told {state : Workspace} (output : String) (log : Array LogEntry) (holds : guarantee.holds state) :
    guarantee.holds { state with output, log } ∧ guarantee.leads state { state with output, log } :=
  (abreast.binding default).consults holds (Workspace.consulted_told output log)

theorem lockstep_runModule {path text : String} (found : environment.files.read path = .ok text) :
    guarantee.Lockstep cutoff (inner.runModule path text) (other.runModule path text) fun _ => True := by
  have binds : (({} : Input).pushText text.toList path).BindsIn names :=
    fun statement yields => abreast.surroundings.files found ⟨{}, path, rfl, rfl, yields⟩
  apply Guarantee.Lockstep.bind (.making fun state holds => abreast.makesGroup {} holds)
  intro group _
  apply Guarantee.Lockstep.bind (.making fun state holds => abreast.scopes group holds)
  intro scope _
  have compiles (input : Input) (bindsInput : input.BindsIn names) :
      guarantee.Keeps (compileNext scope input) fun next => ∀ statement, next.1 = some statement →
        guarantee.Lockstep cutoff (inner.execute statement scope) (other.execute statement scope)
          (Signal.Fits fun _ => True) ∧ next.2.BindsIn names := by
    apply ((abreast.binding scope).consulting (keeps_compileNext scope input)).giving
    rintro before ⟨_, rest⟩ after _ compiled statement rfl
    obtain ⟨bindsFirst, bindsRest⟩ := bindsIn_of_compileNext bindsInput compiled
    exact ⟨abreast.executes scope bindsFirst, bindsRest⟩
  apply Guarantee.Lockstep.bind (lockstep_runInput abreast.mayCut abreast.told compiles _ binds)
  intro _ _
  exact .pure trivial

theorem loading : Loading guarantee cutoff environment inner other where
  tells := abreast.told
  runs := abreast.lockstep_runModule
  supplies := abreast.supplies

/-- Statements that bind names of the set take steps that the guarantee allows. -/
theorem clearance {bound otherBound : Nat} (scope : Scope)
    (bounds : cutoff = .alike ∧ bound = otherBound ∨ cutoff = .unknown ∧ bound ≤ otherBound) :
    Clearance guarantee (fun _ => True) (Statement.BindsIn names) cutoff scope bound otherBound where
  loops := fun _ => bounds
  bindsItem := fun binds _ =>
    (abreast.binding scope).lockstep_bindItem (binds _ .here _ (List.mem_singleton.mpr rfl)) trivial
  assigns := fun binds _ _ => (abreast.binding scope).lockstep_assignValue (binds _ .here) trivial
  defines := fun binds => (abreast.binding scope).lockstep_define (binds _ .here) fun state holds =>
    ⟨(abreast.makesDefinition _ holds).1, (abreast.makesDefinition _ holds).2, trivial⟩
  definesProcedure := by
    intro signature doc body defaults binds _
    have bindsBody : ∀ statement ∈ body, statement.BindsIn names :=
      fun statement member inner within => binds inner (.body member within)
    exact (abreast.binding scope).lockstep_bindProcedure (binds _ .here) fun state holds =>
      ⟨(abreast.makesProcedure holds bindsBody).1, (abreast.makesProcedure holds bindsBody).2, trivial⟩
  deletes := fun _ => (abreast.binding scope).lockstep_deleteAll _

theorem lockstep_part {statement part : Statement} (scope : Scope) (binds : statement.BindsIn names)
    (inside : part ∈ statement.parts) :
    guarantee.Lockstep cutoff (inner.execute part scope) (other.execute part scope) (Signal.Fits fun _ => True) :=
  abreast.executes scope fun inner within => binds inner (.part inside within)

end Abreast

/-- Interpreters that are abreast run in tandem if every module that can be imported may be registered, and its name may be
bound. -/
structure Tandem (guarantee : Guarantee Workspace) (names : Set String) (cutoff : Cutoff) (environment : Environment)
    (inner other : Interpreter) : Prop extends Abreast guarantee names cutoff environment inner other where
  registers : ∀ {state name} loaded, guarantee.holds state → name ∈ names →
    guarantee.holds (state.register name loaded) ∧ guarantee.leads state (state.register name loaded)
  known : ∀ {state name}, guarantee.holds state → Importable environment state name → name ∈ names

namespace Tandem

variable {guarantee : Guarantee Workspace} {names : Set String} {cutoff : Cutoff} {environment : Environment}
  {inner other : Interpreter} (tandem : Tandem guarantee names cutoff environment inner other)

include tandem

theorem importing (scope : Scope) : Importing guarantee names names cutoff environment inner other scope where
  toLoading := tandem.loading
  registers := tandem.registers
  finds := tandem.known
  binds := fun _ holds bound => (tandem.binding scope).sets holds trivial bound trivial
  bindsKnown := Set.Subset.refl names

theorem serving (scope : Scope) : Serving guarantee names cutoff scope (inner.evaluate · scope) (other.evaluate · scope)
    (inner.importModule environment scope) (other.importModule environment scope) Interpreter.changeGroup
    Interpreter.changeGroup where
  toMaking := tandem.toMaking
  consults := (tandem.binding scope).consults
  evaluates := fun code => tandem.evaluates code scope
  loads := (tandem.importing scope).lockstep_importKnown
  alters := fun group _ binds => .changing fun _ holds => tandem.changes group holds binds

theorem lockstep_callHarmful {function : Native} {arguments : List Value} (scope : Scope)
    (harmful : function.isHarmless = false) :
    guarantee.Lockstep cutoff (inner.callNative environment scope function arguments)
      (other.callNative environment scope function arguments) fun _ => True := by
  intro before holds
  apply lockstepFrom_callNativeBy holds harmful
  · exact fun source => (tandem.importing scope).lockstep_importKnown source true
  · exact fun _ => ((tandem.binding scope).keeps_runDelGroup arguments).here holds
  · exact fun known => (tandem.serving scope).lockstep_fulfilBy (tandem.surroundings.programs arguments known)

theorem concord (scope : Scope) : Concord guarantee (fun _ => True) cutoff environment inner other scope where
  toFooting := (tandem.binding scope).toFooting
  reads := fun holds _ shallow => tandem.reads _ scope holds shallow
  callsProcedure := fun holds _ _ _ => tandem.calls _ _ _ holds
  callsNative := fun _ harmful _ => tandem.lockstep_callHarmful scope harmful

/-- Code runs in lockstep over interpreters in tandem. -/
theorem lockstep_evaluateWith (code : Code) (scope : Scope) :
    guarantee.Lockstep cutoff (inner.evaluateWith environment code scope) (other.evaluateWith environment code scope)
      fun _ => True :=
  (tandem.concord scope).lockstep_evaluateWith fun _ _ => trivial

/-- Statements run in lockstep over interpreters in tandem. -/
theorem lockstep_executeWith {statement : Statement} {bound otherBound : Nat} (scope : Scope)
    (bounds : cutoff = .alike ∧ bound = otherBound ∨ cutoff = .unknown ∧ bound ≤ otherBound)
    (binds : statement.BindsIn names) :
    guarantee.Lockstep cutoff (inner.executeWith environment bound statement scope)
      (other.executeWith environment otherBound statement scope) (Signal.Fits fun _ => True) := by
  have accord : Accord guarantee (fun _ => True) (Statement.BindsIn names) cutoff environment inner other scope
      bound otherBound := by
    refine { tandem.concord scope, tandem.clearance scope bounds with codes := ?_, parts := ?_, imports := ?_ }
    · exact fun _ _ _ _ _ => trivial
    · exact fun binds part inside => tandem.lockstep_part scope binds inside
    · exact fun binds => (tandem.importing scope).lockstep_importAll fun item member name bound =>
        binds _ .here name (List.mem_flatMap.mpr ⟨item, member, bound⟩)
  exact accord.lockstep_executeWith binds

end Tandem

end GroupScript
