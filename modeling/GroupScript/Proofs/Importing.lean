import GroupScript.Proofs.Concord
import GroupScript.Proofs.GroupChange

/-!
# Importing modules

A module is found in a file or provided by the surrounding program, it is registered, and names are bound in the module
group of the scope that imports it.  So two interpreters import in lockstep if they run the texts of modules in lockstep,
under a guarantee that allows to register the modules that can be found and to bind the names of the import.

The native functions that are not harmless import modules, delete groups, or run programs of the surroundings.  A program
of the surroundings is carried out in lockstep if everything that it asks for is.
-/

namespace GroupScript

/-- A name under which a module is registered, found in a file, or provided by the surrounding program. -/
def Importable (environment : Environment) (workspace : Workspace) (name : String) : Prop :=
  (workspace.moduleGroup? name).isSome = true ∨
    (environment.files.moduleFile? workspace.path name workspace.extension).isSome = true ∨
    ∃ (state : Workspace) (supply : Supply state.store), environment.load name state = .ok (some supply)

theorem importable_of_register {environment : Environment} {workspace : Workspace} {name other : String}
    {loaded : LoadedModule} (importable : Importable environment (workspace.register name loaded) other) :
    name = other ∨ Importable environment workspace other := by
  rcases importable with registered | found
  · by_cases same : name = other
    · exact .inl same
    · rw [Workspace.moduleGroup?, Option.isSome_map, Workspace.register, Dictionary.get?_put, if_neg same] at registered
      right
      left
      rw [Workspace.moduleGroup?, Option.isSome_map]
      exact registered
  · exact .inr (.inr found)

/-- The names that an import binds. -/
def Import.boundNames (item : Import) : List String :=
  item.members?.getD [item.localName?.getD item.source]

/-- The names that an import binds of a module with a group: it stops at the first member that the module lacks. -/
def Import.reachedNames (item : Import) (group : GroupId) (workspace : Workspace) : List String :=
  match item.members? with
  | none => [item.localName?.getD item.source]
  | some listed => listed.takeWhile fun name => ((workspace.group group).get? name).isSome

theorem Import.mem_boundNames_of_reached {item : Import} {group : GroupId} {workspace : Workspace} {name : String}
    (reached : name ∈ item.reachedNames group workspace) : name ∈ item.boundNames := by
  unfold reachedNames at reached
  unfold boundNames
  cases listed : item.members? with
  | none => rwa [listed] at reached
  | some names =>
      rw [listed] at reached
      exact (List.takeWhile_prefix _).subset reached

/-- The names that a statement itself binds, as segments of dotted names. -/
def Statement.boundNames : Statement → List String
  | .assign target _ => segmentsOf target.name
  | .define name _ => segmentsOf name
  | .procedure signature _ _ => segmentsOf signature.name
  | .iterate name _ _ => [name]
  | .importModules items => items.flatMap Import.boundNames
  | _ => []

/-- A statement binds no names but those of a set, at any depth and also in the procedures it defines. -/
def Statement.BindsIn (names : Set String) (statement : Statement) : Prop :=
  ∀ inner : Statement, inner.Within statement → ∀ name ∈ inner.boundNames, name ∈ names

/-- A program of the surroundings may bind a name: it changes a group so that the name becomes bound there, or it makes a
procedure that binds the name. -/
inductive HostProgram.Binds (name : String) : HostProgram → Prop
  | change {group : GroupId} {change : Group → Group} {next : HostProgram} {before : Group} :
      (change before).has name = true → before.has name = false → Binds name (.change group change next)
  | procedure {procedure : Procedure} {next : ProcedureId → HostProgram} {statement inner : Statement} :
      statement ∈ procedure.body → inner.Within statement → name ∈ inner.boundNames →
      Binds name (.newProcedure procedure next)
  | afterLook {next : Scope → Workspace → HostProgram} {scope : Scope} {workspace : Workspace} :
      Binds name (next scope workspace) → Binds name (.look next)
  | afterResolve {path : String} {next : Except Error Value → HostProgram} {result : Except Error Value} :
      Binds name (next result) → Binds name (.resolve path next)
  | afterGroup {group : Group} {next : GroupId → HostProgram} {id : GroupId} :
      Binds name (next id) → Binds name (.newGroup group next)
  | afterProcedure {procedure : Procedure} {next : ProcedureId → HostProgram} {id : ProcedureId} :
      Binds name (next id) → Binds name (.newProcedure procedure next)
  | afterDefinition {code : Code} {next : DefinitionId → HostProgram} {id : DefinitionId} :
      Binds name (next id) → Binds name (.newDefinition code next)
  | afterChange {group : GroupId} {change : Group → Group} {next : HostProgram} :
      Binds name next → Binds name (.change group change next)
  | afterWrite {text : String} {next : HostProgram} : Binds name next → Binds name (.write text next)
  | afterLog {entry : LogEntry} {next : HostProgram} : Binds name next → Binds name (.log entry next)
  | afterEvaluate {code : Code} {next : Except Error Value → HostProgram} {result : Except Error Value} :
      Binds name (next result) → Binds name (.evaluate code next)
  | afterImport {source : String} {reload : Bool} {next : Except Error GroupId → HostProgram}
      {result : Except Error GroupId} :
      Binds name (next result) → Binds name (.importModule source reload next)

/-- A program of the surroundings binds no names but those of a set. -/
def HostProgram.BindsIn (names : Set String) (program : HostProgram) : Prop :=
  ∀ name, program.Binds name → name ∈ names

/-- A change of groups binds no names but those of a set. -/
def Group.ChangeBindsIn (names : Set String) (change : Group → Group) : Prop :=
  ∀ before name, (change before).has name = true → before.has name = false → name ∈ names

/-- The statements of an input run in lockstep if each one that comes out does. -/
theorem lockstep_runInput {guarantee : Guarantee Workspace} {cutoff : Cutoff} {inner other : Interpreter} {scope : Scope}
    {follows : Input → Prop} (mayCut : cutoff ≠ .never)
    (tells : ∀ {state} output log, guarantee.holds state →
      guarantee.holds { state with output, log } ∧ guarantee.leads state { state with output, log })
    (compiles : ∀ input, follows input → guarantee.Keeps (compileNext scope input) fun next =>
      ∀ statement, next.1 = some statement →
        guarantee.Lockstep cutoff (inner.execute statement scope) (other.execute statement scope)
          (Signal.Fits fun _ => True) ∧ follows next.2)
    (bound : Nat) {input : Input} (isFollowed : follows input) :
    guarantee.Lockstep cutoff (inner.runInput scope bound input) (other.runInput scope bound input) fun _ => True := by
  induction bound generalizing input with
  | zero => exact .of_keeps mayCut (.throw _)
  | succ bound ih =>
      apply Guarantee.Lockstep.bind (.of_keeps mayCut (compiles input isFollowed))
      rintro ⟨next, rest⟩ yields
      cases next with
      | none => exact .pure trivial
      | some statement =>
          obtain ⟨executes, followsOn⟩ := yields statement rfl
          apply Guarantee.Lockstep.bind executes
          intro signal _
          split
          · apply Guarantee.Lockstep.bind (.changing fun state holds => tells _ _ holds)
            intro _ _
            exact ih followsOn
          · exact ih followsOn

/-- What two interpreters for what is nested inside have in common, so that modules are found in lockstep. -/
structure Loading (guarantee : Guarantee Workspace) (cutoff : Cutoff) (environment : Environment)
    (inner other : Interpreter) : Prop where
  tells : ∀ {state} output log, guarantee.holds state →
    guarantee.holds { state with output, log } ∧ guarantee.leads state { state with output, log }
  runs : ∀ {path text}, environment.files.read path = .ok text →
    guarantee.Lockstep cutoff (inner.runModule path text) (other.runModule path text) fun _ => True
  supplies : ∀ {state name} {supply : Supply state.store}, guarantee.holds state →
    environment.load name state = .ok (some supply) →
    guarantee.holds { state with store := supply.store } ∧ guarantee.leads state { state with store := supply.store }

namespace Loading

variable {guarantee : Guarantee Workspace} {cutoff : Cutoff} {environment : Environment} {inner other : Interpreter}
  (loading : Loading guarantee cutoff environment inner other)

include loading

theorem lockstep_loggingFailure {α : Type} {first second : Action α} (name : String)
    (lockstep : guarantee.Lockstep cutoff first second fun _ => True) :
    guarantee.Lockstep cutoff (Interpreter.loggingFailure name first) (Interpreter.loggingFailure name second)
      fun _ => True := by
  apply Guarantee.Lockstep.bind lockstep.caught
  intro outcome _
  split
  · exact .pure trivial
  · exact .bind (.changing fun state holds => loading.tells _ _ holds) fun _ _ => .fail _

/-- A module that is found is one that could be imported. -/
theorem lockstepFrom_findModule (name : String) {before : Workspace} (holds : guarantee.holds before) :
    guarantee.LockstepFrom cutoff before (inner.findModule environment name) (other.findModule environment name)
      fun _ _ => Importable environment before name := by
  apply Guarantee.LockstepFrom.reading
  cases found : environment.files.moduleFile? before.path name before.extension with
  | some path =>
      have reads : guarantee.Lockstep cutoff (ofResult (environment.files.read path)) _
          fun text => environment.files.read path = .ok text :=
        .ofResult fun text read => read
      apply reads.bind _ before holds
      intro text read
      apply Guarantee.Lockstep.bind (loading.lockstep_loggingFailure name (loading.runs read))
      intro _ _
      exact .pure (.inr (.inl (Option.isSome_of_eq_some found)))
  | none =>
      cases answer : environment.load name before with
      | error error => exact .fails rfl rfl holds (guarantee.refl before)
      | ok provided =>
          cases provided with
          | none => exact .fail _ holds
          | some supply =>
              obtain ⟨holdsAfter, leads⟩ := loading.supplies holds answer
              exact .ends rfl rfl holdsAfter leads (.inr (.inr ⟨before, supply, answer⟩))

/-- A module is loaded in lockstep if it may be registered. -/
theorem lockstepFrom_loadModule {name : String} {before : Workspace} (holds : guarantee.holds before)
    (registers : Importable environment before name → ∀ {state} loaded, guarantee.holds state →
      guarantee.holds (state.register name loaded) ∧ guarantee.leads state (state.register name loaded)) :
    guarantee.LockstepFrom cutoff before (inner.loadModule environment name) (other.loadModule environment name)
      fun _ _ => Importable environment before name := by
  apply (loading.lockstepFrom_findModule name holds).bind
  intro loaded between holdsBetween importable
  have registering : guarantee.Lockstep cutoff (modify (·.register name loaded) : Action PUnit) _ fun _ => True :=
    .changing fun state holds => registers importable loaded holds
  apply (registering between holdsBetween).bind
  intro _ after holdsAfter _
  exact .pure holdsAfter importable

end Loading

/-! ### Binding what is loaded -/

/-- Copying a member that a group has leaves its names as they are, also if it is copied into the group itself. -/
theorem Workspace.isSome_get?_setMember {workspace : Workspace} {id group : GroupId} {name : String} {value : Value}
    (found : ((workspace.group group).get? name).isSome = true) (other : String) :
    (((workspace.setMember id name value).group group).get? other).isSome =
      ((workspace.group group).get? other).isSome := by
  by_cases same : id = group
  · subst same
    by_cases present : id < workspace.size
    · rw [setMember, group_modifyGroup workspace id id _ present, if_pos rfl, Group.get?_set]
      split
      · rename_i isName
        rw [← isName, found]
        rfl
      · rfl
    · rw [setMember, modifyGroup_of_size_le _ (Nat.le_of_not_lt present)]
  · rw [setMember, group_modifyGroup_of_ne _ same]

section Binding

variable {guarantee : Guarantee Workspace} {names : Set String} {cutoff : Cutoff} {scope : Scope}
  (binds : ∀ {state name} value, guarantee.holds state → name ∈ names →
    guarantee.holds (state.setMember scope.moduleGroup name value) ∧
      guarantee.leads state (state.setMember scope.moduleGroup name value))

include binds

theorem lockstepFrom_copyMembers {listed : List String} {group : GroupId} {before : Workspace} (source : String)
    (holds : guarantee.holds before)
    (bound : ∀ name ∈ listed.takeWhile fun name => ((before.group group).get? name).isSome, name ∈ names) :
    guarantee.LockstepFrom cutoff before (Interpreter.copyMembers scope source group listed)
      (Interpreter.copyMembers scope source group listed) fun _ _ => True := by
  induction listed generalizing before with
  | nil => exact .pure holds trivial
  | cons name rest ih =>
      apply Guarantee.LockstepFrom.reading
      cases found : (before.group group).get? name with
      | none => exact .fail _ holds
      | some value =>
          have isFound : ((before.group group).get? name).isSome = true := Option.isSome_of_eq_some found
          rw [List.takeWhile_cons, isFound] at bound
          obtain ⟨holdsAfter, leads⟩ := binds value holds (bound name List.mem_cons_self)
          have copies : guarantee.LockstepFrom cutoff before
              (modify (·.setMember scope.moduleGroup name value) : Action PUnit)
              (modify (·.setMember scope.moduleGroup name value))
              fun _ after => after = before.setMember scope.moduleGroup name value :=
            .ends rfl rfl holdsAfter leads rfl
          apply copies.bind
          rintro _ _ _ rfl
          apply ih holdsAfter
          simp only [Workspace.isSome_get?_setMember isFound]
          exact fun later member => bound later (List.mem_cons_of_mem name member)

/-- An import binds the names that it reaches. -/
theorem lockstepFrom_bindImport {item : Import} {group : GroupId} {before : Workspace} (holds : guarantee.holds before)
    (bound : ∀ name ∈ item.reachedNames group before, name ∈ names) :
    guarantee.LockstepFrom cutoff before (Interpreter.bindImport scope item group)
      (Interpreter.bindImport scope item group) fun _ _ => True := by
  unfold Import.reachedNames at bound
  unfold Interpreter.bindImport
  cases members : item.members? with
  | none =>
      rw [members] at bound
      obtain ⟨holdsAfter, leads⟩ := binds (.group group) holds (bound _ List.mem_cons_self)
      exact .ends rfl rfl holdsAfter leads trivial
  | some copied =>
      rw [members] at bound
      apply (lockstepFrom_copyMembers binds item.source holds bound).bind
      intro _ _ holdsAfter _
      exact .pure holdsAfter trivial

end Binding

/-! ### Imports -/

/-- The group of a module is found in lockstep if the module may be registered where it is loaded. -/
theorem Loading.lockstepFrom_moduleFor {guarantee : Guarantee Workspace} {cutoff : Cutoff} {environment : Environment}
    {inner other : Interpreter} {source : String} {reload : Bool} {before : Workspace}
    (loading : Loading guarantee cutoff environment inner other) (holds : guarantee.holds before)
    (registers : (reload = true ∨ before.moduleGroup? source = none) → Importable environment before source →
      ∀ {state} loaded, guarantee.holds state →
        guarantee.holds (state.register source loaded) ∧ guarantee.leads state (state.register source loaded)) :
    guarantee.LockstepFrom cutoff before (inner.moduleFor environment source reload)
      (other.moduleFor environment source reload) fun _ _ => Importable environment before source := by
  apply Guarantee.LockstepFrom.reading
  cases loaded : if reload then none else before.moduleGroup? source with
  | some group =>
      cases reload with
      | true => cases loaded
      | false => exact .pure holds (.inl (Option.isSome_of_eq_some loaded))
  | none =>
      apply loading.lockstepFrom_loadModule holds
      apply registers
      cases reload with
      | true => exact .inl rfl
      | false => exact .inr loaded

/-- What two interpreters for what is nested inside have in common in a scope, so that modules with known names are
imported and names of a set are bound. -/
structure Importing (guarantee : Guarantee Workspace) (known names : Set String) (cutoff : Cutoff)
    (environment : Environment) (inner other : Interpreter) (scope : Scope) : Prop
    extends Loading guarantee cutoff environment inner other where
  registers : ∀ {state name} loaded, guarantee.holds state → name ∈ known →
    guarantee.holds (state.register name loaded) ∧ guarantee.leads state (state.register name loaded)
  finds : ∀ {state name}, guarantee.holds state → Importable environment state name → name ∈ known
  binds : ∀ {state name} value, guarantee.holds state → name ∈ names →
    guarantee.holds (state.setMember scope.moduleGroup name value) ∧
      guarantee.leads state (state.setMember scope.moduleGroup name value)
  bindsKnown : known ⊆ names

namespace Importing

variable {guarantee : Guarantee Workspace} {known names : Set String} {cutoff : Cutoff} {environment : Environment}
  {inner other : Interpreter} {scope : Scope}
  (importing : Importing guarantee known names cutoff environment inner other scope)

include importing

/-- An import binds names of the set, once its module is known. -/
theorem lockstep_importModule {item : Import} (reload : Bool)
    (bound : item.source ∈ known → ∀ name ∈ item.boundNames, name ∈ names) :
    guarantee.Lockstep cutoff (inner.importModule environment scope item reload)
      (other.importModule environment scope item reload) fun _ => True := by
  intro before holds
  have finds : guarantee.LockstepFrom cutoff before (inner.moduleFor environment item.source reload)
      (other.moduleFor environment item.source reload) fun _ _ => Importable environment before item.source := by
    apply importing.toLoading.lockstepFrom_moduleFor holds
    intro _ importable state loaded holdsState
    exact importing.registers loaded holdsState (importing.finds holds importable)
  apply finds.bind
  intro group between holdsBetween importable
  apply lockstepFrom_bindImport importing.binds holdsBetween
  intro name reached
  exact bound (importing.finds holds importable) name (Import.mem_boundNames_of_reached reached)

theorem lockstep_importAll {items : List Import} (bound : ∀ item ∈ items, ∀ name ∈ item.boundNames, name ∈ names) :
    guarantee.Lockstep cutoff (inner.importAll environment scope items) (other.importAll environment scope items)
      fun _ => True := by
  induction items with
  | nil => exact .pure trivial
  | cons item rest ih =>
      apply Guarantee.Lockstep.bind (importing.lockstep_importModule false fun _ => bound item List.mem_cons_self)
      intro _ _
      exact ih fun later member => bound later (List.mem_cons_of_mem item member)

/-- A known module may be bound under its name. -/
theorem lockstep_importKnown (name : String) (reload : Bool) :
    guarantee.Lockstep cutoff (inner.importModule environment scope ⟨name, none, none⟩ reload)
      (other.importModule environment scope ⟨name, none, none⟩ reload) fun _ => True := by
  apply importing.lockstep_importModule
  intro isKnown bound member
  rw [List.mem_singleton.mp member]
  exact importing.bindsKnown isKnown

end Importing

/-! ### Programs of the surroundings -/

/-- A guarantee allows to make groups, defined variables, and procedures that bind names of a set. -/
structure Making (guarantee : Guarantee Workspace) (names : Set String) : Prop where
  makesGroup : ∀ {state} group, guarantee.holds state →
    guarantee.holds (state.newGroup group).2 ∧ guarantee.leads state (state.newGroup group).2
  makesProcedure : ∀ {state procedure}, guarantee.holds state → (∀ statement ∈ procedure.body, statement.BindsIn names) →
    guarantee.holds { state with store := (state.store.newProcedure procedure).2 } ∧
      guarantee.leads state { state with store := (state.store.newProcedure procedure).2 }
  makesDefinition : ∀ {state} code, guarantee.holds state →
    guarantee.holds { state with store := (state.store.newDefinition code).2 } ∧
      guarantee.leads state { state with store := (state.store.newDefinition code).2 }

/-- What two interpreters have in common in a scope, so that programs of the surroundings that bind names of a set are
carried out in lockstep. -/
structure Serving (guarantee : Guarantee Workspace) (names : Set String) (cutoff : Cutoff) (scope : Scope)
    (evaluate evaluateToo : Code → Action Value) (imports importsToo : Import → Bool → Action GroupId)
    (changes changesToo : GroupId → (Group → Group) → Action Unit) : Prop extends Making guarantee names where
  consults : ∀ {before after}, guarantee.holds before → Workspace.Consulted scope before after →
    guarantee.holds after ∧ guarantee.leads before after
  evaluates : ∀ code, guarantee.Lockstep cutoff (evaluate code) (evaluateToo code) fun _ => True
  loads : ∀ source reload,
    guarantee.Lockstep cutoff (imports ⟨source, none, none⟩ reload) (importsToo ⟨source, none, none⟩ reload) fun _ => True
  alters : ∀ group {change}, Group.ChangeBindsIn names change →
    guarantee.Lockstep cutoff (changes group change) (changesToo group change) fun _ => True

namespace Serving

variable {guarantee : Guarantee Workspace} {names : Set String} {cutoff : Cutoff} {scope : Scope}
  {evaluate evaluateToo : Code → Action Value} {imports importsToo : Import → Bool → Action GroupId}
  {changes changesToo : GroupId → (Group → Group) → Action Unit}
  (serving : Serving guarantee names cutoff scope evaluate evaluateToo imports importsToo changes changesToo)

include serving

theorem tells {state : Workspace} (output : String) (log : Array LogEntry) (holds : guarantee.holds state) :
    guarantee.holds { state with output, log } ∧ guarantee.leads state { state with output, log } :=
  serving.consults holds (Workspace.consulted_told output log)

/-- A program is carried out in lockstep, since each of its requests is. -/
theorem lockstep_fulfilBy {program : HostProgram} (binds : program.BindsIn names) :
    guarantee.Lockstep cutoff (Interpreter.fulfilBy evaluate imports changes scope program)
      (Interpreter.fulfilBy evaluateToo importsToo changesToo scope program) fun _ => True := by
  induction program with
  | done result => exact .ofResult fun _ _ => trivial
  | look next ih =>
      apply Guarantee.Lockstep.reading
      intro before holds
      exact ih scope before (fun name bound => binds name (.afterLook bound)) before holds
  | resolve path next ih =>
      have resolves : guarantee.Keeps (Workspace.resolve scope path) fun _ => True :=
        (Workspace.keeps_resolve path).transfer (fun _ => trivial) serving.consults
      apply Guarantee.Lockstep.bind (Guarantee.Lockstep.ofAccess resolves).caught
      intro found _
      exact ih found fun name bound => binds name (.afterResolve bound)
  | newGroup group next ih =>
      apply Guarantee.Lockstep.bind (.making fun _ holds => serving.makesGroup group holds)
      intro id _
      exact ih id fun name bound => binds name (.afterGroup bound)
  | newProcedure procedure next ih =>
      have bindsBody : ∀ statement ∈ procedure.body, statement.BindsIn names :=
        fun statement member inner within name bound => binds name (.procedure member within bound)
      apply Guarantee.Lockstep.bind (.making fun _ holds => serving.makesProcedure holds bindsBody)
      intro id _
      exact ih id fun name bound => binds name (.afterProcedure bound)
  | newDefinition code next ih =>
      apply Guarantee.Lockstep.bind (.making fun _ holds => serving.makesDefinition code holds)
      intro id _
      exact ih id fun name bound => binds name (.afterDefinition bound)
  | change group change next ih =>
      apply Guarantee.Lockstep.bind (serving.alters group fun before name now earlier => binds name (.change now earlier))
      intro _ _
      exact ih fun name bound => binds name (.afterChange bound)
  | write text next ih =>
      apply Guarantee.Lockstep.bind (.changing fun _ holds => serving.tells _ _ holds)
      intro _ _
      exact ih fun name bound => binds name (.afterWrite bound)
  | log entry next ih =>
      apply Guarantee.Lockstep.bind (.changing fun _ holds => serving.tells _ _ holds)
      intro _ _
      exact ih fun name bound => binds name (.afterLog bound)
  | evaluate code next ih =>
      apply Guarantee.Lockstep.bind (serving.evaluates code).caught
      intro result _
      exact ih result fun name bound => binds name (.afterEvaluate bound)
  | importModule source reload next ih =>
      apply Guarantee.Lockstep.bind (serving.loads source reload).caught
      intro result _
      exact ih result fun name bound => binds name (.afterImport bound)

end Serving

/-! ### Native functions that are not harmless -/

section Native

variable {guarantee : Guarantee Workspace} {cutoff : Cutoff} {environment : Environment} {scope : Scope}
  {imports importsToo : Import → Bool → Action GroupId} {fulfils fulfilsToo : HostProgram → Action Value}
  {before : Workspace}

theorem lockstep_reloadBy {arguments : List Value}
    (loads : ∀ source, guarantee.Lockstep cutoff (imports ⟨source, none, none⟩ true) (importsToo ⟨source, none, none⟩ true)
      fun _ => True) :
    guarantee.Lockstep cutoff (Interpreter.reloadBy imports arguments) (Interpreter.reloadBy importsToo arguments)
      fun _ => True := by
  unfold Interpreter.reloadBy
  split
  · apply Guarantee.Lockstep.bind (.ofResult fun _ _ => trivial)
    intro source _
    apply Guarantee.Lockstep.bind (loads source)
    intro _ _
    exact .pure trivial
  · exact .ofResult fun _ _ => trivial

/-- A native function that is not harmless loads a module again, deletes a group, or is one of the surrounding program. -/
theorem lockstepFrom_callNativeBy {function : Native} {arguments : List Value} (holds : guarantee.holds before)
    (harmful : function.isHarmless = false)
    (loads : ∀ source, guarantee.Lockstep cutoff (imports ⟨source, none, none⟩ true) (importsToo ⟨source, none, none⟩ true)
      fun _ => True)
    (deletes : function = .builtin .delGroup →
      guarantee.KeepsFrom before (Builtin.runDelGroup scope arguments) fun _ _ => True)
    (serves : ∀ {name host}, environment.function? name = some host →
      guarantee.Lockstep cutoff (fulfils (host.run arguments)) (fulfilsToo (host.run arguments)) fun _ => True) :
    guarantee.LockstepFrom cutoff before (Interpreter.callNativeBy environment imports fulfils scope function arguments)
      (Interpreter.callNativeBy environment importsToo fulfilsToo scope function arguments) fun _ _ => True := by
  unfold Interpreter.callNativeBy
  split
  · exact lockstep_reloadBy loads before holds
  · rename_i builtin _
    apply Guarantee.LockstepFrom.ofAccess
    cases builtin with
    | delGroup => exact .reading (deletes rfl)
    | reload => exact .reading (.pure holds trivial)
    | _ => cases harmful
  · rename_i name
    cases known : environment.function? name with
    | none => exact .fail _ holds
    | some host => exact serves known before holds

end Native

end GroupScript
