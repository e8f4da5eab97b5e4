import GroupScript.Proofs.PathCreation
import GroupScript.Proofs.SparedLoads

/-!
# The registry of modules

A module that is registered is handed out again, whichever interpreter is asked and in whichever scope, and nothing of it
runs.  A module that is loaded runs to the end of its text in a new group, or is any group that the surrounding program
provides, and is registered after that.  Where this fails, the import ends in the state in which the module stopped, and
what was registered under its name is still registered.  All this needs that a module does not load itself, since the
module that is loaded inside is registered before the one outside has run.
-/

namespace GroupScript

section Caught

variable {α β : Type} {action : Action α} {before after : Workspace}

theorem caught_eq_ok {value : α} :
    action.caught before = .ok (.ok value) after ↔ action before = .ok value after := by
  unfold Action.caught
  split <;> simp_all

theorem caught_eq_error {error : Error} :
    action.caught before = .ok (.error error) after ↔ action before = .error (.failure error) after := by
  unfold Action.caught
  split <;> simp_all

theorem caught_get_bind (next : Workspace → Action α) : (get >>= next).caught before = (next before).caught before :=
  rfl

theorem caught_bind_of_ok {next : α → Action β} {value : α} (finished : action before = .ok value after) :
    (action >>= next).caught before = (next value).caught after := by
  unfold Action.caught
  rw [bind_apply, finished]

theorem caught_bind_of_failure {next : α → Action β} {error : Error}
    (failed : action before = .error (.failure error) after) :
    (action >>= next).caught before = .ok (.error error) after := by
  rw [caught_eq_error, bind_apply, failed]

/-- What follows a step is carried out where the step has not failed. -/
theorem caught_bind_cases {next : α → Action β} {outcome : Except Error β}
    (ran : (action >>= next).caught before = .ok outcome after) :
    (∃ error, outcome = .error error ∧ action before = .error (.failure error) after) ∨
      ∃ value between, action before = .ok value between ∧ (next value).caught between = .ok outcome after := by
  cases starts : action before with
  | ok value between =>
      rw [caught_bind_of_ok starts] at ran
      exact .inr ⟨value, between, rfl, ran⟩
  | error halt stopped =>
      cases halt with
      | failure error =>
          rw [caught_bind_of_failure starts] at ran
          cases ran
          exact .inl ⟨error, rfl, rfl⟩
      | exhausted =>
          rw [Action.caught, bind_apply, starts] at ran
          cases ran

end Caught

/-! ### Handing out a module -/

/-- How an import ends once the group of its module is there: with that group, or at a member that the module lacks.  It
changes nothing but members of the module group of its scope, under names of the import. -/
structure Import.Delivered (item : Import) (scope : Scope) (group : GroupId) (before : Workspace)
    (outcome : Except Error GroupId) (after : Workspace) : Prop where
  result : outcome = .ok group ∨ ∃ listed, item.members? = some listed ∧ ∃ name ∈ listed,
    (after.group group).get? name = none ∧ outcome = .error (.unresolvedSymbol (.missingImport name item.source))
  stored : after = { before with store := after.store }
  beside : ∀ slot : Slot, (slot.group = scope.moduleGroup → slot.name ∉ item.boundNames) →
    after.valueAt? slot = before.valueAt? slot

theorem Workspace.valueAt?_setMember_of_ne {workspace : Workspace} {id : GroupId} {name : String} {other : Slot}
    (value : Value) (apart : other.group = id → other.name ≠ name) :
    (workspace.setMember id name value).valueAt? other = workspace.valueAt? other := by
  by_cases inside : id < workspace.size
  · rw [valueAt?_setMember workspace ⟨id, name⟩ other value inside, if_neg]
    rintro rfl
    exact apart rfl rfl
  · rw [valueAt?, setMember, modifyGroup_of_size_le _ (Nat.le_of_not_lt inside), valueAt?]

section Copying

variable {scope : Scope} {source name : String} {group : GroupId} {rest : List String} {before : Workspace}

theorem copyMembers_of_missing (missing : (before.group group).get? name = none) :
    Interpreter.copyMembers scope source group (name :: rest) before =
      .error (.failure (.unresolvedSymbol (.missingImport name source))) before := by
  rw [Interpreter.copyMembers, get_bind_apply, missing]
  rfl

theorem copyMembers_of_found {value : Value} (found : (before.group group).get? name = some value) :
    Interpreter.copyMembers scope source group (name :: rest) before =
      Interpreter.copyMembers scope source group rest (before.setMember scope.moduleGroup name value) := by
  rw [Interpreter.copyMembers, get_bind_apply, found]
  rfl

end Copying

theorem caught_copyMembers (scope : Scope) (source : String) (group : GroupId) (listed : List String)
    (before : Workspace) :
    ∃ outcome after, (Interpreter.copyMembers scope source group listed).caught before = .ok outcome after ∧
      (outcome = .ok () ∨ ∃ name ∈ listed, (after.group group).get? name = none ∧
        outcome = .error (.unresolvedSymbol (.missingImport name source))) ∧
      after = { before with store := after.store } ∧
      ∀ slot : Slot, (slot.group = scope.moduleGroup → slot.name ∉ listed) →
        after.valueAt? slot = before.valueAt? slot := by
  induction listed generalizing before with
  | nil => exact ⟨.ok (), before, rfl, .inl rfl, rfl, fun _ _ => rfl⟩
  | cons name rest ih =>
      cases found : (before.group group).get? name with
      | none =>
          refine ⟨_, before, ?_, .inr ⟨name, List.mem_cons_self, found, rfl⟩, rfl, fun _ _ => rfl⟩
          exact caught_eq_error.mpr (copyMembers_of_missing found)
      | some value =>
          obtain ⟨outcome, after, ran, result, stored, beside⟩ := ih (before.setMember scope.moduleGroup name value)
          refine ⟨outcome, after, ?_, ?_, stored, ?_⟩
          · rw [← ran, Action.caught, copyMembers_of_found found, Action.caught]
          · rcases result with done | ⟨lacking, member, missing⟩
            · exact .inl done
            · exact .inr ⟨lacking, List.mem_cons_of_mem name member, missing⟩
          · intro slot apart
            rw [beside slot fun inside member => apart inside (List.mem_cons_of_mem name member)]
            apply Workspace.valueAt?_setMember_of_ne
            rintro inside rfl
            exact apart inside List.mem_cons_self

theorem delivered_bindImport (scope : Scope) (item : Import) (group : GroupId) (before : Workspace) :
    ∃ outcome after, (Interpreter.bindImport scope item group).caught before = .ok outcome after ∧
      item.Delivered scope group before outcome after := by
  cases members : item.members? with
  | none =>
      refine ⟨.ok group, before.setMember scope.moduleGroup (item.localName?.getD item.source) (.group group), ?_,
        .inl rfl, rfl, ?_⟩
      · rw [caught_eq_ok, Interpreter.bindImport, members]
        rfl
      · intro slot apart
        apply Workspace.valueAt?_setMember_of_ne
        intro inside same
        apply apart inside
        simp [Import.boundNames, members, same]
  | some listed =>
      obtain ⟨outcome, after, ran, result, stored, beside⟩ := caught_copyMembers scope item.source group listed before
      have apart : item.boundNames = listed := by simp [Import.boundNames, members]
      rcases result with rfl | ⟨name, member, missing, rfl⟩
      · refine ⟨.ok group, after, ?_, .inl rfl, stored, apart ▸ beside⟩
        rw [Interpreter.bindImport, members]
        exact caught_bind_of_ok (caught_eq_ok.mp ran)
      · refine ⟨_, after, ?_, .inr ⟨listed, members, name, member, missing, rfl⟩, stored, apart ▸ beside⟩
        rw [Interpreter.bindImport, members]
        exact caught_bind_of_failure (caught_eq_error.mp ran)

section Asking

variable {environment : Environment} {inner : Interpreter} {scope : Scope} {item : Import} {before : Workspace}

theorem importModule_of_registered {group : GroupId} (registered : before.moduleGroup? item.source = some group) :
    inner.importModule environment scope item false before = Interpreter.bindImport scope item group before := by
  have found : inner.moduleFor environment item.source false before = .ok group before := by
    rw [Interpreter.moduleFor, get_bind_apply, if_neg Bool.false_ne_true, registered]
    rfl
  rw [Interpreter.importModule, bind_apply, found]

theorem importModule_of_load {reload : Bool} (loads : reload = true ∨ before.moduleGroup? item.source = none) :
    inner.importModule environment scope item reload before =
      (inner.loadModule environment item.source >>= Interpreter.bindImport scope item) before := by
  have nothing : (if reload then none else before.moduleGroup? item.source) = none := by
    rcases loads with rfl | missing
    · rfl
    · rw [missing, ite_self]
  have found : inner.moduleFor environment item.source reload before = inner.loadModule environment item.source before := by
    rw [Interpreter.moduleFor, get_bind_apply, nothing]
  rw [Interpreter.importModule, bind_apply, found, bind_apply]

theorem caught_importModule_of_ok {reload : Bool} {loaded : LoadedModule} {between : Workspace}
    (loads : reload = true ∨ before.moduleGroup? item.source = none)
    (found : inner.findModule environment item.source before = .ok loaded between) :
    (inner.importModule environment scope item reload).caught before =
      (Interpreter.bindImport scope item loaded.group).caught (between.register item.source loaded) := by
  have registers : inner.loadModule environment item.source before =
      .ok loaded.group (between.register item.source loaded) := by
    rw [Interpreter.loadModule, bind_apply, found]
    rfl
  rw [Action.caught, importModule_of_load loads]
  exact caught_bind_of_ok registers

theorem caught_importModule_of_failure {reload : Bool} {error : Error} {between : Workspace}
    (loads : reload = true ∨ before.moduleGroup? item.source = none)
    (failed : inner.findModule environment item.source before = .error (.failure error) between) :
    (inner.importModule environment scope item reload).caught before = .ok (.error error) between := by
  have stops : inner.loadModule environment item.source before = .error (.failure error) between := by
    rw [Interpreter.loadModule, bind_apply, failed]
  rw [Action.caught, importModule_of_load loads]
  exact caught_bind_of_failure stops

end Asking

/-! ### Loading a module -/

/-- Where the text of a module starts: in a new group, and in a scope of its own on it. -/
def Workspace.moduleStart (workspace : Workspace) : Scope × Workspace :=
  (workspace.newGroup {}).2.isolatedScope workspace.size

/-- A signal outside of procedures and loops has no effect, but a return is logged. -/
def Workspace.afterSignal (workspace : Workspace) : Signal → Workspace
  | .leave _ => workspace.warn "ignoring return outside of procedure"
  | _ => workspace

/-- How a text runs: to its end, or up to a statement that does not compile or fails. -/
inductive Interpreter.TextRuns (inner : Interpreter) (scope : Scope) :
    Input → Workspace → Except Error Unit → Workspace → Prop
  | ended {input rest : Input} {before after : Workspace} :
      compileNext scope input before = .ok (none, rest) after → TextRuns inner scope input before (.ok ()) after
  | malformed {input : Input} {before after : Workspace} {error : Error} :
      compileNext scope input before = .error (.failure error) after →
      TextRuns inner scope input before (.error error) after
  | stopped {input rest : Input} {before compiled after : Workspace} {statement : Statement} {error : Error} :
      compileNext scope input before = .ok (some statement, rest) compiled →
      inner.execute statement scope compiled = .error (.failure error) after →
      TextRuns inner scope input before (.error error) after
  | next {input rest : Input} {before compiled executed after : Workspace} {statement : Statement} {signal : Signal}
      {outcome : Except Error Unit} :
      compileNext scope input before = .ok (some statement, rest) compiled →
      inner.execute statement scope compiled = .ok signal executed →
      TextRuns inner scope rest (executed.afterSignal signal) outcome after →
      TextRuns inner scope input before outcome after

/-- How a module is loaded: its text runs, the surrounding program provides it, or there is no such module.  A failure of
the text is logged. -/
inductive Interpreter.LoadEnds (inner : Interpreter) (environment : Environment) (name : String) (before : Workspace) :
    Except Error LoadedModule → Workspace → Prop
  | ran {path text : String} {after : Workspace} :
      environment.files.moduleFile? before.path name before.extension = some path →
      environment.files.read path = .ok text →
      inner.TextRuns before.moduleStart.1 (({} : Input).pushText text.toList path) before.moduleStart.2 (.ok ()) after →
      LoadEnds inner environment name before (.ok ⟨before.size, false⟩) after
  | failed {path text : String} {error : Error} {stopped : Workspace} :
      environment.files.moduleFile? before.path name before.extension = some path →
      environment.files.read path = .ok text →
      inner.TextRuns before.moduleStart.1 (({} : Input).pushText text.toList path) before.moduleStart.2 (.error error)
        stopped →
      LoadEnds inner environment name before (.error error)
        (stopped.logError ("failed to load module " ++ name ++ " - " ++ error.message))
  | unreadable {path : String} {error : Error} :
      environment.files.moduleFile? before.path name before.extension = some path →
      environment.files.read path = .error error → LoadEnds inner environment name before (.error error) before
  | supplied {supply : Supply before.store} :
      environment.files.moduleFile? before.path name before.extension = none →
      environment.load name before = .ok (some supply) →
      LoadEnds inner environment name before (.ok ⟨supply.group, true⟩) { before with store := supply.store }
  | refused {error : Error} :
      environment.files.moduleFile? before.path name before.extension = none →
      environment.load name before = .error error → LoadEnds inner environment name before (.error error) before
  | missing :
      environment.files.moduleFile? before.path name before.extension = none →
      environment.load name before = .ok none →
      LoadEnds inner environment name before (.error (.moduleNotFound name)) before

namespace Interpreter

variable {inner : Interpreter} {environment : Environment} {name : String} {before after : Workspace}

theorem textRuns_of_runInput {scope : Scope} {bound : Nat} {input : Input} {outcome : Except Error Unit}
    (ran : (inner.runInput scope bound input).caught before = .ok outcome after) :
    inner.TextRuns scope input before outcome after := by
  induction bound generalizing input before with
  | zero => cases ran
  | succ bound ih =>
      rw [runInput] at ran
      rcases caught_bind_cases ran with ⟨error, rfl, fails⟩ | ⟨⟨next, rest⟩, compiled, compiles, ran⟩
      · exact .malformed fails
      · cases next with
        | none =>
            cases ran
            exact .ended compiles
        | some statement =>
            rcases caught_bind_cases ran with ⟨error, rfl, fails⟩ | ⟨signal, executed, executes, ran⟩
            · exact .stopped compiles fails
            · apply TextRuns.next compiles executes
              cases signal <;> exact ih ran

theorem eq_ok_of_loggingFailure {α : Type} {action : Action α} {value : α}
    (finished : loggingFailure name action before = .ok value after) : action before = .ok value after := by
  obtain ⟨outcome, between, ran, finished⟩ := bind_eq_ok finished
  cases outcome with
  | ok result =>
      cases finished
      exact caught_eq_ok.mp ran
  | error error => cases finished

theorem eq_error_of_loggingFailure {α : Type} {action : Action α} {error : Error}
    (failed : loggingFailure name action before = .error (.failure error) after) :
    ∃ stopped, action before = .error (.failure error) stopped ∧
      after = stopped.logError ("failed to load module " ++ name ++ " - " ++ error.message) := by
  rcases bind_eq_error failed with impossible | ⟨outcome, stopped, ran, failed⟩
  · unfold Action.caught at impossible
    split at impossible <;> cases impossible
  · cases outcome with
    | ok value => cases failed
    | error reason =>
        cases failed
        exact ⟨stopped, caught_eq_error.mp ran, rfl⟩

theorem runModule_apply (inner : Interpreter) (path text : String) (before : Workspace) :
    inner.runModule path text before =
      (inner.runInput before.moduleStart.1 ((({} : Input).pushText text.toList path).unread + 1)
        (({} : Input).pushText text.toList path) >>= fun _ => pure before.size) before.moduleStart.2 :=
  rfl

theorem loadEnds_of_runModule {path text : String} {result : Except Error LoadedModule}
    (found : environment.files.moduleFile? before.path name before.extension = some path)
    (read : environment.files.read path = .ok text)
    (ran : (loggingFailure name (inner.runModule path text) >>= fun group =>
      (pure ⟨group, false⟩ : Action LoadedModule)).caught before = .ok result after) :
    inner.LoadEnds environment name before result after := by
  rcases caught_bind_cases ran with ⟨error, rfl, failed⟩ | ⟨group, between, finished, ran⟩
  · obtain ⟨stopped, stops, rfl⟩ := eq_error_of_loggingFailure failed
    rw [runModule_apply] at stops
    rcases bind_eq_error stops with stops | ⟨_, _, _, impossible⟩
    · exact .failed found read (textRuns_of_runInput (caught_eq_error.mpr stops))
    · cases impossible
  · cases ran
    have runs := eq_ok_of_loggingFailure finished
    rw [runModule_apply] at runs
    obtain ⟨_, _, runs, ended⟩ := bind_eq_ok runs
    cases ended
    exact .ran found read (textRuns_of_runInput (caught_eq_ok.mpr runs))

/-- The end of a search for a module is one of those listed. -/
theorem loadEnds_of_findModule {result : Except Error LoadedModule}
    (ran : (inner.findModule environment name).caught before = .ok result after) :
    inner.LoadEnds environment name before result after := by
  rw [findModule, caught_get_bind] at ran
  cases found : environment.files.moduleFile? before.path name before.extension with
  | some path =>
      simp only [found] at ran
      cases read : environment.files.read path with
      | error error =>
          rw [read] at ran
          cases ran
          exact .unreadable found read
      | ok text =>
          rw [read] at ran
          exact loadEnds_of_runModule found read ran
  | none =>
      simp only [found] at ran
      cases asked : environment.load name before with
      | error error =>
          rw [asked] at ran
          cases ran
          exact .refused found asked
      | ok provided =>
          rw [asked] at ran
          cases provided with
          | none =>
              cases ran
              exact .missing found asked
          | some supply =>
              cases ran
              exact .supplied found asked

/-- A module that is loaded from a file has the next group that is made. -/
theorem LoadEnds.group_eq {loaded : LoadedModule} (ends : inner.LoadEnds environment name before (.ok loaded) after)
    (fromFile : loaded.native = false) : loaded.group = before.size := by
  cases ends with
  | ran => rfl
  | supplied => cases fromFile

/-- The module of a name is found, or fails to be, without loading it again on the way. -/
def LoadsOnce (environment : Environment) (levels : Nat) (name : String) (before : Workspace) : Prop :=
  ∃ after, Ends ((checked environment (.loading name) levels).findModule environment name) before after

/-- An import of a module that is registered hands out its group, with every interpreter, and leaves the registry as it
is.  An import of another module, or one that loads a module anew, registers the module when it is loaded, and nothing
has happened to what is registered under its name until then.  If the module fails to load, that is all that happens. -/
theorem registry_after_importModule (environment : Environment) (levels : Nat) (scope : Scope) (item : Import)
    (before : Workspace) :
    (∀ group, before.moduleGroup? item.source = some group →
      ∃ outcome after, item.Delivered scope group before outcome after ∧ after.modules = before.modules ∧
        ∀ inner : Interpreter, (inner.importModule environment scope item false).caught before = .ok outcome after) ∧
    ∀ reload, reload = true ∨ before.moduleGroup? item.source = none →
      LoadsOnce environment levels item.source before →
      ∃ result between outcome after,
        (ofLevels environment levels).LoadEnds environment item.source before result between ∧
        between.modules.get? item.source = before.modules.get? item.source ∧
        ((ofLevels environment levels).importModule environment scope item reload).caught before = .ok outcome after ∧
        (∀ loaded, result = .ok loaded → (loaded.native = false → loaded.group = before.size) ∧
          item.Delivered scope loaded.group (between.register item.source loaded) outcome after ∧
          after.modules.get? item.source = some loaded) ∧
        ∀ error, result = .error error → outcome = .error error ∧ after = between := by
  constructor
  · intro group registered
    obtain ⟨outcome, after, ran, delivered⟩ := delivered_bindImport scope item group before
    refine ⟨outcome, after, delivered, ?_, fun inner => ?_⟩
    · rw [delivered.stored]
    · rw [Action.caught, importModule_of_registered registered]
      exact ran
  · rintro reload loads ⟨between, ended⟩
    have lockstep := lockstepFrom_findModule_sparing environment item.source levels before
    rcases ended with ⟨loaded, finished⟩ | ⟨error, failed⟩
    · obtain ⟨found, -, kept, -⟩ := lockstep.ok finished
      have ends := loadEnds_of_findModule (caught_eq_ok.mpr found)
      obtain ⟨outcome, after, ran, delivered⟩ :=
        delivered_bindImport scope item loaded.group (between.register item.source loaded)
      refine ⟨.ok loaded, between, outcome, after, ends, kept, ?_, ?_, ?_⟩
      · exact (caught_importModule_of_ok loads found).trans ran
      · rintro _ ⟨⟩
        refine ⟨ends.group_eq, delivered, ?_⟩
        rw [delivered.stored]
        exact (Dictionary.get?_put ..).trans (if_pos rfl)
      · intro _ impossible
        cases impossible
    · obtain ⟨missed, -, kept⟩ := lockstep.failure failed
      have ends := loadEnds_of_findModule (caught_eq_error.mpr missed)
      refine ⟨.error error, between, .error error, between, ends, kept, ?_, ?_, ?_⟩
      · exact caught_importModule_of_failure loads missed
      · intro _ impossible
        cases impossible
      · rintro _ ⟨⟩
        exact ⟨rfl, rfl⟩

/-- The error with which an action fails. -/
def failure? {α : Type} (action : Action α) (before : Workspace) : Option Error :=
  match action before with
  | .error (.failure error) _ => some error
  | _ => none

theorem exists_of_failure? {α : Type} {action : Action α} (fails : (failure? action before).isSome = true) :
    ∃ error after, action before = .error (.failure error) after := by
  unfold failure? at fails
  split at fails
  · rename_i error after failed
    exact ⟨error, after, failed⟩
  · cases fails

/-- The files of two modules, one of which imports the other one and then fails. -/
def failingFiles : Files := fun path =>
  if path = "./outer.tdl" then .ok "import part\nx = part.y\nx = missing\n"
  else if path = "./part.tdl" then .ok "y = 1\n"
  else .error .absent

/-- A workspace in which the module that fails was loaded before. -/
def earlierLoaded : Workspace :=
  Workspace.empty.register "outer" ⟨0, false⟩

theorem loadsOnce_outer : LoadsOnce { files := failingFiles } 9 "outer" earlierLoaded := by
  have fails : (failure? ((checked { files := failingFiles } (.loading "outer") 9).findModule { files := failingFiles }
      "outer") earlierLoaded).isSome = true := by
    decide +kernel
  obtain ⟨error, after, failed⟩ := exists_of_failure? fails
  exact ⟨after, .inr ⟨error, failed⟩⟩

/-- Surroundings that provide the root as a module, each time it is asked for. -/
def sharingRoot : Environment where
  load := fun _ workspace =>
    if present : workspace.root < workspace.store.groups.size then
      .ok (some ⟨workspace.root, workspace.store, .refl _, present⟩)
    else .ok none

theorem loadsOnce_shared : LoadsOnce sharingRoot 1 "shared" Workspace.empty :=
  ⟨Workspace.empty, .inl ⟨⟨0, true⟩, rfl⟩⟩

/-- A module that was loaded before is handed out, and stays registered when it fails to be loaded anew.  A module of the
surroundings may be a group that exists. -/
theorem registry_after_importModule_failing :
    (∃ after, ∀ inner : Interpreter, (inner.importModule { files := failingFiles } ⟨0, 0, 0⟩ ⟨"outer", none, none⟩
      false).caught earlierLoaded = .ok (.ok 0) after) ∧
    LoadsOnce { files := failingFiles } 9 "outer" earlierLoaded ∧
    (∃ error after, ((ofLevels { files := failingFiles } 9).importModule { files := failingFiles } ⟨0, 0, 0⟩
        ⟨"outer", none, none⟩ true).caught earlierLoaded = .ok (.error error) after ∧
      after.modules.get? "outer" = some ⟨0, false⟩) ∧
    LoadsOnce sharingRoot 1 "shared" Workspace.empty ∧
    ∃ outcome after, ((ofLevels sharingRoot 1).importModule sharingRoot ⟨0, 0, 0⟩ ⟨"shared", none, none⟩ false).caught
        Workspace.empty = .ok outcome after ∧
      after.modules.get? "shared" = some ⟨0, true⟩ := by
  obtain ⟨handsOut, loads⟩ :=
    registry_after_importModule { files := failingFiles } 9 ⟨0, 0, 0⟩ ⟨"outer", none, none⟩ earlierLoaded
  refine ⟨?_, loadsOnce_outer, ?_, loadsOnce_shared, ?_⟩
  · obtain ⟨outcome, after, delivered, -, same⟩ := handsOut 0 rfl
    rcases delivered.result with rfl | ⟨_, impossible, -⟩
    · exact ⟨after, same⟩
    · cases impossible
  · have fails : (failure? ((ofLevels { files := failingFiles } 9).importModule { files := failingFiles } ⟨0, 0, 0⟩
        ⟨"outer", none, none⟩ true) earlierLoaded).isSome = true := by
      decide +kernel
    obtain ⟨error, stopped, failed⟩ := exists_of_failure? fails
    obtain ⟨result, between, outcome, after, -, kept, ran, succeeds, stops⟩ := loads true (.inl rfl) loadsOnce_outer
    rw [caught_eq_error.mpr failed] at ran
    cases ran
    refine ⟨error, stopped, caught_eq_error.mpr failed, ?_⟩
    cases result with
    | ok loaded =>
        rcases (succeeds loaded rfl).2.1.result with impossible | ⟨_, impossible, -⟩
        · cases impossible
        · cases impossible
    | error other =>
        rw [(stops other rfl).2, kept]
        rfl
  · obtain ⟨-, shares⟩ := registry_after_importModule sharingRoot 1 ⟨0, 0, 0⟩ ⟨"shared", none, none⟩ Workspace.empty
    obtain ⟨result, between, outcome, after, ends, -, ran, succeeds, -⟩ := shares false (.inr rfl) loadsOnce_shared
    cases ends with
    | supplied _ provided =>
        cases provided
        exact ⟨outcome, after, ran, (succeeds _ rfl).2.2⟩
    | ran found => cases found
    | failed found => cases found
    | unreadable found => cases found
    | refused _ refused => cases refused
    | missing _ missing => cases missing

end Interpreter

end GroupScript
