import GroupScript.Proofs.Constancy
import GroupScript.Session

/-!
# Reachable workspaces

A workspace is reachable if it comes from the empty one by what a program can do with it: giving out scopes, changing
and making groups, registering modules, setting the search names and where modules are found, looking up names from the
scopes given out, and running statements in them.  In every reachable workspace the kept search path is as good as a new
one, and a statement leaves a constant alone unless it comes to an operation that does not ask.
-/

namespace GroupScript

/-- The workspaces that can be reached, with the scopes given out on the way. -/
inductive Reachable (environment : Environment) : Set Scope → Workspace → Prop
  | start : Reachable environment ∅ .empty
  | scope {scopes : Set Scope} {workspace : Workspace} (localGroup moduleGroup : GroupId) :
      Reachable environment scopes workspace →
      Reachable environment (insert (workspace.newScope localGroup moduleGroup).1 scopes)
        (workspace.newScope localGroup moduleGroup).2
  | mutate {scopes : Set Scope} {workspace : Workspace} (store : Store) :
      Reachable environment scopes workspace → workspace.size ≤ store.groups.size →
      Reachable environment scopes { workspace with store }
  | register {scopes : Set Scope} {workspace : Workspace} (name : String) (loaded : LoadedModule) :
      Reachable environment scopes workspace → Reachable environment scopes (workspace.register name loaded)
  | search {scopes : Set Scope} {workspace : Workspace} (names : List String) :
      Reachable environment scopes workspace → Reachable environment scopes (workspace.setSearchNames names)
  | locate {scopes : Set Scope} {workspace : Workspace} (path : List String) (extension : String) :
      Reachable environment scopes workspace → Reachable environment scopes { workspace with path, extension }
  | consult {scopes : Set Scope} {workspace after : Workspace} {scope : Scope} :
      Reachable environment scopes workspace → scope ∈ scopes → workspace.Consulted scope after →
      Reachable environment scopes after
  | run {scopes : Set Scope} {workspace after : Workspace} {scope : Scope} (levels : Nat) (statement : Statement) :
      Reachable environment scopes workspace → scope ∈ scopes →
      Ends ((Interpreter.ofLevels environment levels).execute statement scope) workspace after →
      Reachable environment scopes after

theorem coherent_empty : Workspace.empty.Coherent ∅ where
  given := fun _ member => by cases member
  apart := fun _ member => by cases member
  cacheGiven := by decide
  cacheOld := by decide
  cached := fun _ _ member => by cases member

namespace Reachable

variable {environment : Environment} {scopes : Set Scope} {workspace after : Workspace} {scope : Scope}

theorem sound (reachable : Reachable environment scopes workspace) : Sound scopes workspace := by
  induction reachable with
  | start => exact ⟨coherent_empty, by decide⟩
  | scope localGroup moduleGroup _ ih => exact ih.newScope localGroup moduleGroup
  | mutate store _ grows ih => exact ih.aside store _ _ _ _ grows
  | register name loaded _ ih => exact ih.register name loaded
  | search names _ ih => exact ⟨ih.toCoherent.setSearchNames names, ih.rooted⟩
  | locate path extension _ ih => exact ⟨ih.toCoherent.aside _ path extension _ _ _ _, ih.rooted⟩
  | consult _ member consulted ih => exact ih.consulted member consulted
  | run levels statement _ member ends ih =>
      exact (((steadies_ofLevels environment levels).executes statement member).keeps.of_ends ih ends).1

/-- In a reachable workspace where all search names are registered, what is searched from a scope is what the registered
modules give now: the local group, the module group, the groups of the search names in order, and the root, each
once. -/
theorem searchGroups_eq (reachable : Reachable environment scopes workspace) (member : scope ∈ scopes)
    (registered : ∀ name ∈ workspace.searchNames, (workspace.moduleGroup? name).isSome = true) :
    Workspace.searchGroups scope workspace = .ok (workspace.searchPath scope) (workspace.refresh scope) ∧
      workspace.searchPath scope =
        ([scope.localGroup, scope.moduleGroup] ++ workspace.searchNames.filterMap workspace.moduleGroup? ++
          [workspace.root]).eraseDups := by
  have computed := Workspace.searchPath_of_registered registered scope
  obtain ⟨store, groups⟩ := reachable.sound.groups_refresh member
  have path : workspace.searchPath scope = _ := computed workspace.store
  constructor
  · change EStateM.Result.ok (workspace.refresh scope).cache.groups (workspace.refresh scope) = _
    rw [groups, computed store, path]
  · rw [path, Workspace.distinct_eq_eraseDups]

/-- Two scopes that take turns, while a search name is set before its module is registered. -/
theorem searchGroups_eq_alternating :
    let waiting := (((Workspace.empty.newScope 0 0).2.newScope 1 0).2.setSearchNames ["m"]).refresh ⟨2, 1, 0⟩
    let registered := (waiting.register "m" ⟨3, false⟩).refresh ⟨1, 0, 0⟩
    registered.searchNames = ["m", "_sys", "_builtin", "_math"] ∧
      Workspace.searchGroups ⟨2, 1, 0⟩ registered = .ok [1, 0, 3, 2] (registered.refresh ⟨2, 1, 0⟩) := by
  intro waiting registered
  have given : Reachable {} (insert ⟨2, 1, 0⟩ (insert ⟨1, 0, 0⟩ ∅)) ((Workspace.empty.newScope 0 0).2.newScope 1 0).2 :=
    .scope 1 0 (.scope 0 0 .start)
  have first : (⟨1, 0, 0⟩ : Scope) ∈ (insert ⟨2, 1, 0⟩ (insert ⟨1, 0, 0⟩ ∅) : Set Scope) := by simp
  have second : (⟨2, 1, 0⟩ : Scope) ∈ (insert ⟨2, 1, 0⟩ (insert ⟨1, 0, 0⟩ ∅) : Set Scope) := by simp
  have lookedUp := (given.search ["m"]).consult second (Workspace.consulted_refresh _ _)
  have reached := (lookedUp.register "m" ⟨3, false⟩).consult first (Workspace.consulted_refresh _ _)
  refine ⟨by decide, (searchGroups_eq reached second (by decide)).1.trans ?_⟩
  rfl

end Reachable

/-- Checks for what reaches a slot without asking whether it holds a constant: an import that binds the slot, a deletion
of a group after which the slot holds no constant, a call whose group is to hang in the slot, and a change of the group of
the slot by a program of the surroundings. -/
def Checks.unasked (environment : Environment) (slot : Slot) : Checks where
  binds := fun scope item group workspace =>
    scope.moduleGroup == slot.group && (item.reachedNames group workspace).contains slot.name
  calls := fun scope function arguments keywords workspace =>
    match function with
    | .native (.builtin .delGroup) =>
        keywords.isEmpty &&
          !(Access.finalState (Builtin.runDelGroup scope arguments) workspace).isConstantAt slot
    | .procedure id =>
        arguments.length == (workspace.store.procedure id).params.length &&
          decide (workspace.depth < environment.maxDepth) && workspace.root == slot.group &&
            environment.callName (workspace.store.procedure id).name workspace.calls == slot.name
    | _ => false
  changes := fun group _ => group == slot.group

theorem Checks.guards_unasked (environment : Environment) (slot : Slot) :
    (Checks.unasked environment slot).Guards environment {slot} where
  binds := by
    rintro scope item group workspace passes name reached rfl
    simp [unasked, reached] at passes
  procedures := by
    rintro scope id arguments keywords workspace passes arity shallow rfl
    simp [unasked, arity, shallow] at passes
  deletions := by
    rintro scope arguments workspace passes _ rfl _
    simpa [unasked] using passes
  changes := by
    rintro group workspace passes _ rfl rfl
    simp [unasked] at passes

namespace Reachable

variable {environment : Environment} {scopes : Set Scope} {workspace after : Workspace} {scope : Scope}

/-- A statement leaves a constant alone, unless the run comes to an operation that reaches its slot without asking.  The
interpreter that gives up before such an operation is then cut off, though the interpreter itself comes to an end. -/
theorem constant_of_ends {levels : Nat} {statement : Statement} {slot : Slot}
    (reachable : Reachable environment scopes workspace) (member : scope ∈ scopes)
    (ends : Ends ((Interpreter.ofLevels environment levels).execute statement scope) workspace after)
    (constant : workspace.isConstantAt slot = true) :
    (after.isConstantAt slot = true ∧ after.valueAt? slot = workspace.valueAt? slot) ∨
      ∃ stopped, (Interpreter.checked environment (.unasked environment slot) levels).execute statement scope workspace =
        .error .exhausted stopped := by
  have lockstep := (steadies_checked (Checks.guards_unasked environment slot) levels).executes statement member
    workspace reachable.sound
  cases ran : (Interpreter.checked environment (.unasked environment slot) levels).execute statement scope workspace with
  | ok signal last =>
      obtain ⟨ranToo, -, steady, -⟩ := lockstep.ok ran
      rw [Ends, ranToo] at ends
      obtain ⟨_, ⟨⟩⟩ | ⟨_, ⟨⟩⟩ := ends
      exact .inl (steady.kept slot rfl constant)
  | error halt last =>
      cases halt with
      | failure error =>
          obtain ⟨ranToo, -, steady⟩ := lockstep.failure ran
          rw [Ends, ranToo] at ends
          obtain ⟨_, ⟨⟩⟩ | ⟨_, ⟨⟩⟩ := ends
          exact .inl (steady.kept slot rfl constant)
      | exhausted => exact .inr ⟨last, rfl⟩

theorem standard (environment : Environment) : Reachable environment ∅ Workspace.standard := by
  have filled : Reachable environment ∅ { Workspace.empty with store := Workspace.standard.store } :=
    .mutate _ .start (by decide)
  exact filled

/-- A workspace whose root has a constant that leads to a group without protection, and whose name is that of a module. -/
def constantModule : Workspace :=
  (((Workspace.standard.newGroup {}).2.modifyGroup 0 (·.setConstant "k" (.group 4))).register "k" ⟨4, true⟩).newScope 0 0
    |>.2

theorem reachable_constantModule : Reachable {} (insert ⟨1, 0, 0⟩ ∅) constantModule :=
  .scope 0 0 (.register "k" ⟨4, true⟩
    (.mutate ((Workspace.standard.newGroup {}).2.modifyGroup 0 (·.setConstant "k" (.group 4))).store (standard {})
      (by decide)))

/-- A loop over the name of a constant fails and leaves the constant alone, though the constant could be deleted as a group
and its name could be imported. -/
theorem constant_of_ends_loop :
    ∃ after,
      Ends ((Interpreter.ofLevels {} 1).execute (.iterate "k" ⟨[.push (.list [.int 2])], "[2]"⟩ []) ⟨1, 0, 0⟩)
        constantModule after ∧
      after.isConstantAt ⟨0, "k"⟩ = true ∧ after.valueAt? ⟨0, "k"⟩ = some (.group 4) := by
  obtain ⟨after, ends⟩ : ∃ after,
      Ends ((Interpreter.ofLevels {} 1).execute (.iterate "k" ⟨[.push (.list [.int 2])], "[2]"⟩ []) ⟨1, 0, 0⟩)
        constantModule after :=
    ⟨_, .inr ⟨_, rfl⟩⟩
  have constant : constantModule.isConstantAt ⟨0, "k"⟩ = true := rfl
  have value : constantModule.valueAt? ⟨0, "k"⟩ = some (.group 4) := rfl
  rcases constant_of_ends reachable_constantModule (Set.mem_insert _ _) ends constant with
    ⟨stays, same⟩ | ⟨stopped, struck⟩
  · exact ⟨after, ends, stays, same.trans value⟩
  · cases struck

/-- An import binds a constant of the module group anew, and the deletion of a group takes a constant away. -/
theorem constants_change_by_import_and_deletion :
    (∃ workspace after, Reachable {} (insert ⟨1, 0, 0⟩ ∅) workspace ∧
      Ends ((Interpreter.ofLevels {} 1).execute (.importModules [⟨"_sys", none, some ["version"]⟩]) ⟨1, 0, 0⟩)
        workspace after ∧
      workspace.isConstantAt ⟨0, "version"⟩ = true ∧ workspace.valueAt? ⟨0, "version"⟩ = some (.int 1) ∧
      after.valueAt? ⟨0, "version"⟩ = some (.string versionText)) ∧
    ∃ workspace after, Reachable {} (insert ⟨1, 0, 0⟩ ∅) workspace ∧
      Ends ((Interpreter.ofLevels {} 1).execute
        (.evaluate ⟨[.push (.native (.builtin .delGroup)), .push (.string "k"), .call 1 []], "del_group('k')"⟩ false)
        ⟨1, 0, 0⟩) workspace after ∧
      workspace.isConstantAt ⟨0, "k"⟩ = true ∧ workspace.valueAt? ⟨0, "k"⟩ = some (.group 4) ∧
      after.valueAt? ⟨0, "k"⟩ = none := by
  constructor
  · refine ⟨((Workspace.standard.modifyGroup 0 (·.setConstant "version" (.int 1))).newScope 0 0).2, _, ?_,
      .inl ⟨_, rfl⟩, rfl, rfl, rfl⟩
    exact .scope 0 0 (.mutate _ (standard {}) (by decide))
  · refine ⟨(((Workspace.standard.newGroup {}).2.modifyGroup 0 (·.setConstant "k" (.group 4))).newScope 0 0).2, _, ?_,
      .inl ⟨_, rfl⟩, rfl, rfl, rfl⟩
    exact .scope 0 0 (.mutate _ (standard {}) (by decide))

end Reachable

/-! ### Sessions -/

namespace Session

variable {α : Type} {environment : Environment} {scopes : Set Scope} {session after : Session}

/-- A new session is reachable, and its scope has been given out. -/
theorem reachable_start (environment : Environment) (settings : Settings) :
    Reachable environment (insert (start settings).scope ∅) (start settings).workspace := by
  have located := (Reachable.standard environment).locate settings.path
    (String.ofList (settings.extension.toList.dropWhile (· == '.')))
  exact .scope _ _ located

/-- The guarantee of sessions that stay in reachable workspaces and in their scope. -/
def reaching (environment : Environment) (scopes : Set Scope) : Guarantee Session where
  holds := fun session => Reachable environment scopes session.workspace ∧ session.scope ∈ scopes
  leads := fun before after => after.scope = before.scope
  refl := fun _ => rfl
  trans := fun first second => second.trans first

theorem reaching_act {action : Action α}
    (reaches : ∀ {workspace after}, Reachable environment scopes workspace → Ends action workspace after →
      Reachable environment scopes after) :
    (reaching environment scopes).Keeps (act action) fun _ => True := by
  apply Guarantee.Keeps.everywhere
  intro before holds
  apply Guarantee.KeepsFrom.wrapping (action before.workspace)
  · intro value workspace ran
    have reachable := reaches holds.1 (.inl ⟨value, ran⟩)
    exact ⟨value, { before with workspace }, by rw [act, ran], ⟨reachable, holds.2⟩, rfl, trivial⟩
  · intro halt workspace ran
    refine ⟨halt, { before with workspace }, by rw [act, ran], fun final => ?_⟩
    cases halt with
    | failure error => exact ⟨⟨reaches holds.1 (.inr ⟨error, ran⟩), holds.2⟩, rfl⟩
    | exhausted => exact absurd rfl final

theorem reaching_compileNext : (reaching environment scopes).Keeps compileNext fun _ => True := by
  apply Guarantee.Keeps.everywhere
  intro before holds
  apply Guarantee.KeepsFrom.wrapping (Compile.next before.scope ⟨before.input, before.workspace⟩)
  · intro statement desk ran
    obtain ⟨-, consulted, -⟩ := Compile.consults_next.ok trivial ran
    have reachable := holds.1.consult holds.2 consulted
    exact ⟨statement, { before with input := desk.input, workspace := desk.workspace }, by rw [compileNext, ran],
      ⟨reachable, holds.2⟩, rfl, trivial⟩
  · intro halt desk ran
    refine ⟨halt, { before with input := desk.input, workspace := desk.workspace }, by rw [compileNext, ran],
      fun final => ?_⟩
    obtain ⟨-, consulted⟩ := Compile.consults_next.error trivial ran final
    exact ⟨⟨.consult holds.1 holds.2 consulted, holds.2⟩, rfl⟩

/-- An expression is evaluated as in the statement that consists of it. -/
theorem ends_execute_of_evaluate {levels : Nat} {code : Code} {scope : Scope} {workspace last : Workspace}
    (ends : Ends ((Interpreter.ofLevels environment levels).evaluate code scope) workspace last) :
    Ends ((Interpreter.ofLevels environment levels).execute (.evaluate code false) scope) workspace last := by
  cases levels with
  | zero => rcases ends with ⟨value, impossible⟩ | ⟨error, impossible⟩ <;> cases impossible
  | succ levels =>
      have same : (Interpreter.ofLevels environment (levels + 1)).execute (.evaluate code false) scope =
          ((Interpreter.ofLevels environment (levels + 1)).evaluate code scope >>= fun _ => pure .normal) := rfl
      rw [same]
      rcases ends with ⟨value, finished⟩ | ⟨error, failed⟩
      · exact .inl ⟨.normal, by rw [bind_apply, finished]; rfl⟩
      · exact .inr ⟨error, by rw [bind_apply, failed]⟩

theorem reaching_execute (levels : Nat) (statement : Statement) :
    (reaching environment scopes).Keeps (execute (Interpreter.ofLevels environment levels) statement)
      fun _ => True := by
  refine .bind .get fun session holds => ?_
  dsimp only
  split
  · refine .bind (reaching_act fun reachable ends => ?_) fun _ _ => .pure trivial
    exact .run levels _ reachable holds.2 (ends_execute_of_evaluate ends)
  · refine .bind (reaching_act fun reachable ends => .run levels _ reachable holds.2 ends) fun signal _ => ?_
    split
    · exact .pure trivial
    · refine .bind (reaching_act fun reachable ends => ?_) fun _ _ => .pure trivial
      rcases ends with ⟨value, finished⟩ | ⟨error, failed⟩
      · cases finished
        exact .consult reachable holds.2 (Workspace.consulted_told _ _)
      · cases failed

theorem reaching_runStatements (levels bound : Nat) (last : Option Value) :
    (reaching environment scopes).Keeps (runStatements (Interpreter.ofLevels environment levels) bound last)
      fun _ => True := by
  induction bound generalizing last with
  | zero => exact .throw _
  | succ bound ih =>
      refine .bind reaching_compileNext fun next _ => ?_
      cases next with
      | none => exact .pure trivial
      | some statement => exact .bind (reaching_execute levels statement) fun value _ => ih (value <|> last)

theorem reaching_clearingOnHalt {action : Run Session α}
    (keeps : (reaching environment scopes).Keeps action fun _ => True) :
    (reaching environment scopes).Keeps (clearingOnHalt action) fun _ => True := by
  apply Guarantee.Keeps.everywhere
  intro before holds
  apply Guarantee.KeepsFrom.wrapping (action before)
  · intro value ended ran
    exact ⟨value, ended, by rw [clearingOnHalt, ran], keeps.ok holds ran⟩
  · intro halt ended ran
    refine ⟨halt, { ended with input := ended.input.clear }, by rw [clearingOnHalt, ran], fun final => ?_⟩
    obtain ⟨holdsAfter, sameScope⟩ := keeps.error holds ran final
    exact ⟨holdsAfter, sameScope⟩

/-- A text that comes to its end in a session leaves a reachable workspace. -/
theorem reachable_of_eval {levels : Nat} {text : String} (reachable : Reachable environment scopes session.workspace)
    (member : session.scope ∈ scopes)
    (ends : Ends (eval (Interpreter.ofLevels environment levels) text) session after) :
    Reachable environment scopes after.workspace ∧ after.scope = session.scope := by
  have keeps : (reaching environment scopes).Keeps (eval (Interpreter.ofLevels environment levels) text)
      fun _ => True := by
    refine .bind (.changing fun _ holds => ⟨holds, rfl⟩) fun _ _ => .bind .get fun pushed _ => ?_
    exact reaching_clearingOnHalt (reaching_runStatements levels _ none)
  obtain ⟨holds, sameScope⟩ := keeps.of_ends ⟨reachable, member⟩ ends
  exact ⟨holds.1, sameScope⟩

end Session

end GroupScript
