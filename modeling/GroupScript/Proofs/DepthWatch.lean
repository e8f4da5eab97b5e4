import GroupScript.Proofs.Tandem

/-!
# Watching the depth

The depth of the calls and readings in progress is checked before each of them, so it never exceeds its limit.  This is
said by an interpreter that watches the depth at every statement and at every evaluation and halts where the limit is
exceeded: it runs exactly like the interpreter that does not.  Along the way the names of the calls in progress are the
only ones that calls have left in the root.
-/

namespace GroupScript

namespace Interpreter

/-- An interpreter that halts wherever the depth exceeds a limit. -/
def upTo (limit : Nat) (alarm : Halt) (interpreter : Interpreter) : Interpreter where
  execute := fun statement scope workspace =>
    if workspace.depth ≤ limit then interpreter.execute statement scope workspace else .error alarm workspace
  evaluate := fun code scope workspace =>
    if workspace.depth ≤ limit then interpreter.evaluate code scope workspace else .error alarm workspace

/-- The interpreter with a number of levels that halts wherever the depth exceeds the limit of the environment. -/
def watched (environment : Environment) (alarm : Halt) : Nat → Interpreter
  | 0 => spent
  | levels + 1 =>
      upTo environment.maxDepth alarm
        { execute := fun statement scope =>
            (watched environment alarm levels).executeWith environment levels statement scope
          evaluate := fun code scope =>
            (watched environment alarm levels).evaluateWith environment code scope }

end Interpreter

theorem Group.has_eq (group : Group) (name : String) : group.has name = (group.get? name).isSome := by
  rw [Group.get?, Option.isSome_map]
  rfl

/-- The depth is within its limit, calls have left no names in the root but those of the calls in progress, and the names
of a set cover all that procedures and imports can bind. -/
structure Settled (environment : Environment) (names opened : Set String) (workspace : Workspace) : Prop where
  rooted : workspace.root < workspace.size
  shallow : workspace.depth ≤ environment.maxDepth
  calls : ∀ procedure number, (workspace.group workspace.root).has (environment.callName procedure number) = true →
    environment.callName procedure number ∈ names ∨ environment.callName procedure number ∈ opened
  bodies : ∀ id, ∀ statement ∈ (workspace.store.procedure id).body, statement.BindsIn names
  known : ∀ name, Importable environment workspace name → name ∈ names

namespace Settled

variable {environment : Environment} {names opened : Set String} {before after : Workspace}

/-- Something new is made, and what was there stays. -/
theorem extended {store : Store} (settled : Settled environment names opened before) (kept : before.store.Extends store)
    (bodies : ∀ id, before.store.procedures.size ≤ id → ∀ statement ∈ (store.procedure id).body, statement.BindsIn names) :
    Settled environment names opened { before with store } where
  rooted := Nat.lt_of_lt_of_le settled.rooted kept.groups.size_le
  shallow := settled.shallow
  calls := by
    have confined : Workspace.Confined ∅ before { before with store } := .of_extends kept
    have same : Workspace.group { before with store } before.root = before.group before.root :=
      confined.others _ settled.rooted (Set.notMem_empty _)
    intro procedure number has
    rw [same] at has
    exact settled.calls procedure number has
  bodies := by
    intro id
    by_cases present : id < before.store.procedures.size
    · have same : store.procedure id = before.store.procedure id := by
        rw [Store.procedure, Store.procedure, Array.getD_eq_getD_getElem?, Array.getD_eq_getD_getElem?,
          kept.procedures id present]
      rw [same]
      exact settled.bodies id
    · exact bodies id (Nat.le_of_not_lt present)
  known := settled.known

theorem newGroup (settled : Settled environment names opened before) (group : Group) :
    Settled environment names opened (before.newGroup group).2 := by
  apply settled.extended (before.store.extends_newGroup group)
  exact fun id _ => settled.bodies id

/-- A group changes, and the names that become bound in it may be bound. -/
theorem modifyGroup {more : Set String} (settled : Settled environment names opened before) (id : GroupId)
    (change : Group → Group) (fewer : opened ⊆ more)
    (bound : ∀ name, (change (before.group id)).has name = true →
      (before.group id).has name = true ∨ name ∈ names ∨ name ∈ more) :
    Settled environment names more (before.modifyGroup id change) where
  rooted := by
    rw [Workspace.size_modifyGroup]
    exact settled.rooted
  shallow := settled.shallow
  calls := by
    intro procedure number has
    have old (hadIt : (before.group before.root).has (environment.callName procedure number) = true) :
        environment.callName procedure number ∈ names ∨ environment.callName procedure number ∈ more :=
      (settled.calls procedure number hadIt).imp_right fun inside => fewer inside
    change ((before.modifyGroup id change).group before.root).has _ = true at has
    by_cases same : id = before.root
    · subst same
      rw [Workspace.group_modifyGroup _ _ _ _ settled.rooted, if_pos rfl] at has
      rcases bound _ has with hadIt | isNew
      · exact old hadIt
      · exact isNew
    · rw [Workspace.group_modifyGroup_of_ne change same] at has
      exact old has
  bodies := settled.bodies
  known := settled.known

theorem setMember {more : Set String} {name : String} (settled : Settled environment names opened before) (id : GroupId)
    (value : Value) (fewer : opened ⊆ more) (bound : name ∈ names ∨ name ∈ more) :
    Settled environment names more (before.setMember id name value) := by
  apply settled.modifyGroup id _ fewer
  intro other has
  rw [Group.has_eq, Group.get?_set] at has
  split at has
  · rename_i same
    rw [← same]
    exact .inr bound
  · rw [Group.has_eq]
    exact .inl has

theorem remove (settled : Settled environment names opened before) (id : GroupId) (name : String) :
    Settled environment names opened (before.modifyGroup id (·.remove name)) := by
  apply settled.modifyGroup id _ (Set.Subset.refl _)
  intro other has
  rw [Group.has_eq, Group.get?_remove] at has
  split at has
  · cases has
  · rw [Group.has_eq]
    exact .inl has

theorem newProcedure {procedure : Procedure} (settled : Settled environment names opened before)
    (binds : ∀ statement ∈ procedure.body, statement.BindsIn names) :
    Settled environment names opened { before with store := (before.store.newProcedure procedure).2 } := by
  apply settled.extended (before.store.extends_newProcedure procedure)
  intro id _
  have old := settled.bodies id
  simp only [Store.procedure, Store.newProcedure, Array.getD_eq_getD_getElem?, Array.getElem?_push] at old ⊢
  split
  · exact binds
  · exact old

theorem register {name : String} (settled : Settled environment names opened before) (isKnown : name ∈ names)
    (loaded : LoadedModule) : Settled environment names opened (before.register name loaded) where
  rooted := settled.rooted
  shallow := settled.shallow
  calls := settled.calls
  bodies := settled.bodies
  known := by
    intro other importable
    rcases importable_of_register importable with rfl | before
    · exact isKnown
    · exact settled.known other before

/-- The name of a call is open in its body. -/
theorem inBody (settled : Settled environment names opened before) (shallow : before.depth < environment.maxDepth)
    (group : Group) (name : String) :
    Settled environment names (insert name opened) (before.inBody group name) := by
  have hung := (settled.newGroup group).setMember before.root (.group before.size) (Set.subset_insert name opened)
    (.inr (Set.mem_insert name opened))
  exact ⟨hung.rooted, shallow, hung.calls, hung.bodies, hung.known⟩

/-- When a call ends, its name is no longer bound. -/
theorem afterCall {name : String} (settled : Settled environment names (insert name opened) before) (output : String)
    (log : Array LogEntry) : Settled environment names opened (before.afterCall name output log) := by
  have shallow : before.depth - 1 ≤ environment.maxDepth := Nat.le_trans (Nat.sub_le _ _) settled.shallow
  have removed := settled.remove before.root name
  refine ⟨removed.rooted, shallow, ?_, removed.bodies, removed.known⟩
  intro procedure number has
  change ((before.modifyGroup before.root (·.remove name)).group before.root).has _ = true at has
  rcases removed.calls procedure number has with allowed | same | inside
  · exact .inl allowed
  · rw [Workspace.group_modifyGroup _ _ _ _ settled.rooted, if_pos rfl, Group.has_eq, Group.get?_remove,
      if_pos same.symm] at has
    cases has
  · exact .inr inside

end Settled

/-- The guarantee that a workspace is settled and that the depth is as before. -/
def settling (environment : Environment) (names opened : Set String) : Guarantee Workspace :=
  .keepingDepth (Settled environment names opened)

section Watching

variable {environment : Environment} {names opened : Set String}

theorem binding_settling (scope : Scope) : Binding (settling environment names opened) (fun _ => True) names scope where
  toCarries := Guarantee.carries_true _
  consults := by
    rintro before after settled ⟨cache, output, log, rfl, -⟩
    exact ⟨⟨settled.rooted, settled.shallow, settled.calls, settled.bodies, settled.known⟩, rfl⟩
  grows := fun settled => ⟨settled.newGroup {}, rfl, trivial⟩
  searched := fun _ _ _ => trivial
  localGroup := trivial
  sets := fun settled _ bound _ => ⟨settled.setMember _ _ (Set.Subset.refl _) (.inl bound), rfl⟩
  removes := fun name settled _ => ⟨settled.remove _ name, rfl⟩

variable {inner other : Interpreter}
  (surroundings : environment.BindsIn names)
  (executes : ∀ opened {statement} scope, statement.BindsIn names →
    (settling environment names opened).Lockstep .alike (inner.execute statement scope) (other.execute statement scope)
      (Signal.Fits fun _ => True))
  (evaluates : ∀ opened code scope, (settling environment names opened).Lockstep .alike (inner.evaluate code scope)
    (other.evaluate code scope) fun _ => True)

include surroundings executes evaluates

theorem tandem_settling : Tandem (settling environment names opened) names .alike environment inner other where
  mayCut := nofun
  binding := binding_settling
  scopes := fun _ settled => ⟨⟨settled.rooted, settled.shallow, settled.calls, settled.bodies, settled.known⟩, rfl⟩
  supplies := fun settled provided => ⟨settled.extended (Supply.kept _) (surroundings.supplies provided), rfl⟩
  makesGroup := fun group settled => ⟨settled.newGroup group, rfl⟩
  changes := by
    intro state change group settled binds
    refine ⟨settled.modifyGroup group change (Set.Subset.refl _) fun name has => ?_, rfl⟩
    cases had : (state.group group).has name with
    | true => exact .inl rfl
    | false => exact .inr (.inl (binds _ name has had))
  registers := fun loaded settled isKnown => ⟨settled.register isKnown loaded, rfl⟩
  known := fun settled => settled.known _
  makesDefinition := fun _ settled =>
    ⟨⟨settled.rooted, settled.shallow, settled.calls, settled.bodies, settled.known⟩, rfl⟩
  makesProcedure := fun settled binds => ⟨settled.newProcedure binds, rfl⟩
  surroundings := surroundings
  executes := executes opened
  evaluates := evaluates opened
  reads := by
    intro state code scope settled shallow
    have inside : Settled environment names opened { state with depth := state.depth + 1 } :=
      ⟨settled.rooted, shallow, settled.calls, settled.bodies, settled.known⟩
    apply (evaluates opened code scope _ inside).deeper_keepingDepth
    intro after _ settledAfter
    exact ⟨settledAfter.rooted, settled.shallow, settledAfter.calls, settledAfter.bodies, settledAfter.known⟩
  calls := by
    intro state id arguments keywords settled
    generalize named : environment.callName (state.store.procedure id).name state.calls = name
    apply lockstepFrom_callProcedure (settling environment names (insert name opened)) Value.hereditary_true settled named
      rfl
    · intro _ shallow
      apply lockstep_block
      · exact fun statement member => executes _ _ (settled.bodies id statement member)
      · exact settled.inBody shallow _ name
    · intro _ _ after output log settledAfter (same : after.depth = state.depth + 1)
      refine ⟨settledAfter.afterCall output log, ?_⟩
      change after.depth - 1 = state.depth
      omega

omit executes evaluates in
/-- The interpreter that watches the depth runs like the one that does not. -/
theorem lockstep_watched (alarm : Halt) (levels : Nat) (opened : Set String) :
    (∀ {statement : Statement} (scope : Scope), statement.BindsIn names →
      (settling environment names opened).Lockstep .alike
        ((Interpreter.watched environment alarm levels).execute statement scope)
        ((Interpreter.ofLevels environment levels).execute statement scope) (Signal.Fits fun _ => True)) ∧
    ∀ code scope, (settling environment names opened).Lockstep .alike
      ((Interpreter.watched environment alarm levels).evaluate code scope)
      ((Interpreter.ofLevels environment levels).evaluate code scope) fun _ => True := by
  induction levels generalizing opened with
  | zero =>
      constructor
      · intro statement scope _ before _
        exact .cut rfl rfl
      · intro code scope before _
        exact .cut rfl rfl
  | succ levels ih =>
      have tandem : Tandem (settling environment names opened) names .alike environment
          (.watched environment alarm levels) (.ofLevels environment levels) :=
        tandem_settling surroundings (fun opened => (ih opened).1) fun opened => (ih opened).2
      constructor
      · intro statement scope binds before settled
        apply Guarantee.LockstepFrom.of_eq _ (tandem.lockstep_executeWith scope (.inl ⟨rfl, rfl⟩) binds before settled)
        exact if_pos settled.shallow
      · intro code scope before settled
        apply Guarantee.LockstepFrom.of_eq _ (tandem.lockstep_evaluateWith code scope before settled)
        exact if_pos settled.shallow

end Watching

end GroupScript
