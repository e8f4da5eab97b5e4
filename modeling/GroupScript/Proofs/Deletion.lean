import GroupScript.Proofs.ReadAfterWrite

/-!
# Deleting names

Deleting a name first resolves it, to see whether it may be deleted, and then searches for the slot to empty by a search
of its own.  Both come to the same slot: the last one that is asked to resolve the name.  So a deletion that succeeds
empties exactly the slot in which the name is found, and a binding that leads to a protected group outlives every
sequence of deletions.  The name of the root is in no slot, but as long as the root is protected it is not deleted.
-/

namespace GroupScript.Workspace

variable {workspace between after : Workspace} {scope : Scope} {name first child : String} {rest : List String}
  {start value : Value} {slot : Slot} {id : GroupId}

/-! ### The slot that a name is found in -/

/-- The slot that a name is found in: the last one that is asked to resolve it. -/
def resolvedSlot? (workspace : Workspace) (scope : Scope) (name : String) : Option Slot :=
  (workspace.consultedSlots scope (segmentsOf name)).getLast?

/-- A name resolves to a value, and that is bound in the slot that the name is found in. -/
structure FoundIn (workspace : Workspace) (scope : Scope) (name : String) (slot : Slot) (value : Value) : Prop where
  resolved : ∃ last, resolve scope name workspace = .ok value last
  place : workspace.resolvedSlot? scope name = some slot
  bound : workspace.valueAt? slot = some value

theorem FoundIn.unique {other : Slot} {held : Value} (found : workspace.FoundIn scope name slot value)
    (again : workspace.FoundIn scope name other held) : other = slot ∧ held = value := by
  obtain ⟨last, resolved⟩ := found.resolved
  obtain ⟨_, resolvedToo⟩ := again.resolved
  have place := again.place
  rw [found.place] at place
  rw [resolved] at resolvedToo
  cases place
  cases resolvedToo
  exact ⟨rfl, rfl⟩

/-- The last group that is asked for a name is the first one that has it. -/
theorem getLast?_askedSlots {groups : List GroupId}
    (found : groups.findSome? (fun id => (workspace.group id).get? name) = some value) :
    ∃ id, groups.find? (fun id => (workspace.group id).has name) = some id ∧
      (workspace.askedSlots name groups).getLast? = some ⟨id, name⟩ ∧
      workspace.valueAt? ⟨id, name⟩ = some value := by
  induction groups with
  | nil => cases found
  | cons id groups ih =>
      rw [List.findSome?_cons] at found
      cases here : (workspace.group id).get? name with
      | some held =>
          rw [here] at found
          cases found
          have present : (workspace.group id).has name = true := by rw [Group.has_iff_get?, here]; rfl
          refine ⟨id, ?_, ?_, here⟩
          · rw [List.find?_cons, present]
          · rw [askedSlots, present]
            rfl
      | none =>
          rw [here] at found
          have absent : (workspace.group id).has name = false := by rw [Group.has_iff_get?, here]; rfl
          obtain ⟨owner, owns, last, held⟩ := ih found
          refine ⟨owner, ?_, ?_, held⟩
          · rw [List.find?_cons, absent]
            exact owns
          · rw [askedSlots, absent, List.getLast?_cons]
            simp [last]

/-- The last slot that is asked along a path is in the group that the path leads to before its last segment. -/
theorem getLast?_passedSlots (reached : workspace.store.member? start (rest ++ [child]) = some value) :
    ∃ id, workspace.store.member? start rest = some (.group id) ∧
      (workspace.passedSlots start (rest ++ [child])).getLast? = some ⟨id, child⟩ ∧
      workspace.valueAt? ⟨id, child⟩ = some value := by
  induction rest generalizing start with
  | nil =>
      obtain ⟨id, next, rfl, found, reached⟩ := step_of_member? reached
      cases reached
      refine ⟨id, rfl, ?_, found⟩
      rw [List.nil_append, passedSlots, found]
      cases value <;> rfl
  | cons segment rest ih =>
      obtain ⟨id, next, rfl, found, reached⟩ := step_of_member? reached
      obtain ⟨owner, leads, last, held⟩ := ih reached
      refine ⟨owner, ?_, ?_, held⟩
      · rw [member?_group_cons, found]
        exact leads
      · rw [List.cons_append, passedSlots, found, List.getLast?_cons]
        simp [last]

/-! ### The slot to empty -/

theorem owner_of_find? (single : segmentsOf name = [name])
    (owns : (workspace.refresh scope).cache.groups.find? (fun id => (workspace.group id).has name) = some id) :
    owner scope name workspace = .ok ⟨id, name⟩ (workspace.refresh scope) := by
  have same (id : GroupId) : (workspace.refresh scope).group id = workspace.group id := by
    rw [group, refresh_store]
    rfl
  have searched : searchGroups scope workspace =
      .ok (workspace.refresh scope).cache.groups (workspace.refresh scope) := rfl
  simp only [owner, single, List.dropLast_singleton]
  rw [bind_apply, searched]
  simp only [get_bind_apply, same, owns]
  rfl

theorem owner_of_parents (segments : segmentsOf name = first :: rest ++ [child])
    (leads : resolve scope (Text.joinStrings "." (first :: rest)) workspace = .ok (.group id) after) :
    owner scope name workspace = .ok ⟨id, child⟩ after := by
  have parent : resolveGroup scope (Text.joinStrings "." (first :: rest)) workspace = .ok id after := by
    rw [resolveGroup, bind_apply, leads]
    rfl
  simp only [owner, segments, List.dropLast_concat, List.getLastD_concat]
  rw [bind_apply, parent]
  rfl

theorem firstValue?_lookedUp (workspace : Workspace) (scope : Scope) (name : String) :
    (workspace.lookedUp scope name).firstValue? scope name = workspace.firstValue? scope name := by
  have again := lookupFirst_again (lookupFirst_eq scope name workspace)
  rw [lookupFirst_eq] at again
  simp only [EStateM.Result.ok.injEq] at again
  exact again.1

theorem lookedUp_lookedUp (workspace : Workspace) (scope : Scope) (name : String) :
    (workspace.lookedUp scope name).lookedUp scope name = workspace.lookedUp scope name :=
  lookedUp_again workspace scope name (workspace.lookedUp scope name).store

/-- What a name leads to, unless it is the name of the root, is found in the slot that owns the name. -/
theorem exists_foundIn (resolved : resolve scope name workspace = .ok value after) (notRoot : name ≠ rootName) :
    ∃ slot, workspace.FoundIn scope name slot value ∧ owner scope name after = .ok slot after := by
  obtain ⟨-, single⟩ | ⟨-, first, rest, child, segments⟩ := segmentsOf_cases name
  · obtain ⟨found, rfl⟩ := (resolve_eq_ok_iff single).mp resolved
    obtain ⟨start, looked, reached⟩ := Option.bind_eq_some_iff.mp found
    cases reached
    have searched := looked
    rw [firstValue?, if_neg notRoot] at searched
    obtain ⟨id, owns, last, held⟩ := getLast?_askedSlots searched
    refine ⟨⟨id, name⟩, ⟨⟨_, resolved⟩, ?_, held⟩, ?_⟩
    · have path : workspace.passedSlots value [] = [] := by cases value <;> rfl
      rw [resolvedSlot?, single, consultedSlots, looked, Option.elim_some, path, List.append_nil, searchedSlots,
        if_neg notRoot, last]
    · have again := @owner_of_find? (workspace.refresh scope) scope name id single
      rw [refresh_refresh] at again
      rw [lookedUp, if_neg notRoot]
      apply again
      simpa only [group, refresh_store] using owns
  · obtain ⟨found, rfl⟩ := (resolve_eq_ok_iff segments).mp resolved
    obtain ⟨start, looked, reached⟩ := Option.bind_eq_some_iff.mp found
    obtain ⟨id, leads, last, held⟩ := getLast?_passedSlots reached
    refine ⟨⟨id, child⟩, ⟨⟨_, resolved⟩, ?_, held⟩, ?_⟩
    · rw [resolvedSlot?, segments, List.cons_append, consultedSlots, looked, Option.elim_some, List.getLast?_append,
        last]
      rfl
    · apply owner_of_parents segments
      rw [resolve_eq_ok_iff (segmentsOf_joinStrings segments), firstValue?_lookedUp, store_lookedUp, looked,
        lookedUp_lookedUp]
      exact ⟨leads, rfl⟩

/-! ### What a deletion does -/

/-- No group was changed and nothing was written.  Only the search path that the workspace keeps may be another one, and
warnings about it may have been logged. -/
def Unchanged (before after : Workspace) : Prop :=
  ∃ cache log, after = { before with cache, log }

/-- A slot was emptied, and nothing else has changed. -/
structure RemovesOnly (before : Workspace) (slot : Slot) (after : Workspace) : Prop where
  removed : after.valueAt? slot = none
  kept : ∀ other ≠ slot, after.valueAt? other = before.valueAt? other ∧
    after.isConstantAt other = before.isConstantAt other
  guarded : ∀ id, (after.group id).isProtected = (before.group id).isProtected
  others : ∃ groups cache log,
    after = { before with store := { before.store with groups }, cache, log } ∧ groups.size = before.store.groups.size

/-- The refusal to delete a protected group was logged and written, and nothing else has changed. -/
def Refuses (before : Workspace) (name : String) (after : Workspace) : Prop :=
  ∃ (cache : SearchCache) (log : Array LogEntry), after = { before with
    cache
    log := log.push ⟨.warning, "refused to delete protected group " ++ name⟩
    output := before.output ++ ("cannot delete group '" ++ name ++ "'\n") }

theorem unchanged_lookedUp (workspace : Workspace) (scope : Scope) (name : String) :
    Unchanged workspace (workspace.lookedUp scope name) := by
  rw [lookedUp]
  split
  · exact ⟨workspace.cache, workspace.log, rfl⟩
  · rw [refresh]
    split
    · exact ⟨workspace.cache, workspace.log, rfl⟩
    · exact ⟨_, _, rfl⟩

theorem Unchanged.group_eq (unchanged : Unchanged workspace after) (id : GroupId) : after.group id = workspace.group id := by
  obtain ⟨cache, log, rfl⟩ := unchanged
  rfl

theorem Unchanged.removesOnly (unchanged : Unchanged workspace between) (bound : workspace.valueAt? slot = some value) :
    RemovesOnly workspace slot (between.modifyGroup slot.group (·.remove slot.name)) := by
  obtain ⟨cache, log, rfl⟩ := unchanged
  have present : slot.group < workspace.size := lt_size_of_valueAt? bound
  have changed (id : GroupId) : ({ workspace with cache, log }.modifyGroup slot.group (·.remove slot.name)).group id =
      if slot.group = id then (workspace.group id).remove slot.name else workspace.group id :=
    group_modifyGroup workspace slot.group id (·.remove slot.name) present
  refine ⟨?_, ?_, ?_, _, cache, log, rfl, ?_⟩
  · rw [valueAt?, changed, if_pos rfl, Group.get?_remove, if_pos rfl]
  · rintro ⟨id, other⟩ different
    rw [valueAt?, isConstantAt, changed]
    split
    · rename_i same
      change slot.group = id at same
      have apart : slot.name ≠ other := by
        rintro rfl
        subst same
        exact different rfl
      rw [Group.get?_remove, if_neg apart, Group.isConstant_remove]
      exact ⟨rfl, by simp [apart, isConstantAt]⟩
    · exact ⟨rfl, rfl⟩
  · intro id
    rw [changed]
    split <;> rfl
  · exact size_modifyGroup workspace slot.group _

/-- A name without protection against deletion: it is found in a slot that holds neither a group nor a constant. -/
structure Erasable (workspace : Workspace) (scope : Scope) (name : String) (slot : Slot) : Prop where
  found : ∃ value, workspace.FoundIn scope name slot value ∧ groupOf? value = none
  free : workspace.isConstantAt slot = false

theorem lookedUp_of_resolve_error {error : Error} (segments : segmentsOf name = first :: rest)
    (failed : resolve scope name workspace = .error error after) : after = workspace.lookedUp scope first := by
  cases reached : (workspace.firstValue? scope first).bind (workspace.store.member? · rest) with
  | none =>
      rw [resolve_eq_error segments reached] at failed
      cases failed
      rfl
  | some value =>
      rw [(resolve_eq_ok_iff segments).mpr ⟨reached, rfl⟩] at failed
      cases failed

theorem eq_root_of_resolve (resolved : resolve scope rootName workspace = .ok value after) :
    value = .group workspace.root := by
  have root : resolve scope rootName workspace = .ok (.group workspace.root) workspace := rfl
  rw [root] at resolved
  cases resolved
  rfl

theorem delete_of_value (resolved : resolve scope name workspace = .ok value between) (leads : groupOf? value = none) :
    delete scope name workspace = (do
      let slot ← owner scope name
      if ((← get).group slot.group).isConstant slot.name then throw (.invalidTarget (.constantDeleted name))
      modify (·.modifyGroup slot.group (·.remove slot.name)) : Access Unit) between := by
  rw [delete, bind_apply, resolved]
  cases value with
  | group id => cases leads
  | _ => rfl

/-- A name is deleted exactly if it may be, and otherwise nothing happens. -/
theorem delete_cases (workspace : Workspace) (scope : Scope) (name : String) :
    (∃ slot after, workspace.Erasable scope name slot ∧ delete scope name workspace = .ok () after ∧
        RemovesOnly workspace slot after) ∨
      ((∀ slot, ¬workspace.Erasable scope name slot) ∧
        ∃ error after, delete scope name workspace = .error error after ∧ Unchanged workspace after) := by
  obtain ⟨first, path, segments⟩ := exists_segments name
  have unchanged := unchanged_lookedUp workspace scope first
  cases resolved : resolve scope name workspace with
  | error error after =>
      obtain rfl := lookedUp_of_resolve_error segments resolved
      refine .inr ⟨?_, error, _, by rw [delete, bind_apply, resolved], unchanged⟩
      rintro slot ⟨⟨value, ⟨⟨last, found⟩, -, -⟩, -⟩, -⟩
      rw [resolved] at found
      cases found
  | ok value after =>
      obtain ⟨-, rfl⟩ := (resolve_eq_ok_iff segments).mp resolved
      cases leads : groupOf? value with
      | some id =>
          obtain rfl : value = .group id := eq_group_of_groupOf? leads
          refine .inr ⟨?_, .invalidTarget (.groupDeleted name), _, by rw [delete, bind_apply, resolved]; rfl, unchanged⟩
          rintro slot ⟨⟨value, ⟨⟨last, found⟩, -, -⟩, none⟩, -⟩
          rw [resolved] at found
          cases found
          cases none
      | none =>
          have notRoot : name ≠ rootName := by
            rintro rfl
            rw [eq_root_of_resolve resolved] at leads
            cases leads
          obtain ⟨slot, found, owned⟩ := exists_foundIn resolved notRoot
          have deletes := delete_of_value resolved leads
          rw [bind_apply, owned] at deletes
          simp only [get_bind_apply, unchanged.group_eq] at deletes
          by_cases constant : (workspace.group slot.group).isConstant slot.name = true
          · rw [if_pos constant] at deletes
            refine .inr ⟨?_, _, _, deletes, unchanged⟩
            rintro other ⟨⟨held, again, -⟩, free⟩
            rw [(found.unique again).1, isConstantAt, constant] at free
            cases free
          · rw [if_neg constant] at deletes
            refine .inl ⟨slot, _, ⟨⟨value, found, leads⟩, ?_⟩, deletes, unchanged.removesOnly found.bound⟩
            exact Bool.eq_false_iff.mpr constant

theorem deleteGroup_of_group (resolved : resolve scope name workspace = .ok (.group id) between) :
    deleteGroup scope name workspace = (do
      if ((← get).group id).isProtected then
        modify fun workspace => (workspace.warn ("refused to delete protected group " ++ name)).write
          ("cannot delete group '" ++ name ++ "'\n")
      else do
        let slot ← owner scope name
        modify (·.modifyGroup slot.group (·.remove slot.name)) : Access Unit) between := by
  have group : resolveGroup scope name workspace = .ok id between := by
    rw [resolveGroup, bind_apply, resolved]
    rfl
  rw [deleteGroup, bind_apply, group]

/-- A name of a group is deleted if the group is not protected; the deletion of a protected group is refused. -/
theorem deleteGroup_cases (guarded : (workspace.group workspace.root).isProtected = true) (scope : Scope)
    (name : String) :
    (∃ slot id after, workspace.FoundIn scope name slot (.group id) ∧ (workspace.group id).isProtected = false ∧
        deleteGroup scope name workspace = .ok () after ∧ RemovesOnly workspace slot after) ∨
      (∃ id last after, resolve scope name workspace = .ok (.group id) last ∧ (workspace.group id).isProtected = true ∧
        deleteGroup scope name workspace = .ok () after ∧ Refuses workspace name after) ∨
      ((∀ id last, resolve scope name workspace ≠ .ok (.group id) last) ∧
        ∃ error after, deleteGroup scope name workspace = .error error after ∧ Unchanged workspace after) := by
  obtain ⟨first, path, segments⟩ := exists_segments name
  have unchanged := unchanged_lookedUp workspace scope first
  cases resolved : resolve scope name workspace with
  | error error after =>
      obtain rfl := lookedUp_of_resolve_error segments resolved
      refine .inr (.inr ⟨fun id last => by simp, error, _, ?_, unchanged⟩)
      rw [deleteGroup, bind_apply, resolveGroup, bind_apply, resolved]
  | ok value after =>
      obtain ⟨-, rfl⟩ := (resolve_eq_ok_iff segments).mp resolved
      cases leads : groupOf? value with
      | none =>
          refine .inr (.inr ⟨?_, .invalidTarget (.notGroup name value.kind), _, ?_, unchanged⟩)
          · rintro id last found
            cases found
            cases leads
          · rw [deleteGroup, bind_apply, resolveGroup, bind_apply, resolved]
            cases value with
            | group id => cases leads
            | _ => rfl
      | some id =>
          obtain rfl : value = .group id := eq_group_of_groupOf? leads
          have deletes := deleteGroup_of_group resolved
          rw [get_bind_apply, unchanged.group_eq] at deletes
          cases shielded : (workspace.group id).isProtected with
          | true =>
              rw [shielded, if_pos rfl] at deletes
              refine .inr (.inl ⟨id, _, _, rfl, shielded, deletes, ?_⟩)
              obtain ⟨cache, log, same⟩ := unchanged
              rw [same]
              exact ⟨cache, log, rfl⟩
          | false =>
              have notRoot : name ≠ rootName := by
                rintro rfl
                cases eq_root_of_resolve resolved
                rw [guarded] at shielded
                cases shielded
              obtain ⟨slot, found, owned⟩ := exists_foundIn resolved notRoot
              rw [shielded, if_neg Bool.false_ne_true, bind_apply, owned] at deletes
              exact .inl ⟨slot, id, _, found, shielded, deletes, unchanged.removesOnly found.bound⟩

/-! ### Sequences of deletions -/

/-- A deletion of a name from a scope. -/
inductive Deletion
  | member (scope : Scope) (name : String)
  | group (scope : Scope) (name : String)

def Deletion.access : Deletion → Access Unit
  | .member scope name => delete scope name
  | .group scope name => deleteGroup scope name

/-- The workspace after a deletion, whether it succeeded or failed. -/
def Deletion.apply (workspace : Workspace) (deletion : Deletion) : Workspace :=
  match deletion.access workspace with
  | .ok _ after => after
  | .error _ after => after

/-- Every slot that leads to a protected group still does. -/
structure Spares (before after : Workspace) : Prop where
  root : after.root = before.root
  guarded : ∀ id, (after.group id).isProtected = (before.group id).isProtected
  kept : ∀ slot id, before.valueAt? slot = some (.group id) → (before.group id).isProtected = true →
    after.valueAt? slot = some (.group id)

namespace Spares

theorem of_store (root : after.root = workspace.root) (store : after.store = workspace.store) :
    Spares workspace after := by
  have same (id : GroupId) : after.group id = workspace.group id := by
    rw [group, store]
    rfl
  refine ⟨root, fun id => by rw [same], fun slot id found _ => ?_⟩
  rwa [valueAt?, same]

theorem of_unchanged (unchanged : Unchanged workspace after) : Spares workspace after := by
  obtain ⟨cache, log, rfl⟩ := unchanged
  exact of_store rfl rfl

theorem of_refuses (refuses : Refuses workspace name after) : Spares workspace after := by
  obtain ⟨cache, log, rfl⟩ := refuses
  exact of_store rfl rfl

/-- A slot may be emptied if it does not lead to a protected group. -/
theorem of_removesOnly (removes : RemovesOnly workspace slot after) (bound : workspace.valueAt? slot = some value)
    (open' : ∀ id, value = .group id → (workspace.group id).isProtected = false) : Spares workspace after := by
  refine ⟨?_, removes.guarded, fun other id found shielded => ?_⟩
  · obtain ⟨groups, cache, log, rfl, -⟩ := removes.others
    rfl
  · rw [(removes.kept other _).1, found]
    rintro rfl
    rw [bound, Option.some.injEq] at found
    rw [open' id found] at shielded
    cases shielded

theorem trans {first second third : Workspace} (earlier : Spares first second) (later : Spares second third) :
    Spares first third where
  root := later.root.trans earlier.root
  guarded := fun id => (later.guarded id).trans (earlier.guarded id)
  kept := fun slot id found shielded =>
    later.kept slot id (earlier.kept slot id found shielded) ((earlier.guarded id).trans shielded)

end Spares

theorem spares_apply (guarded : (workspace.group workspace.root).isProtected = true) (deletion : Deletion) :
    Spares workspace (deletion.apply workspace) := by
  cases deletion with
  | member scope name =>
      rcases delete_cases workspace scope name with
        ⟨slot, after, ⟨⟨value, found, leads⟩, -⟩, ended, removes⟩ | ⟨-, error, after, ended, unchanged⟩
      · rw [Deletion.apply, Deletion.access, ended]
        refine .of_removesOnly removes found.bound ?_
        rintro id rfl
        cases leads
      · rw [Deletion.apply, Deletion.access, ended]
        exact .of_unchanged unchanged
  | group scope name =>
      rcases deleteGroup_cases guarded scope name with
        ⟨slot, id, after, found, unshielded, ended, removes⟩ | ⟨id, last, after, -, -, ended, refuses⟩ |
          ⟨-, error, after, ended, unchanged⟩
      · rw [Deletion.apply, Deletion.access, ended]
        refine .of_removesOnly removes found.bound ?_
        rintro other ⟨⟩
        exact unshielded
      · rw [Deletion.apply, Deletion.access, ended]
        exact .of_refuses refuses
      · rw [Deletion.apply, Deletion.access, ended]
        exact .of_unchanged unchanged

/-- The root stays protected along the way. -/
theorem spares_foldl (guarded : (workspace.group workspace.root).isProtected = true) (deletions : List Deletion) :
    Spares workspace (deletions.foldl Deletion.apply workspace) := by
  induction deletions generalizing workspace with
  | nil => exact .of_store rfl rfl
  | cons deletion deletions ih =>
      have spares := spares_apply guarded deletion
      refine spares.trans (ih ?_)
      rw [spares.root, spares.guarded, guarded]

/-- As long as the root is protected, deletion follows resolution.  A member is deleted exactly if the name resolves to
something that is neither a group nor a constant, and a group exactly if the name resolves to a group without protection;
emptied is the slot in which the name is found, and no other.  The deletion of a protected group is refused and reported,
and any other deletion fails and changes nothing.  A slot that leads to a protected group outlives every sequence of
deletions. -/
theorem deletion_follows_resolution (guarded : (workspace.group workspace.root).isProtected = true) :
    (∀ scope name,
      (∃ slot after, workspace.Erasable scope name slot ∧ delete scope name workspace = .ok () after ∧
          RemovesOnly workspace slot after) ∨
        ((∀ slot, ¬workspace.Erasable scope name slot) ∧
          ∃ error after, delete scope name workspace = .error error after ∧ Unchanged workspace after)) ∧
    (∀ scope name,
      (∃ slot id after, workspace.FoundIn scope name slot (.group id) ∧ (workspace.group id).isProtected = false ∧
          deleteGroup scope name workspace = .ok () after ∧ RemovesOnly workspace slot after) ∨
        (∃ id last after, resolve scope name workspace = .ok (.group id) last ∧
          (workspace.group id).isProtected = true ∧ deleteGroup scope name workspace = .ok () after ∧
          Refuses workspace name after) ∨
        ((∀ id last, resolve scope name workspace ≠ .ok (.group id) last) ∧
          ∃ error after, deleteGroup scope name workspace = .error error after ∧ Unchanged workspace after)) ∧
    ∀ (deletions : List Deletion) slot id, workspace.valueAt? slot = some (.group id) →
      (workspace.group id).isProtected = true →
      (deletions.foldl Deletion.apply workspace).valueAt? slot = some (.group id) :=
  ⟨fun scope name => delete_cases workspace scope name, fun scope name => deleteGroup_cases guarded scope name,
    fun deletions slot id => (spares_foldl guarded deletions).kept slot id⟩

/-- A workspace in which the local group of a scope, which is a member of the root, shadows a name of the root. -/
def shadowingWorkspace : Workspace :=
  (sharedWorkspace.setMember 0 "n" (.int 1)).setMember 4 "n" (.int 2)

/-- There the nearer of two bindings is deleted, through a dotted name the one that it leads to, and whatever is deleted,
the group of the builtin functions stays. -/
theorem deletion_follows_resolution_shadowed :
    (shadowingWorkspace.group shadowingWorkspace.root).isProtected = true ∧
    (∃ after, delete ⟨1, 4, 0⟩ "n" shadowingWorkspace = .ok () after ∧
      RemovesOnly shadowingWorkspace ⟨4, "n"⟩ after) ∧
    (∃ after, delete ⟨1, 4, 0⟩ "_main.n" shadowingWorkspace = .ok () after ∧
      RemovesOnly shadowingWorkspace ⟨0, "n"⟩ after) ∧
    ([.group ⟨1, 4, 0⟩ "_builtin", .group ⟨1, 4, 0⟩ "a", .group ⟨1, 4, 0⟩ "_main", .member ⟨1, 4, 0⟩ "_main._builtin"].foldl
      Deletion.apply shadowingWorkspace).valueAt? ⟨0, "_builtin"⟩ = some (.group 2) := by
  have guarded : (shadowingWorkspace.group shadowingWorkspace.root).isProtected = true := by decide
  obtain ⟨members, -, sequences⟩ := deletion_follows_resolution guarded
  have deletes (name : String) (owner : Slot) (place : shadowingWorkspace.resolvedSlot? ⟨1, 4, 0⟩ name = some owner)
      (success : ∃ after, delete ⟨1, 4, 0⟩ name shadowingWorkspace = .ok () after) :
      ∃ after, delete ⟨1, 4, 0⟩ name shadowingWorkspace = .ok () after ∧
        RemovesOnly shadowingWorkspace owner after := by
    rcases members ⟨1, 4, 0⟩ name with ⟨slot, after, erasable, ended, removes⟩ | ⟨-, error, after, failed, -⟩
    · obtain ⟨⟨value, found, -⟩, -⟩ := erasable
      rw [found.place, Option.some.injEq] at place
      exact ⟨after, ended, place ▸ removes⟩
    · obtain ⟨last, ended⟩ := success
      rw [failed] at ended
      cases ended
  refine ⟨guarded, deletes "n" _ (by decide) ⟨_, rfl⟩, deletes "_main.n" _ (by decide) ⟨_, rfl⟩, ?_⟩
  exact sequences _ ⟨0, "_builtin"⟩ 2 rfl (by decide)

end GroupScript.Workspace
