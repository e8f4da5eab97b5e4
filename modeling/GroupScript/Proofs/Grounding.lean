import GroupScript.Proofs.Realm
import GroupScript.Proofs.Reachability

/-!
# Groups that exist

Groups are referred to by number: by the scopes given out, the registered modules, the kept search path and the members
of other groups.  Operations that are given groups that exist keep all these numbers valid, so that whatever is searched
or walked along exists.
-/

namespace GroupScript

namespace Workspace

variable {workspace : Workspace} {scopes : Set Scope} {scope : Scope} {id : GroupId}

/-- Every group that a workspace or one of its scopes refers to exists. -/
structure Grounded (scopes : Set Scope) (workspace : Workspace) : Prop where
  root : workspace.root < workspace.size
  scopes : ∀ scope ∈ scopes, scope.localGroup < workspace.size ∧ scope.moduleGroup < workspace.size
  modules : ∀ name id, workspace.moduleGroup? name = some id → id < workspace.size
  cached : ∀ id ∈ workspace.cache.groups, id < workspace.size
  members : ∀ slot id, workspace.valueAt? slot = some (.group id) → id < workspace.size

theorem lt_size_of_valueAt? {slot : Slot} {value : Value} (found : workspace.valueAt? slot = some value) :
    slot.group < workspace.size := by
  by_contra absent
  rw [valueAt?, group_of_size_le (Nat.le_of_not_lt absent)] at found
  cases found

namespace Grounded

variable (grounded : Grounded scopes workspace)

include grounded

/-- Groups were made, and members were changed but refer to groups that exist. -/
theorem change {store : Store} (grows : workspace.size ≤ store.groups.size)
    (members : ∀ slot id, { workspace with store }.valueAt? slot = some (.group id) → id < store.groups.size) :
    Grounded scopes { workspace with store } where
  root := Nat.lt_of_lt_of_le grounded.root grows
  scopes := by
    intro scope member
    obtain ⟨localExists, moduleExists⟩ := grounded.scopes scope member
    exact ⟨Nat.lt_of_lt_of_le localExists grows, Nat.lt_of_lt_of_le moduleExists grows⟩
  modules := fun name id registered => Nat.lt_of_lt_of_le (grounded.modules name id registered) grows
  cached := fun id kept => Nat.lt_of_lt_of_le (grounded.cached id kept) grows
  members := members

theorem newGroup (isProtected : Bool) : Grounded scopes (workspace.newGroup { isProtected }).2 := by
  refine grounded.change (workspace.size_le_newGroup _) fun slot id found => ?_
  change (((workspace.newGroup { isProtected }).2.group slot.group).get? slot.name) = _ at found
  rw [group_newGroup] at found
  split at found
  · cases found
  · exact Nat.lt_of_lt_of_le (grounded.members slot id found) (workspace.size_le_newGroup _)

theorem modifyGroup (change : Group → Group)
    (members : ∀ name next, (change (workspace.group id)).get? name = some (.group next) → next < workspace.size) :
    Grounded scopes (workspace.modifyGroup id change) := by
  have size := size_modifyGroup workspace id change
  refine grounded.change size.ge fun slot next found => Nat.lt_of_lt_of_le ?_ size.ge
  by_cases exists' : id < workspace.size
  · change (((workspace.modifyGroup id change).group slot.group).get? slot.name) = _ at found
    rw [group_modifyGroup workspace id slot.group change exists'] at found
    split at found
    · rename_i same
      rw [← same] at found
      exact members slot.name next found
    · exact grounded.members slot next found
  · change (((workspace.modifyGroup id change).group slot.group).get? slot.name) = _ at found
    rw [modifyGroup_of_size_le change (Nat.le_of_not_lt exists')] at found
    exact grounded.members slot next found

theorem newScope {localGroup moduleGroup : GroupId} (localExists : localGroup < workspace.size)
    (moduleExists : moduleGroup < workspace.size) :
    Grounded (insert (workspace.newScope localGroup moduleGroup).1 scopes)
      (workspace.newScope localGroup moduleGroup).2 where
  root := grounded.root
  scopes := by
    rintro scope (rfl | member)
    · exact ⟨localExists, moduleExists⟩
    · exact grounded.scopes scope member
  modules := grounded.modules
  cached := grounded.cached
  members := grounded.members

theorem register {loaded : LoadedModule} (name : String) (exists' : loaded.group < workspace.size) :
    Grounded scopes (workspace.register name loaded) where
  root := grounded.root
  scopes := grounded.scopes
  modules := by
    intro other id registered
    rw [moduleGroup?, Workspace.register, Dictionary.get?_put] at registered
    split at registered
    · cases registered
      exact exists'
    · exact grounded.modules other id registered
  cached := grounded.cached
  members := grounded.members

theorem lt_size_of_searchGroup? {name : String} (stands : workspace.searchGroup? name = some id) :
    id < workspace.size := by
  unfold searchGroup? at stands
  split at stands
  · rename_i found registered
    cases stands
    exact grounded.modules name id registered
  · obtain ⟨entry, -, held⟩ := List.exists_of_findSome?_eq_some stands
    obtain ⟨value, found, leads⟩ := Option.bind_eq_some_iff.mp held
    cases value with
    | group next =>
        cases leads
        exact grounded.members ⟨entry.2.group, name⟩ id found
    | _ => cases leads

theorem lt_size_of_searchPath (member : scope ∈ scopes) : ∀ id ∈ workspace.searchPath scope, id < workspace.size := by
  intro id searched
  rw [searchPath, mem_distinct] at searched
  simp only [List.mem_append, List.mem_cons, List.not_mem_nil, or_false, List.mem_filterMap] at searched
  rcases searched with ((rfl | rfl) | ⟨name, -, stands⟩) | rfl
  · exact (grounded.scopes scope member).1
  · exact (grounded.scopes scope member).2
  · exact grounded.lt_size_of_searchGroup? stands
  · exact grounded.root

theorem consulted {after : Workspace} (member : scope ∈ scopes) (consulted : Consulted scope workspace after) :
    Grounded scopes after := by
  have searched := grounded.lt_size_of_searchPath member
  obtain ⟨cache, output, log, rfl, source⟩ := consulted
  refine ⟨grounded.root, grounded.scopes, grounded.modules, ?_, grounded.members⟩
  rcases source with rfl | rfl
  · exact grounded.cached
  · exact searched

/-- Whatever is searched from a scope exists. -/
theorem searched (member : scope ∈ scopes) : ∀ id ∈ (workspace.refresh scope).cache.groups, id < workspace.size := by
  intro id kept
  have exists' := (grounded.consulted member (consulted_refresh scope workspace)).cached id kept
  rwa [size, refresh_store] at exists'

end Grounded

/-- That members refer to groups that exist can be checked. -/
theorem lt_size_of_all
    (checked : (workspace.store.groups.toList.all fun group => group.members.entries.all fun entry =>
      (groupOf? entry.2.value).all fun id => decide (id < workspace.size)) = true)
    (slot : Slot) (id : GroupId) (found : workspace.valueAt? slot = some (.group id)) : id < workspace.size := by
  have exists' : slot.group < workspace.store.groups.size := lt_size_of_valueAt? found
  obtain ⟨member, kept, value⟩ := Option.map_eq_some_iff.mp found
  have entry := Dictionary.mem_of_find kept
  rw [group, Store.group, Array.getD_eq_getD_getElem?, Array.getElem?_eq_getElem exists'] at entry
  have inside := List.all_eq_true.mp checked _ (Array.getElem_mem_toList exists')
  have leads := List.all_eq_true.mp inside _ entry
  rw [value] at leads
  exact of_decide_eq_true leads

theorem grounded_empty : Grounded ∅ Workspace.empty where
  root := by decide
  scopes := fun _ member => by cases member
  modules := by
    intro name id registered
    obtain ⟨loaded, kept, rfl⟩ := Option.map_eq_some_iff.mp registered
    have all : ∀ entry ∈ Workspace.empty.modules.entries, entry.2.group < Workspace.empty.size := by decide
    exact all _ (Dictionary.mem_of_find kept)
  cached := by decide
  members := lt_size_of_all (by decide)

/-- The workspaces made by operations on groups that exist, with the scopes given out on the way. -/
inductive Tabled : Set Scope → Workspace → Prop
  | start : Tabled ∅ .empty
  | make {scopes : Set Scope} {workspace : Workspace} (isProtected : Bool) :
      Tabled scopes workspace → Tabled scopes (workspace.newGroup { isProtected }).2
  | change {scopes : Set Scope} {workspace : Workspace} {id : GroupId} (change : Group → Group) :
      Tabled scopes workspace →
      (∀ name next, (change (workspace.group id)).get? name = some (.group next) → next < workspace.size) →
      Tabled scopes (workspace.modifyGroup id change)
  | scope {scopes : Set Scope} {workspace : Workspace} {localGroup moduleGroup : GroupId} :
      Tabled scopes workspace → localGroup < workspace.size → moduleGroup < workspace.size →
      Tabled (insert (workspace.newScope localGroup moduleGroup).1 scopes) (workspace.newScope localGroup moduleGroup).2
  | register {scopes : Set Scope} {workspace : Workspace} (name : String) {loaded : LoadedModule} :
      Tabled scopes workspace → loaded.group < workspace.size → Tabled scopes (workspace.register name loaded)
  | search {scopes : Set Scope} {workspace : Workspace} (names : List String) :
      Tabled scopes workspace → Tabled scopes (workspace.setSearchNames names)
  | consult {scopes : Set Scope} {workspace after : Workspace} {scope : Scope} :
      Tabled scopes workspace → scope ∈ scopes → workspace.Consulted scope after → Tabled scopes after

theorem Tabled.grounded (tabled : Tabled scopes workspace) : Grounded scopes workspace := by
  induction tabled with
  | start => exact grounded_empty
  | make isProtected _ ih => exact ih.newGroup isProtected
  | change change _ members ih => exact ih.modifyGroup change members
  | scope _ localExists moduleExists ih => exact ih.newScope localExists moduleExists
  | register name _ exists' ih => exact ih.register name exists'
  | search names _ ih => exact ⟨ih.root, ih.scopes, ih.modules, ih.cached, ih.members⟩
  | consult _ member consulted ih => exact ih.consulted member consulted

theorem Tabled.reachable (environment : Environment) (tabled : Tabled scopes workspace) :
    Reachable environment scopes workspace := by
  induction tabled with
  | start => exact .start
  | make isProtected _ ih => exact .mutate _ ih (size_le_newGroup _ _)
  | change change _ _ ih => exact .mutate _ ih (size_modifyGroup _ _ change).ge
  | scope _ _ _ ih => exact .scope _ _ ih
  | register name _ _ ih => exact .register name _ ih
  | search names _ ih => exact .search names ih
  | consult _ member consulted ih => exact .consult ih member consulted

end Workspace

end GroupScript
