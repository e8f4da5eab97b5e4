import GroupScript.Proofs.Consulting
import GroupScript.Proofs.GroupChange

/-!
# Coherence of the kept search path

The search path that a workspace keeps is marked with a version and a scope.  While the version is the current one, the
search path is what that scope searches, up to changes inside the groups: such changes do not touch the version.  This
is an invariant of everything that a workspace goes through, provided that the scopes in use were given out by the
workspace.
-/

namespace GroupScript.Workspace

/-- The kept search path is one of the given scopes, which the workspace has given out, unless its version is old. -/
structure Coherent (scopes : Set Scope) (workspace : Workspace) : Prop where
  given : ∀ scope ∈ scopes, scope.id < workspace.nextScope
  apart : ∀ first ∈ scopes, ∀ second ∈ scopes, first.id = second.id → first = second
  cacheGiven : workspace.cache.scope < workspace.nextScope
  cacheOld : workspace.cache.version ≤ workspace.version
  cached : workspace.cache.version = workspace.version → ∀ scope ∈ scopes, scope.id = workspace.cache.scope →
    ∃ store, workspace.cache.groups = { workspace with store }.searchPath scope

namespace Coherent

variable {scopes : Set Scope} {workspace after : Workspace} {scope : Scope}

theorem subset {fewer : Set Scope} (coherent : Coherent scopes workspace) (inside : fewer ⊆ scopes) :
    Coherent fewer workspace where
  given := fun scope member => coherent.given scope (inside member)
  apart := fun first memberFirst second memberSecond =>
    coherent.apart first (inside memberFirst) second (inside memberSecond)
  cacheGiven := coherent.cacheGiven
  cacheOld := coherent.cacheOld
  cached := fun current scope member => coherent.cached current scope (inside member)

/-- The contents of groups and what is beside the search leave the kept search path as good as it was. -/
theorem aside (coherent : Coherent scopes workspace) (store : Store) (path : List String)
    (extension output : String) (log : Array LogEntry) (calls depth : Nat) :
    Coherent scopes { workspace with store, path, extension, output, log, calls, depth } where
  given := coherent.given
  apart := coherent.apart
  cacheGiven := coherent.cacheGiven
  cacheOld := coherent.cacheOld
  cached := coherent.cached

theorem consulted (coherent : Coherent scopes workspace) (member : scope ∈ scopes)
    (consulted : Consulted scope workspace after) : Coherent scopes after := by
  obtain ⟨cache, output, log, rfl, rfl | rfl⟩ := consulted
  · exact coherent.aside workspace.store workspace.path workspace.extension output log workspace.calls
      workspace.depth
  · refine ⟨coherent.given, coherent.apart, coherent.given scope member, Nat.le_refl _, ?_⟩
    intro _ other memberOther same
    rw [coherent.apart other memberOther scope member same]
    exact ⟨workspace.store, rfl⟩

theorem register (coherent : Coherent scopes workspace) (name : String) (loaded : LoadedModule) :
    Coherent scopes (workspace.register name loaded) where
  given := coherent.given
  apart := coherent.apart
  cacheGiven := coherent.cacheGiven
  cacheOld := Nat.le_succ_of_le coherent.cacheOld
  cached := fun current => absurd current (Nat.ne_of_lt (Nat.lt_succ_of_le coherent.cacheOld))

theorem setSearchNames (coherent : Coherent scopes workspace) (names : List String) :
    Coherent scopes (workspace.setSearchNames names) where
  given := coherent.given
  apart := coherent.apart
  cacheGiven := coherent.cacheGiven
  cacheOld := Nat.le_succ_of_le coherent.cacheOld
  cached := fun current => absurd current (Nat.ne_of_lt (Nat.lt_succ_of_le coherent.cacheOld))

/-- A new scope has a number that neither the scopes so far nor the kept search path have. -/
theorem newScope (coherent : Coherent scopes workspace) (localGroup moduleGroup : GroupId) :
    Coherent (insert (workspace.newScope localGroup moduleGroup).1 scopes)
      (workspace.newScope localGroup moduleGroup).2 where
  given := by
    rintro scope (rfl | member)
    · exact Nat.lt_succ_self _
    · exact Nat.lt_succ_of_lt (coherent.given scope member)
  apart := by
    rintro first (rfl | memberFirst) second (rfl | memberSecond) same
    · rfl
    · exact absurd same.symm (Nat.ne_of_lt (coherent.given second memberSecond))
    · exact absurd same (Nat.ne_of_lt (coherent.given first memberFirst))
    · exact coherent.apart first memberFirst second memberSecond same
  cacheGiven := Nat.lt_succ_of_lt coherent.cacheGiven
  cacheOld := coherent.cacheOld
  cached := by
    rintro current scope (rfl | member) same
    · exact absurd same.symm (Nat.ne_of_lt coherent.cacheGiven)
    · exact coherent.cached current scope member same

/-- What is searched from a scope is its search path, up to changes inside the groups. -/
theorem groups_refresh (coherent : Coherent scopes workspace) (member : scope ∈ scopes) :
    ∃ store, (workspace.refresh scope).cache.groups = { workspace with store }.searchPath scope := by
  unfold refresh
  split
  · rename_i current
    exact coherent.cached current.1 scope member current.2.symm
  · exact ⟨workspace.store, rfl⟩

end Coherent

theorem mem_distinct {id : GroupId} {ids : List GroupId} : id ∈ distinct ids ↔ id ∈ ids := by
  induction ids with
  | nil => rfl
  | cons first rest ih =>
      rw [distinct, List.mem_cons, List.mem_cons, List.mem_filter, ih]
      by_cases same : id = first <;> simp [same]

theorem distinct_filter (test : GroupId → Bool) (ids : List GroupId) :
    distinct (ids.filter test) = (distinct ids).filter test := by
  induction ids with
  | nil => rfl
  | cons first rest ih =>
      by_cases passes : test first = true
      · rw [List.filter_cons_of_pos passes, distinct, distinct, List.filter_cons_of_pos passes, ih,
          List.filter_comm]
      · rw [List.filter_cons_of_neg passes, distinct, List.filter_cons_of_neg passes, ih, List.filter_filter]
        refine List.filter_congr fun id _ => ?_
        by_cases same : id = first
        · subst same
          simp [passes]
        · simp [same]

/-- Each group is taken at its first place. -/
theorem distinct_eq_eraseDups (ids : List GroupId) : distinct ids = ids.eraseDups := by
  induction length : ids.length using Nat.strongRecOn generalizing ids with
  | ind number ih =>
      cases ids with
      | nil => rfl
      | cons first rest =>
          have shorter : (rest.filter fun id => !id == first).length < number := by
            have := List.length_filter_le (fun id => !id == first) rest
            rw [List.length_cons] at length
            omega
          rw [List.eraseDups_cons, ← ih _ shorter _ rfl, distinct_filter, distinct]
          rfl

/-- The local group is searched. -/
theorem Coherent.localGroup_mem {scopes : Set Scope} {workspace : Workspace} {scope : Scope}
    (coherent : Coherent scopes workspace) (member : scope ∈ scopes) :
    scope.localGroup ∈ (workspace.refresh scope).cache.groups := by
  obtain ⟨store, groups⟩ := coherent.groups_refresh member
  rw [groups, searchPath, mem_distinct]
  simp

/-- A name that is not found is not in the local group. -/
theorem Coherent.absent_of_lookupFirst {scopes : Set Scope} {workspace after : Workspace} {scope : Scope} {name : String}
    (coherent : Coherent scopes workspace) (member : scope ∈ scopes)
    (looked : lookupFirst scope name workspace = .ok none after) :
    (after.group scope.localGroup).get? name = none := by
  rw [lookupFirst_apply] at looked
  split at looked
  · cases looked
  · simp only [EStateM.Result.ok.injEq, List.findSome?_eq_none_iff] at looked
    obtain ⟨absent, rfl⟩ := looked
    rw [group, refresh_store]
    exact absent _ (coherent.localGroup_mem member)

/-- The search names that are registered stand for their modules, whatever the groups contain. -/
theorem searchPath_of_registered {workspace : Workspace}
    (registered : ∀ name ∈ workspace.searchNames, (workspace.moduleGroup? name).isSome = true)
    (scope : Scope) (store : Store) :
    { workspace with store }.searchPath scope =
      distinct ([scope.localGroup, scope.moduleGroup] ++
        workspace.searchNames.filterMap workspace.moduleGroup? ++ [workspace.root]) := by
  have stands : workspace.searchNames.filterMap { workspace with store }.searchGroup? =
      workspace.searchNames.filterMap workspace.moduleGroup? := by
    refine List.filterMap_congr fun name member => ?_
    obtain ⟨id, found⟩ := Option.isSome_iff_exists.mp (registered name member)
    have kept : { workspace with store }.moduleGroup? name = some id := found
    rw [searchGroup?, kept, found]
  rw [searchPath]
  exact congrArg (fun groups => distinct ([scope.localGroup, scope.moduleGroup] ++ groups ++ [workspace.root]))
    stands

end GroupScript.Workspace
