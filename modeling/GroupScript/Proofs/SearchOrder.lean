import GroupScript.Proofs.Levels
import GroupScript.Proofs.Reachability

/-!
# The order of the search

Whatever is registered and whatever names are set to be searched, the core names stay registered and stay among the
names that are searched, and no statement changes the names that are searched.  So from every scope the groups searched
are distinct, the local group comes first and the module group after it, and the core groups and the root are among
them.
-/

namespace GroupScript

namespace Workspace

/-! ### The names that are searched -/

/-- The names that are searched if some names are given: those in their order, and then the core names missing among
them. -/
def searchOrder (given : List String) : List String :=
  given.eraseDups ++ coreNames.filter fun name => !given.contains name

theorem eraseDups_of_nodup {names : List String} (nodup : names.Nodup) : names.eraseDups = names := by
  induction names with
  | nil => rfl
  | cons name rest ih =>
      obtain ⟨fresh, nodupRest⟩ := List.nodup_cons.mp nodup
      have others : (rest.filter fun other => !other == name) = rest := by
        apply List.filter_eq_self.mpr
        intro other member
        have different : other ≠ name := fun same => fresh (same ▸ member)
        simp [different]
      rw [List.eraseDups_cons, others, ih nodupRest]

theorem addNames_eq (seen names : List String) :
    addNames seen names = seen ++ (names.filter fun name => !seen.contains name).eraseDups := by
  induction names generalizing seen with
  | nil => simp [addNames]
  | cons name rest ih =>
      rw [addNames, ih]
      by_cases inside : seen.contains name = true
      · rw [if_pos inside, List.filter_cons_of_neg (by simp only [inside]; decide)]
      · have later : (rest.filter fun other => !(seen ++ [name]).contains other) =
            (rest.filter fun other => !seen.contains other).filter fun other => !other == name := by
          rw [List.filter_filter]
          congr 1
          funext other
          simp [Bool.and_comm, Bool.beq_eq_decide_eq]
        rw [if_neg inside, List.filter_cons_of_pos (by simpa using inside), List.eraseDups_cons, later,
          List.append_assoc]
        rfl

theorem searchNames_setSearchNames (workspace : Workspace) (names : List String) :
    (workspace.setSearchNames names).searchNames = searchOrder names := by
  have missing : ((coreNames.filter fun name => !names.contains name)).Nodup :=
    List.Nodup.filter _ (by decide : coreNames.Nodup)
  change addNames [] (names ++ coreNames) = _
  rw [addNames_eq, searchOrder, ← eraseDups_of_nodup missing]
  simp [List.eraseDups_append, List.removeAll]

theorem nodup_addNames {seen : List String} (nodup : seen.Nodup) (names : List String) :
    (addNames seen names).Nodup := by
  induction names generalizing seen with
  | nil => exact nodup
  | cons name rest ih =>
      rw [addNames]
      split
      · exact ih nodup
      · rename_i fresh
        apply ih
        apply nodup.append (List.nodup_singleton name)
        simpa using fresh

theorem mem_searchOrder {name : String} (core : name ∈ coreNames) (given : List String) : name ∈ searchOrder given := by
  by_cases inside : name ∈ given
  · exact List.mem_append_left _ (List.mem_eraseDups.mpr inside)
  · exact List.mem_append_right _ (List.mem_filter.mpr ⟨core, by simpa using inside⟩)

/-! ### What stays registered -/

/-- The names that are searched are the same, and the names that were registered still are. -/
structure Retains (before after : Workspace) : Prop where
  searchNames : after.searchNames = before.searchNames
  registered : ∀ name, (before.moduleGroup? name).isSome = true → (after.moduleGroup? name).isSome = true

/-- The guarantee that the names searched and registered are kept. -/
def retaining : Guarantee Workspace where
  holds := fun _ => True
  leads := Retains
  refl := fun _ => ⟨rfl, fun _ registered => registered⟩
  trans := fun first second =>
    ⟨second.searchNames.trans first.searchNames, fun name known => second.registered name (first.registered name known)⟩

theorem moduleGroup?_register (workspace : Workspace) (name other : String) (loaded : LoadedModule) :
    (workspace.register name loaded).moduleGroup? other =
      if name = other then some loaded.group else workspace.moduleGroup? other := by
  rw [moduleGroup?, register, Dictionary.get?_put]
  split <;> rfl

theorem retains_register (workspace : Workspace) (name : String) (loaded : LoadedModule) :
    Retains workspace (workspace.register name loaded) := by
  refine ⟨rfl, fun other registered => ?_⟩
  rw [moduleGroup?_register]
  split
  · rfl
  · exact registered

theorem lenient_retaining : Lenient retaining where
  always := fun _ => trivial
  aside := fun _ _ _ _ _ _ _ _ => ⟨rfl, fun _ registered => registered⟩
  registers := retains_register

/-- The root and the core names are registered, and the names searched are distinct with the core names among them. -/
structure Furnished (workspace : Workspace) : Prop where
  root : (workspace.moduleGroup? rootName).isSome = true
  core : ∀ name ∈ coreNames, (workspace.moduleGroup? name).isSome = true
  nodup : workspace.searchNames.Nodup
  searched : ∀ name ∈ coreNames, name ∈ workspace.searchNames

theorem Furnished.retained {before after : Workspace} (furnished : before.Furnished) (retains : Retains before after) :
    after.Furnished where
  root := retains.registered rootName furnished.root
  core := fun name member => retains.registered name (furnished.core name member)
  nodup := retains.searchNames ▸ furnished.nodup
  searched := fun name member => retains.searchNames ▸ furnished.searched name member

theorem furnished_setSearchNames {workspace : Workspace} (furnished : workspace.Furnished) (names : List String) :
    (workspace.setSearchNames names).Furnished where
  root := furnished.root
  core := furnished.core
  nodup := nodup_addNames List.nodup_nil _
  searched := fun _ member => searchNames_setSearchNames workspace names ▸ mem_searchOrder member names

/-! ### The groups that are searched -/

theorem nodup_distinct (ids : List GroupId) : (distinct ids).Nodup := by
  induction ids with
  | nil => exact List.nodup_nil
  | cons id rest ih =>
      rw [distinct, List.nodup_cons]
      exact ⟨by simp, ih.filter _⟩

/-- Groups that are searched from a scope in good order: each once, the local group first and the module group after it,
with the groups that the core names stand for now and the root among them. -/
structure WellOrdered (workspace : Workspace) (scope : Scope) (groups : List GroupId) : Prop where
  nodup : groups.Nodup
  localGroup : groups.head? = some scope.localGroup
  moduleGroup : scope.moduleGroup ≠ scope.localGroup → groups.tail.head? = some scope.moduleGroup
  core : ∀ name ∈ coreNames, ∃ id ∈ groups, workspace.moduleGroup? name = some id
  root : workspace.root ∈ groups

theorem Furnished.wellOrdered_searchPath {workspace : Workspace} (furnished : workspace.Furnished) (scope : Scope)
    (store : Store) : workspace.WellOrdered scope ({ workspace with store }.searchPath scope) where
  nodup := nodup_distinct _
  localGroup := rfl
  moduleGroup := by
    intro different
    simp [searchPath, distinct, different]
  core := by
    intro name member
    obtain ⟨id, registered⟩ := Option.isSome_iff_exists.mp (furnished.core name member)
    refine ⟨id, ?_, registered⟩
    have stands : { workspace with store }.searchGroup? name = some id := by
      have kept : { workspace with store }.moduleGroup? name = some id := registered
      rw [searchGroup?, kept]
    have found : id ∈ workspace.searchNames.filterMap { workspace with store }.searchGroup? :=
      List.mem_filterMap.mpr ⟨name, furnished.searched name member, stands⟩
    rw [searchPath, mem_distinct]
    exact List.mem_append_left _ (List.mem_append_right _ found)
  root := by
    rw [searchPath, mem_distinct]
    simp

end Workspace

namespace Reachable

variable {environment : Environment} {scopes : Set Scope} {workspace : Workspace} {scope : Scope}

theorem retains_of_ends {levels : Nat} {statement : Statement} {after : Workspace}
    (ends : Ends ((Interpreter.ofLevels environment levels).execute statement scope) workspace after) :
    workspace.Retains after := by
  obtain ⟨executes, -⟩ := @Lenient.lockstep_ofLevels _ Workspace.lenient_retaining environment _ _ (Nat.le_refl levels)
  exact ((executes statement scope).keeps.of_ends trivial ends).2

theorem furnished (reachable : Reachable environment scopes workspace) : workspace.Furnished := by
  induction reachable with
  | start => exact ⟨by decide, by decide, by decide, by decide⟩
  | scope localGroup moduleGroup _ ih => exact ih.retained ⟨rfl, fun _ known => known⟩
  | mutate store _ _ ih => exact ih.retained ⟨rfl, fun _ known => known⟩
  | register name loaded _ ih => exact ih.retained (Workspace.retains_register _ name loaded)
  | search names _ ih => exact Workspace.furnished_setSearchNames ih names
  | locate path extension _ ih => exact ih.retained ⟨rfl, fun _ known => known⟩
  | consult _ _ consulted ih =>
      obtain ⟨cache, output, log, rfl, -⟩ := consulted
      exact ih.retained ⟨rfl, fun _ known => known⟩
  | run levels statement _ _ ends ih => exact ih.retained (retains_of_ends ends)

/-- In every reachable workspace the search is in good order.  The root and the core names are registered, and the names
searched are distinct with the core names among them; setting them puts the names given first, and no statement changes
them.  The groups searched from a scope are well ordered. -/
theorem searchGroups_wellOrdered (reachable : Reachable environment scopes workspace) (member : scope ∈ scopes) :
    workspace.Furnished ∧
      (∀ names, (workspace.setSearchNames names).searchNames = Workspace.searchOrder names) ∧
      (∀ levels statement after,
        Ends ((Interpreter.ofLevels environment levels).execute statement scope) workspace after →
          after.searchNames = workspace.searchNames) ∧
      ∃ groups, Workspace.searchGroups scope workspace = .ok groups (workspace.refresh scope) ∧
        workspace.WellOrdered scope groups := by
  refine ⟨reachable.furnished, workspace.searchNames_setSearchNames, ?_, _, rfl, ?_⟩
  · intro levels statement after ends
    exact (retains_of_ends ends).searchNames
  · obtain ⟨store, groups⟩ := reachable.sound.groups_refresh member
    rw [groups]
    exact reachable.furnished.wellOrdered_searchPath scope store

/-- A name given twice is searched once, and a core name that is registered anew stands for its new group. -/
theorem searchGroups_wellOrdered_replaced :
    let given := (Workspace.empty.newScope 0 1).2.setSearchNames ["m", "_math", "m"]
    let replaced := (given.register "m" ⟨3, false⟩).register "_math" ⟨0, false⟩
    replaced.searchNames = ["m", "_math", "_sys", "_builtin"] ∧
      Workspace.searchGroups ⟨1, 0, 1⟩ replaced = .ok [0, 1, 3, 2] (replaced.refresh ⟨1, 0, 1⟩) ∧
      replaced.WellOrdered ⟨1, 0, 1⟩ [0, 1, 3, 2] := by
  intro given replaced
  have reached : Reachable {} (insert ⟨1, 0, 1⟩ ∅) replaced :=
    .register _ _ (.register _ _ (.search _ (.scope 0 1 .start)))
  have searched : Workspace.searchGroups ⟨1, 0, 1⟩ replaced = .ok [0, 1, 3, 2] (replaced.refresh ⟨1, 0, 1⟩) := rfl
  obtain ⟨-, -, -, groups, found, ordered⟩ := searchGroups_wellOrdered reached (Set.mem_insert _ _)
  rw [searched] at found
  cases found
  exact ⟨by decide, searched, ordered⟩

end Reachable

end GroupScript
