import Mathlib
import GroupScript.Workspace.Resolve

/-!
# Changes of groups

What each change of a workspace does to its groups.  A change of a group leaves all other groups alone, a change of a
member leaves all other members alone, and making something new leaves all groups alone that exist.
-/

namespace GroupScript

namespace Group

@[simp]
theorem get?_set (group : Group) (name other : String) (value : Value) :
    (group.set name value).get? other = if name = other then some value else group.get? other := by
  simp only [get?, set, Dictionary.get?_put]
  split <;> rfl

@[simp]
theorem isConstant_set (group : Group) (name other : String) (value : Value) :
    (group.set name value).isConstant other = group.isConstant other := by
  simp only [isConstant, set, Dictionary.get?_put]
  by_cases same : name = other
  · subst same
    simp
  · simp [same]

@[simp]
theorem get?_remove (group : Group) (name other : String) :
    (group.remove name).get? other = if name = other then none else group.get? other := by
  simp only [get?, remove, Dictionary.get?_erase]
  split <;> rfl

@[simp]
theorem isConstant_remove (group : Group) (name other : String) :
    (group.remove name).isConstant other = (decide (name ≠ other) && group.isConstant other) := by
  simp only [isConstant, remove, Dictionary.get?_erase]
  by_cases same : name = other <;> simp [same]

theorem isConstant_eq_false_of_get? {group : Group} {name : String} (absent : group.get? name = none) :
    group.isConstant name = false := by
  simp only [get?, Option.map_eq_none_iff] at absent
  simp only [isConstant, absent]

theorem get?_eq_none_of_has {group : Group} {name : String} (absent : group.has name = false) :
    group.get? name = none := by
  simpa [has, Dictionary.contains, get?] using absent

end Group

namespace Workspace

variable {workspace : Workspace} {id other : GroupId}

/-- The number of groups that exist. -/
def size (workspace : Workspace) : Nat :=
  workspace.store.groups.size

theorem group_of_size_le (absent : workspace.size ≤ id) : workspace.group id = {} := by
  simp only [group, Store.group, Array.getD_eq_getD_getElem?]
  rw [Array.getElem?_eq_none absent]
  rfl

theorem lt_size_of_isConstant {name : String} (constant : (workspace.group id).isConstant name = true) :
    id < workspace.size := by
  by_contra absent
  rw [group_of_size_le (Nat.le_of_not_lt absent)] at constant
  cases constant

@[simp]
theorem size_modifyGroup (workspace : Workspace) (id : GroupId) (change : Group → Group) :
    (workspace.modifyGroup id change).size = workspace.size := by
  simp [size, modifyGroup, Store.modifyGroup]

@[simp]
theorem size_setMember (workspace : Workspace) (id : GroupId) (name : String) (value : Value) :
    (workspace.setMember id name value).size = workspace.size :=
  size_modifyGroup workspace id _

@[simp]
theorem size_newGroup (workspace : Workspace) (group : Group) :
    (workspace.newGroup group).2.size = workspace.size + 1 := by
  simp [size, newGroup, Store.newGroup]

theorem size_le_newGroup (workspace : Workspace) (group : Group) :
    workspace.size ≤ (workspace.newGroup group).2.size := by
  rw [size_newGroup]
  exact Nat.le_succ _

theorem group_modifyGroup (workspace : Workspace) (id other : GroupId) (change : Group → Group)
    (exists' : id < workspace.size) :
    (workspace.modifyGroup id change).group other =
      if id = other then change (workspace.group other) else workspace.group other := by
  simp only [group, modifyGroup, Store.group, Store.modifyGroup, Array.getD_eq_getD_getElem?,
    Array.getElem?_modify]
  split
  · rename_i same
    subst same
    have present : id < workspace.store.groups.size := exists'
    simp [present]
  · rfl

/-- Changing a group that does not exist changes nothing. -/
theorem modifyGroup_of_size_le (change : Group → Group) (absent : workspace.size ≤ id) (other : GroupId) :
    (workspace.modifyGroup id change).group other = workspace.group other := by
  simp only [group, modifyGroup, Store.group, Store.modifyGroup, Array.getD_eq_getD_getElem?,
    Array.getElem?_modify]
  split
  · rename_i same
    subst same
    have missing : workspace.store.groups.size ≤ id := absent
    simp [missing]
  · rfl

/-- Changing one group leaves the others alone. -/
theorem group_modifyGroup_of_ne (change : Group → Group) (apart : id ≠ other) :
    (workspace.modifyGroup id change).group other = workspace.group other := by
  by_cases present : id < workspace.size
  · rw [group_modifyGroup workspace id other change present, if_neg apart]
  · exact modifyGroup_of_size_le change (Nat.le_of_not_lt present) other

@[simp]
theorem newGroup_fst (workspace : Workspace) (group : Group) :
    (workspace.newGroup group).1 = workspace.size :=
  rfl

theorem group_newGroup (workspace : Workspace) (made : Group) (id : GroupId) :
    (workspace.newGroup made).2.group id =
      if id = workspace.size then made else workspace.group id := by
  simp only [group, newGroup, Store.newGroup, Store.group, Array.getD_eq_getD_getElem?,
    Array.getElem?_push, size]
  split <;> rfl

theorem group_newGroup_of_lt {made : Group} (present : id < workspace.size) :
    (workspace.newGroup made).2.group id = workspace.group id := by
  rw [group_newGroup, if_neg (Nat.ne_of_lt present)]

/-- Of the groups that exist, only the open ones change. -/
structure Confined (opened : Set GroupId) (before after : Workspace) : Prop where
  root : after.root = before.root
  size : before.size ≤ after.size
  others : ∀ id < before.size, id ∉ opened → after.group id = before.group id

namespace Confined

variable {opened : Set GroupId} {first second third before after : Workspace}

theorem refl (workspace : Workspace) : Confined opened workspace workspace :=
  ⟨rfl, Nat.le_refl _, fun _ _ _ => rfl⟩

theorem trans (earlier : Confined opened first second) (later : Confined opened second third) :
    Confined opened first third where
  root := later.root.trans earlier.root
  size := Nat.le_trans earlier.size later.size
  others := by
    intro id present outside
    rw [later.others id (Nat.lt_of_lt_of_le present earlier.size) outside, earlier.others id present outside]

/-- A change that leaves all groups alone. -/
theorem of_groups (root : after.root = before.root) (groups : after.store.groups = before.store.groups) :
    Confined opened before after := by
  refine ⟨root, ?_, fun id _ _ => ?_⟩
  · rw [Workspace.size, Workspace.size, groups]
  · rw [Workspace.group, Workspace.group, Store.group, Store.group, groups]

/-- A store that continues the one before leaves all groups alone. -/
theorem of_extends {store : Store} (kept : before.store.Extends store) : Confined opened before { before with store } := by
  refine ⟨rfl, kept.groups.size_le, fun id present _ => ?_⟩
  rw [Workspace.group, Workspace.group, Store.group, Store.group, Array.getD_eq_getD_getElem?,
    Array.getD_eq_getD_getElem?, kept.groups id present]

theorem newGroup (group : Group) : Confined opened before (before.newGroup group).2 :=
  ⟨rfl, before.size_le_newGroup group, fun _ present _ => group_newGroup_of_lt present⟩

theorem setMember {id : GroupId} (name : String) (value : Value) (inside : id ∈ opened) :
    Confined opened before (before.setMember id name value) := by
  refine ⟨rfl, (size_setMember before id name value).ge, fun other _ outside => ?_⟩
  exact group_modifyGroup_of_ne _ fun same => outside (same ▸ inside)

end Confined

end Workspace

end GroupScript
