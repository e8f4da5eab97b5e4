import GroupScript.Proofs.GroupChange

/-!
# Steady changes

A change of a workspace is steady if the constants in some watched slots stay what they are.  Steady changes can be put one
after the other.  A change that only takes members away is steady if the watched constants are there afterwards.
-/

namespace GroupScript

namespace Workspace

/-- Whether a slot holds a constant. -/
def isConstantAt (workspace : Workspace) (slot : Slot) : Bool :=
  (workspace.group slot.group).isConstant slot.name

/-- The value in a slot. -/
def valueAt? (workspace : Workspace) (slot : Slot) : Option Value :=
  (workspace.group slot.group).get? slot.name

/-- The constants in watched slots stay constants with the same values. -/
structure Steady (watched : Set Slot) (before after : Workspace) : Prop where
  root : after.root = before.root
  size : before.size ≤ after.size
  kept : ∀ slot ∈ watched, before.isConstantAt slot = true →
    after.isConstantAt slot = true ∧ after.valueAt? slot = before.valueAt? slot

variable {watched : Set Slot} {first second third before after : Workspace} {id : GroupId} {name : String}

theorem lt_size_of_isConstantAt {slot : Slot} (constant : before.isConstantAt slot = true) :
    slot.group < before.size :=
  lt_size_of_isConstant constant

namespace Steady

/-- A change that leaves the groups that exist alone is steady. -/
theorem of_confined (confined : Confined ∅ before after) : Steady watched before after := by
  refine ⟨confined.root, confined.size, fun slot _ constant => ?_⟩
  have same : after.group slot.group = before.group slot.group :=
    confined.others slot.group (lt_size_of_isConstantAt constant) (Set.notMem_empty _)
  rw [isConstantAt, valueAt?, same]
  exact ⟨constant, rfl⟩

theorem refl (workspace : Workspace) : Steady watched workspace workspace :=
  .of_confined (.refl workspace)

theorem trans (earlier : Steady watched first second) (later : Steady watched second third) :
    Steady watched first third where
  root := later.root.trans earlier.root
  size := Nat.le_trans earlier.size later.size
  kept := by
    intro slot inside constant
    obtain ⟨stays, same⟩ := earlier.kept slot inside constant
    obtain ⟨staysOn, sameToo⟩ := later.kept slot inside stays
    exact ⟨staysOn, sameToo.trans same⟩

/-- A change of one group that leaves its watched constants alone. -/
theorem modifyGroup {change : Group → Group}
    (kept : ∀ name, ⟨id, name⟩ ∈ watched → before.isConstantAt ⟨id, name⟩ = true →
      (change (before.group id)).isConstant name = true ∧
        (change (before.group id)).get? name = before.valueAt? ⟨id, name⟩) :
    Steady watched before (before.modifyGroup id change) := by
  refine ⟨rfl, (size_modifyGroup before id change).ge, ?_⟩
  rintro ⟨other, name⟩ inside constant
  by_cases same : id = other
  · subst same
    rw [isConstantAt, valueAt?, group_modifyGroup before id id change (lt_size_of_isConstantAt constant), if_pos rfl]
    exact kept name inside constant
  · rw [isConstantAt, valueAt?, group_modifyGroup_of_ne change same]
    exact ⟨constant, rfl⟩

/-- A slot may be bound if it holds no constant or is not watched. -/
theorem setMember (value : Value) (free : ⟨id, name⟩ ∈ watched → before.isConstantAt ⟨id, name⟩ = false) :
    Steady watched before (before.setMember id name value) := by
  apply modifyGroup
  intro other inside constant
  have different : name ≠ other := by
    rintro rfl
    rw [free inside] at constant
    cases constant
  rw [Group.isConstant_set, Group.get?_set, if_neg different]
  exact ⟨constant, rfl⟩

/-- A slot may be emptied if it holds no constant or is not watched. -/
theorem remove (free : ⟨id, name⟩ ∈ watched → before.isConstantAt ⟨id, name⟩ = false) :
    Steady watched before (before.modifyGroup id (·.remove name)) := by
  apply modifyGroup
  intro other inside constant
  have different : name ≠ other := by
    rintro rfl
    rw [free inside] at constant
    cases constant
  rw [Group.isConstant_remove, Group.get?_remove, if_neg different]
  change (before.group id).isConstant other = true at constant
  exact ⟨by simp [different, constant], rfl⟩

theorem newGroup (group : Group) : Steady watched before (before.newGroup group).2 :=
  .of_confined (.newGroup group)

end Steady

/-! ### Taking members away -/

/-- Every constant that is left was there before, with the same value. -/
structure Fading (before after : Workspace) : Prop where
  root : after.root = before.root
  size : before.size ≤ after.size
  left : ∀ slot : Slot, slot.group < before.size → after.isConstantAt slot = true →
    before.isConstantAt slot = true ∧ after.valueAt? slot = before.valueAt? slot

namespace Fading

theorem of_confined (confined : Confined ∅ before after) : Fading before after := by
  refine ⟨confined.root, confined.size, fun slot present constant => ?_⟩
  have same : after.group slot.group = before.group slot.group :=
    confined.others slot.group present (Set.notMem_empty _)
  rw [isConstantAt, same] at constant
  rw [valueAt?, same]
  exact ⟨constant, rfl⟩

theorem trans (earlier : Fading first second) (later : Fading second third) : Fading first third where
  root := later.root.trans earlier.root
  size := Nat.le_trans earlier.size later.size
  left := by
    intro slot present constant
    obtain ⟨between, same⟩ := later.left slot (Nat.lt_of_lt_of_le present earlier.size) constant
    obtain ⟨old, sameToo⟩ := earlier.left slot present between
    exact ⟨old, same.trans sameToo⟩

theorem remove (id : GroupId) (name : String) : Fading before (before.modifyGroup id (·.remove name)) := by
  refine ⟨rfl, (size_modifyGroup before id _).ge, ?_⟩
  rintro ⟨other, member⟩ present constant
  by_cases same : id = other
  · subst same
    rw [isConstantAt, group_modifyGroup before id id _ present, if_pos rfl, Group.isConstant_remove, Bool.and_eq_true,
      decide_eq_true_eq] at constant
    rw [valueAt?, group_modifyGroup before id id _ present, if_pos rfl, Group.get?_remove, if_neg constant.1]
    exact ⟨constant.2, rfl⟩
  · rw [isConstantAt, group_modifyGroup_of_ne _ same] at constant
    rw [valueAt?, group_modifyGroup_of_ne _ same]
    exact ⟨constant, rfl⟩

/-- If the watched constants are left, then the change was steady. -/
theorem steady (fading : Fading before after)
    (left : ∀ slot ∈ watched, before.isConstantAt slot = true → after.isConstantAt slot = true) :
    Steady watched before after where
  root := fading.root
  size := fading.size
  kept := fun slot inside constant =>
    ⟨left slot inside constant,
      (fading.left slot (lt_size_of_isConstantAt constant) (left slot inside constant)).2⟩

end Fading

end Workspace

end GroupScript
