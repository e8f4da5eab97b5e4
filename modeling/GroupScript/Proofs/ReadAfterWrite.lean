import GroupScript.Proofs.PathCreation

/-!
# Reading what was written

Reading a name consults slots: those in which its first segment is searched, and one for each further segment.  What is
bound under a name is read back under the same name, as long as the path to it is still the same.  Groups that are
members of each other allow two exceptions: the slot that was bound may itself be one of those consulted on the way, and
a group made on the way may be bound where the first segment is searched earlier than where it was found.
-/

namespace GroupScript.Workspace

variable {workspace other between after : Workspace} {scopes : Set Scope} {scope : Scope}
  {name first child : String} {path rest : List String} {start value : Value} {slot : Slot} {id : GroupId}

/-! ### What a reading consults -/

/-- The slots asked for a name in a list of groups, up to the first that holds a value. -/
def askedSlots (workspace : Workspace) (name : String) : List GroupId → List Slot
  | [] => []
  | id :: rest => ⟨id, name⟩ :: if (workspace.group id).has name then [] else workspace.askedSlots name rest

/-- The slots asked for a name without dots from a scope. -/
def searchedSlots (workspace : Workspace) (scope : Scope) (name : String) : List Slot :=
  if name = rootName then [] else workspace.askedSlots name (workspace.refresh scope).cache.groups

/-- The slots asked along a path of member names from a value. -/
def passedSlots (workspace : Workspace) : Value → List String → List Slot
  | .group id, segment :: rest =>
      ⟨id, segment⟩ :: ((workspace.group id).get? segment).elim [] (workspace.passedSlots · rest)
  | _, _ => []

/-- The slots consulted to resolve a path of names. -/
def consultedSlots (workspace : Workspace) (scope : Scope) : List String → List Slot
  | [] => []
  | first :: rest =>
      workspace.searchedSlots scope first ++ (workspace.firstValue? scope first).elim [] (workspace.passedSlots · rest)

theorem mem_askedSlots {groups : List GroupId} (asked : slot ∈ workspace.askedSlots name groups) :
    slot.group ∈ groups ∧ slot.name = name := by
  induction groups with
  | nil => cases asked
  | cons id groups ih =>
      rw [askedSlots, List.mem_cons] at asked
      rcases asked with rfl | later
      · exact ⟨List.mem_cons_self, rfl⟩
      · split at later
        · cases later
        · exact ⟨List.mem_cons_of_mem id (ih later).1, (ih later).2⟩

theorem findSome?_congr {groups : List GroupId}
    (agree : ∀ slot ∈ workspace.askedSlots name groups, other.valueAt? slot = workspace.valueAt? slot) :
    groups.findSome? (fun id => (other.group id).get? name) =
      groups.findSome? fun id => (workspace.group id).get? name := by
  induction groups with
  | nil => rfl
  | cons id groups ih =>
      have here : (other.group id).get? name = (workspace.group id).get? name :=
        agree ⟨id, name⟩ List.mem_cons_self
      rw [List.findSome?_cons, List.findSome?_cons, here]
      cases found : (workspace.group id).get? name with
      | some value => rfl
      | none =>
          have absent : (workspace.group id).has name = false := by rw [Group.has_iff_get?, found]; rfl
          rw [askedSlots, absent] at agree
          exact ih fun slot asked => agree slot (List.mem_cons_of_mem _ asked)

/-- What a path leads to depends on the slots asked along it only. -/
theorem member?_congr
    (agree : ∀ slot ∈ workspace.passedSlots start path, other.valueAt? slot = workspace.valueAt? slot) :
    other.store.member? start path = workspace.store.member? start path := by
  induction path generalizing start with
  | nil => rfl
  | cons segment rest ih =>
      cases start with
      | group id =>
          have here : (other.group id).get? segment = (workspace.group id).get? segment :=
            agree ⟨id, segment⟩ List.mem_cons_self
          rw [member?_group_cons, member?_group_cons, here]
          rw [passedSlots] at agree
          cases found : (workspace.group id).get? segment with
          | none => rfl
          | some value =>
              rw [found] at agree
              exact ih fun slot passed => agree slot (List.mem_cons_of_mem _ passed)
      | _ => rfl

/-- Every slot asked along a path that leads somewhere holds a value. -/
theorem exists_valueAt?_of_passed (reached : workspace.store.member? start path = some value)
    (passed : slot ∈ workspace.passedSlots start path) : ∃ held, workspace.valueAt? slot = some held := by
  induction path generalizing start with
  | nil => cases start <;> cases passed
  | cons segment rest ih =>
      obtain ⟨id, next, rfl, found, reached⟩ := step_of_member? reached
      rw [passedSlots, found, List.mem_cons] at passed
      rcases passed with rfl | later
      · exact ⟨next, found⟩
      · exact ih reached later

theorem member?_append (reached : workspace.store.member? start path = some value) (more : List String) :
    workspace.store.member? start (path ++ more) = workspace.store.member? value more := by
  induction path generalizing start with
  | nil =>
      cases reached
      rfl
  | cons segment rest ih =>
      obtain ⟨id, next, rfl, found, reached⟩ := step_of_member? reached
      rw [List.cons_append, member?_group_cons, found]
      exact ih reached

/-! ### Reading back -/

/-- What is bound in the local group is found there, because the local group is searched first. -/
theorem Coherent.firstValue?_of_local (coherent : Coherent scopes workspace) (member : scope ∈ scopes)
    (notRoot : name ≠ rootName) (found : workspace.valueAt? ⟨scope.localGroup, name⟩ = some value) :
    workspace.firstValue? scope name = some value := by
  obtain ⟨store, path⟩ := coherent.groups_refresh member
  have here : (workspace.group scope.localGroup).get? name = some value := found
  rw [firstValue?, if_neg notRoot, path, searchPath, List.append_assoc, List.cons_append, distinct, List.findSome?_cons,
    here]

/-- The search path that was kept for a scope stays the one of the scope, whatever becomes of the groups. -/
theorem groups_refresh_lookedUp (workspace : Workspace) (scope : Scope) (notRoot : first ≠ rootName) (store : Store) :
    ({ workspace.lookedUp scope first with store }.refresh scope).cache.groups =
      (workspace.refresh scope).cache.groups := by
  rw [lookedUp, if_neg notRoot, refresh, if_pos (cache_refresh workspace scope)]

theorem firstValue?_congr {store : Store}
    (agree : ∀ slot ∈ workspace.searchedSlots scope first,
      { workspace.lookedUp scope first with store }.valueAt? slot = workspace.valueAt? slot) :
    { workspace.lookedUp scope first with store }.firstValue? scope first = workspace.firstValue? scope first := by
  rw [firstValue?, firstValue?]
  split
  · rename_i isRoot
    rw [lookedUp, if_pos isRoot]
  · rename_i notRoot
    rw [searchedSlots, if_neg notRoot] at agree
    rw [groups_refresh_lookedUp workspace scope notRoot]
    exact findSome?_congr agree

theorem resolve_of_path (segments : segmentsOf name = first :: rest ++ [child])
    (looked : workspace.firstValue? scope first = some start)
    (reached : workspace.store.member? start (rest ++ [child]) = some value) :
    ∃ last, resolve scope name workspace = .ok value last := by
  refine ⟨_, (resolve_eq_ok_iff segments).mpr ⟨?_, rfl⟩⟩
  rw [looked]
  exact reached

/-- A group that was made is bound where a name is searched, earlier than where it was found. -/
def Shadowed (before : Workspace) (scope : Scope) (name : String) (after : Workspace) : Prop :=
  (before.firstValue? scope name).isSome ∧ ∃ slot ∈ before.searchedSlots scope name,
    before.valueAt? slot = none ∧ after.valueAt? slot = some (.group before.size)

section Landing

variable (segments : segmentsOf name = first :: rest ++ [child])

include segments

/-- If nothing was made, what was bound is read back unless the slot was consulted on the way. -/
theorem resolve_of_found (exists' : id < workspace.size) (looked : workspace.firstValue? scope first = some start)
    (reached : workspace.store.member? start rest = some (.group id))
    (apart : ⟨id, child⟩ ∉ workspace.consultedSlots scope (first :: rest)) :
    ∃ last, resolve scope name ((workspace.lookedUp scope first).setMember id child value) = .ok value last := by
  have written (slot : Slot) : ((workspace.lookedUp scope first).setMember id child value).valueAt? slot =
      if ⟨id, child⟩ = slot then some value else workspace.valueAt? slot := by
    rw [valueAt?_setMember _ ⟨id, child⟩ slot value (size_lookedUp workspace scope first ▸ exists'), valueAt?_lookedUp]
  have agree (slot : Slot) (consulted : slot ∈ workspace.consultedSlots scope (first :: rest)) :
      ((workspace.lookedUp scope first).setMember id child value).valueAt? slot = workspace.valueAt? slot := by
    rw [written, if_neg]
    rintro rfl
    exact apart consulted
  rw [consultedSlots, looked] at agree
  have sameFirst := firstValue?_congr fun slot searched => agree slot (List.mem_append_left _ searched)
  have same := member?_congr fun slot passed => agree slot (List.mem_append_right _ passed)
  refine resolve_of_path segments (sameFirst.trans looked) ?_
  rw [member?_append (same.trans reached)]
  exact member?_of_valueAt? ((written ⟨id, child⟩).trans (if_pos rfl)) []

/-- If groups were made below a group that exists, what was bound is read back unless the first segment is shadowed. -/
theorem resolve_of_below {front remaining : List String} {hook : Slot} (grounded : Grounded scopes workspace)
    (member : scope ∈ scopes) (looked : workspace.firstValue? scope first = some start)
    (split : rest = front ++ hook.name :: remaining)
    (reached : workspace.store.member? start front = some (.group hook.group))
    (hangs : Hangs (workspace.lookedUp scope first) hook remaining id between)
    (apart : hook ∉ workspace.searchedSlots scope first) :
    ∃ last, resolve scope name (between.setMember id child value) = .ok value last := by
  obtain ⟨store, rfl⟩ := (grows_of_traverse hangs.walked).others
  have size := size_lookedUp workspace scope first
  obtain ⟨new, exists'⟩ := hangs.new
  -- Of the slots that were there before, only the one that the new groups hang on holds something else now.
  have agree (slot : Slot) (present : slot.group < workspace.size) (different : hook ≠ slot) :
      ({ workspace.lookedUp scope first with store }.setMember id child value).valueAt? slot =
        workspace.valueAt? slot := by
    rw [valueAt?_setMember _ ⟨id, child⟩ slot value exists', if_neg, hangs.others (size.symm ▸ present),
      if_neg different, valueAt?_lookedUp]
    rintro rfl
    rw [size] at new
    exact absurd present (Nat.not_lt_of_le new)
  have sameFirst : ({ workspace.lookedUp scope first with store }.setMember id child value).firstValue? scope first =
      workspace.firstValue? scope first := by
    refine firstValue?_congr fun slot searched => agree slot ?_ ?_
    · rw [searchedSlots] at searched
      split at searched
      · cases searched
      · exact grounded.searched member _ (mem_askedSlots searched).1
    · rintro rfl
      exact apart searched
  have same : ({ workspace.lookedUp scope first with store }.setMember id child value).store.member? start front =
      workspace.store.member? start front := by
    refine member?_congr fun slot passed => ?_
    obtain ⟨held, found⟩ := exists_valueAt?_of_passed reached passed
    refine agree slot (lt_size_of_valueAt? found) ?_
    rintro rfl
    have free := hangs.free
    rw [valueAt?_lookedUp, found] at free
    cases free
  refine resolve_of_path segments (sameFirst.trans looked) ?_
  rw [split, List.append_assoc, member?_append (same.trans reached)]
  exact hangs.reads child value

/-- If the first segment was not found, what was bound is read back: the local group is searched first. -/
theorem resolve_of_fresh (coherent : workspace.Coherent scopes) (member : scope ∈ scopes)
    (looked : workspace.firstValue? scope first = none)
    (hangs : Hangs (workspace.lookedUp scope first) ⟨scope.localGroup, first⟩ rest id between) :
    ∃ last, resolve scope name (between.setMember id child value) = .ok value last := by
  have notRoot : first ≠ rootName := by
    rintro rfl
    cases looked
  obtain ⟨store, rfl⟩ := (grows_of_traverse hangs.walked).others
  have held := hangs.held child value
  have coherentAfter : ({ workspace.lookedUp scope first with store }.setMember id child value).Coherent scopes :=
    (coherent.consulted member (consulted_lookedUp workspace scope first)).aside _ _ _ _ _ _ _
  refine resolve_of_path segments (coherentAfter.firstValue?_of_local member notRoot held) ?_
  rw [← member?_of_valueAt? held]
  exact hangs.reads child value

end Landing

theorem slot_of_bind (bound : bind scope name value none workspace = .ok () after) :
    ∃ slot between, bindingSlot scope name none workspace = .ok slot between ∧
      after = between.setMember slot.group slot.name value := by
  obtain ⟨slot, between, found, bound⟩ := bind_eq_ok bound
  obtain ⟨_, checked, check, bound⟩ := bind_eq_ok bound
  cases bound
  refine ⟨slot, between, found, ?_⟩
  rw [requireAssignable, get_bind_apply] at check
  split at check
  · cases check
  · cases check
    rfl

theorem bindingSlot_single (single : segmentsOf name = [name])
    (bound : bindingSlot scope name none workspace = .ok slot after) :
    slot = ⟨scope.localGroup, name⟩ ∧ workspace = after := by
  have named : name ≠ "" := @named_of_bindingSlot _ _ _ _ [] _ _ single bound
  have nonempty : name.isEmpty = false := by simpa using named
  have last : [name].getLastD "" = name := rfl
  simp only [bindingSlot, single, last, List.dropLast_singleton, nonempty] at bound
  cases bound
  exact ⟨rfl, rfl⟩

/-- A slot was bound, and no other slot that held a value changed; neither did constants and protections. -/
structure BindsOnly (before : Workspace) (slot : Slot) (value : Value) (after : Workspace) : Prop where
  written : after.valueAt? slot = some value
  kept : ∀ other ≠ slot, ∀ held, before.valueAt? other = some held → after.valueAt? other = some held
  constants : ∀ other, after.isConstantAt other = before.isConstantAt other
  guarded : ∀ id, (after.group id).isProtected = (before.group id).isProtected

theorem BindsOnly.of_grows (grows : Grows workspace between) (exists' : slot.group < between.size) (value : Value) :
    BindsOnly workspace slot value (between.setMember slot.group slot.name value) where
  written := by rw [valueAt?_setMember between slot slot value exists', if_pos rfl]
  kept := by
    intro other different held found
    rw [valueAt?_setMember between slot other value exists', if_neg different.symm]
    exact grows.kept other held found
  constants := by
    intro other
    rw [isConstantAt, setMember, group_modifyGroup between slot.group other.group _ exists', ← grows.constants]
    split
    · exact Group.isConstant_set _ _ _ _
    · rfl
  guarded := by
    intro id
    rw [setMember, group_modifyGroup between slot.group id _ exists', ← grows.guarded]
    split <;> rfl

theorem BindsOnly.of_lookedUp (binds : BindsOnly (workspace.lookedUp scope name) slot value after) :
    BindsOnly workspace slot value after := by
  have group (id : GroupId) : (workspace.lookedUp scope name).group id = workspace.group id := by
    rw [Workspace.group, store_lookedUp]
    rfl
  obtain ⟨written, kept, constants, guarded⟩ := binds
  simp only [valueAt?, isConstantAt, group] at kept constants guarded
  exact ⟨written, kept, constants, guarded⟩

/-- What is bound under a name is read back under it, except in two cases: the slot that was bound is one of those
consulted to resolve the segments before the last, or a group made on the way is bound where the first segment is
searched earlier than where it was found.  No other slot that held a value changes, and neither do constants and
protections. -/
theorem resolve_after_bind {environment : Environment} (reachable : Reachable environment scopes workspace)
    (member : scope ∈ scopes) (grounded : Grounded scopes workspace) (notRoot : name ≠ rootName)
    (bound : bind scope name value none workspace = .ok () after) :
    ∃ slot between, bindingSlot scope name none workspace = .ok slot between ∧
      BindsOnly workspace slot value after ∧
      (slot ∈ workspace.consultedSlots scope (segmentsOf name).dropLast ∨
        workspace.Shadowed scope ((segmentsOf name).headD "") after ∨
        ∃ last, resolve scope name after = .ok value last) := by
  have coherent := reachable.sound.toCoherent
  obtain ⟨slot, between, found, rfl⟩ := slot_of_bind bound
  refine ⟨slot, between, found, ?_⟩
  obtain ⟨-, single⟩ | ⟨-, first, rest, child, segments⟩ := segmentsOf_cases name
  · obtain ⟨rfl, rfl⟩ := bindingSlot_single single found
    have exists' := (grounded.scopes scope member).1
    have binds : BindsOnly workspace ⟨scope.localGroup, name⟩ value _ := .of_grows (.refl workspace) exists' value
    have coherentAfter : (workspace.setMember scope.localGroup name value).Coherent scopes :=
      coherent.aside _ _ _ _ _ _ _
    have looked := coherentAfter.firstValue?_of_local member notRoot binds.written
    refine ⟨binds, .inr (.inr ⟨_, (resolve_eq_ok_iff single).mpr ⟨?_, rfl⟩⟩)⟩
    rw [looked]
    rfl
  · obtain ⟨rfl, landing⟩ := landing_of_bindingSlot coherent member grounded segments found
    have exists' := landing.exists' grounded
    have binds := BindsOnly.of_grows landing.grows exists' value
    refine ⟨binds.of_lookedUp, ?_⟩
    rw [segments, List.dropLast_concat, List.cons_append, List.headD_cons]
    by_cases consulted : slot ∈ workspace.consultedSlots scope (first :: rest)
    · exact .inl consulted
    refine .inr ?_
    cases landing with
    | found looked reached =>
        exact .inr (resolve_of_found segments (size_lookedUp workspace scope first ▸ exists') looked reached consulted)
    | @below start front remaining hook _ looked split reached hangs =>
        by_cases searched : hook ∈ workspace.searchedSlots scope first
        · refine .inl ⟨by rw [looked]; rfl, hook, searched, ?_, ?_⟩
          · rw [← valueAt?_lookedUp]
            exact hangs.free
          · rw [← size_lookedUp workspace scope first]
            exact hangs.held slot.name value
        · exact .inr (resolve_of_below segments grounded member looked split reached hangs searched)
    | fresh looked hangs => exact .inr (resolve_of_fresh segments coherent member looked hangs)

/-- A workspace whose root has a group that is the local group of a scope. -/
def sharedWorkspace : Workspace :=
  ((Workspace.empty.newGroup {}).2.setMember 0 "a" (.group 4)).newScope 4 0 |>.2

theorem tabled_sharedWorkspace : Tabled (insert ⟨1, 4, 0⟩ ∅) sharedWorkspace := by
  refine .scope (.change _ (.make false .start) fun name next found => ?_) (by decide) (by decide)
  rw [Group.get?_set] at found
  split at found
  · cases found
    decide
  · exact (Tabled.make false .start).grounded.members ⟨0, name⟩ next found

/-- From that scope, a path through the root makes a group and leads to the value bound at its end. -/
theorem resolve_after_bind_shared :
    ∃ after last, bind ⟨1, 4, 0⟩ "a.b.c" (.int 1) none sharedWorkspace = .ok () after ∧
      resolve ⟨1, 4, 0⟩ "a.b.c" after = .ok (.int 1) last := by
  have bound : bind ⟨1, 4, 0⟩ "a.b.c" (.int 1) none sharedWorkspace =
      .ok () (((sharedWorkspace.refresh ⟨1, 4, 0⟩).bindNewGroup 4 "b").setMember 5 "c" (.int 1)) := rfl
  obtain ⟨slot, between, found, -, consulted | ⟨-, slot, searched, -, made⟩ | ⟨last, read⟩⟩ :=
    resolve_after_bind (tabled_sharedWorkspace.reachable {}) (Set.mem_insert _ _) tabled_sharedWorkspace.grounded
      (by decide) bound
  · cases found
    exact absurd consulted (by decide)
  · have clear : ∀ slot ∈ sharedWorkspace.searchedSlots ⟨1, 4, 0⟩ ((segmentsOf "a.b.c").headD ""),
        ((((sharedWorkspace.refresh ⟨1, 4, 0⟩).bindNewGroup 4 "b").setMember 5 "c" (.int 1)).valueAt? slot).bind
          groupOf? ≠ some 5 := by
      decide
    have unclear := clear slot searched
    rw [made] at unclear
    exact absurd rfl unclear
  · exact ⟨_, last, bound, read⟩

/-- A path that goes through the first segment twice makes a group that shadows where that segment was found.  What was
bound is then not read back, although its slot is none of those consulted on the way, before or after. -/
theorem unbound_after_bind_shadowed :
    ∃ slot between after last, Tabled (insert ⟨1, 4, 0⟩ ∅) sharedWorkspace ∧
      bindingSlot ⟨1, 4, 0⟩ "a.a.b" none sharedWorkspace = .ok slot between ∧
      slot ∉ sharedWorkspace.consultedSlots ⟨1, 4, 0⟩ (segmentsOf "a.a.b").dropLast ∧
      slot ∉ after.consultedSlots ⟨1, 4, 0⟩ (segmentsOf "a.a.b").dropLast ∧
      bind ⟨1, 4, 0⟩ "a.a.b" (.int 1) none sharedWorkspace = .ok () after ∧
      resolve ⟨1, 4, 0⟩ "a.a.b" after = .error (Error.unbound "a.a.b") last := by
  refine ⟨⟨5, "b"⟩, _, (((sharedWorkspace.refresh ⟨1, 4, 0⟩).bindNewGroup 4 "a").setMember 5 "b" (.int 1)), _,
    tabled_sharedWorkspace, rfl, ?_, ?_, rfl, rfl⟩
  · decide
  · decide

end GroupScript.Workspace
