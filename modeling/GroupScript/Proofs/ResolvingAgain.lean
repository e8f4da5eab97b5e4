import GroupScript.Proofs.ReadAfterWrite

/-!
# Resolving a name again

Resolving a name with creation makes what is missing on its path.  All of it hangs on one free slot of a group that
exists and is a chain from there: a group for each further segment, and nothing at the end.  Resolving the name once more
finds the end of that chain and makes nothing new.  The only exception is a chain that hangs where the first segment is
searched earlier than where it was found.  It then shadows the start of the path it belongs to, and being shorter than
that path it leads nowhere.
-/

namespace GroupScript.Workspace

variable {workspace after : Workspace} {scopes : Set Scope} {scope : Scope} {name first : String}
  {path remaining walked : List String} {start value : Value} {hook : Slot}

/-! ### What a walk with creation makes -/

/-- A chain of new groups was made below a free slot, one for each remaining segment but the last, which is bound to
nothing.  Of the groups that exist only that slot has changed. -/
structure Sprouts (workspace : Workspace) (hook : Slot) (remaining : List String) (after : Workspace) : Prop where
  exists' : hook.group < workspace.size
  free : workspace.valueAt? hook = none
  others : ∃ store, after = { workspace with store }
  kept : ∀ slot : Slot, slot.group < workspace.size → hook ≠ slot → after.valueAt? slot = workspace.valueAt? slot
  chain : ∃ made, after.valueAt? hook = some made ∧ after.store.member? made remaining = some .nil ∧
    ∀ path : List String, remaining.length < path.length → after.store.member? made path = none

theorem sprouts_setMember (exists' : hook.group < workspace.size) (free : workspace.valueAt? hook = none) :
    Sprouts workspace hook [] (workspace.setMember hook.group hook.name .nil) where
  exists' := exists'
  free := free
  others := ⟨_, rfl⟩
  kept := by
    intro slot _ different
    rw [valueAt?_setMember workspace hook slot _ exists', if_neg different]
  chain := by
    refine ⟨.nil, ?_, rfl, ?_⟩
    · rw [valueAt?_setMember workspace hook hook _ exists', if_pos rfl]
    · intro path longer
      cases path with
      | nil => simp at longer
      | cons segment rest => rfl

/-- A chain below a slot of a new group is a chain below the slot that the new group is bound in. -/
theorem Sprouts.below {segment : String} (exists' : hook.group < workspace.size)
    (free : workspace.valueAt? hook = none)
    (sprouts : Sprouts (workspace.bindNewGroup hook.group hook.name) ⟨workspace.size, segment⟩ remaining after) :
    Sprouts workspace hook (segment :: remaining) after := by
  obtain ⟨made, found, reads, short⟩ := sprouts.chain
  have size := size_bindNewGroup workspace hook.group hook.name
  have kept (slot : Slot) (present : slot.group < workspace.size) :
      after.valueAt? slot = if hook = slot then some (.group workspace.size) else workspace.valueAt? slot := by
    rw [sprouts.kept slot (size.symm ▸ Nat.lt_succ_of_lt present), valueAt?_bindNewGroup exists']
    rintro rfl
    exact Nat.lt_irrefl _ present
  -- The new group has no members but the one that the chain goes on with.
  have inside (other : String) (different : segment ≠ other) : after.valueAt? ⟨workspace.size, other⟩ = none := by
    have outside : hook ≠ ⟨workspace.size, other⟩ := by
      rintro rfl
      exact Nat.lt_irrefl _ exists'
    rw [sprouts.kept _ (size.symm ▸ Nat.lt_succ_self _) (by simpa using different), valueAt?_bindNewGroup exists',
      if_neg outside, valueAt?, group_of_size_le (Nat.le_refl _)]
    rfl
  refine ⟨exists', free, ?_, ?_, .group workspace.size, ?_, ?_, ?_⟩
  · obtain ⟨store, rfl⟩ := sprouts.others
    exact ⟨store, rfl⟩
  · intro slot present different
    rw [kept slot present, if_neg different]
  · rw [kept hook exists', if_pos rfl]
  · exact (member?_of_valueAt? found remaining).trans reads
  · intro path longer
    cases path with
    | nil => simp at longer
    | cons other rest =>
        by_cases same : segment = other
        · subst same
          rw [member?_of_valueAt? found rest]
          exact short rest (by simpa using longer)
        · rw [member?_group_cons]
          change (after.valueAt? ⟨workspace.size, other⟩).bind _ = none
          rw [inside other same]
          rfl

/-- From a free slot on, a walk with creation makes all that remains of its path. -/
theorem sprouts_of_walkCreating (exists' : hook.group < workspace.size) (free : workspace.valueAt? hook = none) :
    ∃ after, walkCreating name walked (.group hook.group) (hook.name :: remaining) workspace = .ok .nil after ∧
      Sprouts workspace hook remaining after := by
  induction remaining generalizing workspace hook walked with
  | nil => exact ⟨_, walkCreating_of_missing_last free, sprouts_setMember exists' free⟩
  | cons segment rest ih =>
      have inside : (⟨workspace.size, segment⟩ : Slot).group < (workspace.bindNewGroup hook.group hook.name).size := by
        rw [size_bindNewGroup]
        exact Nat.lt_succ_self _
      have vacant : (workspace.bindNewGroup hook.group hook.name).valueAt? ⟨workspace.size, segment⟩ = none := by
        rw [valueAt?_bindNewGroup exists', if_neg, valueAt?, group_of_size_le (Nat.le_refl _)]
        · rfl
        · rintro rfl
          exact Nat.lt_irrefl _ exists'
      obtain ⟨after, made, sprouts⟩ := @ih _ (walked ++ [hook.name]) _ inside vacant
      exact ⟨after, (walkCreating_of_missing free (by simp)).trans made, sprouts.below exists' free⟩

/-- A walk with creation along a path that leads somewhere makes nothing. -/
theorem walkCreating_of_member? (reached : workspace.store.member? start path = some value) :
    walkCreating name walked start path workspace = .ok value workspace := by
  induction path generalizing start walked with
  | nil =>
      cases reached
      rw [walkCreating]
      rfl
  | cons segment rest ih =>
      obtain ⟨id, next, rfl, found, reached⟩ := step_of_member? reached
      rw [walkCreating_of_found found]
      exact ih reached

/-- A walk with creation makes nothing, or it comes to a free slot and makes a chain from there on. -/
theorem walkCreating_cases (members : ∀ slot id, workspace.valueAt? slot = some (.group id) → id < workspace.size)
    (exists' : ∀ id, start = .group id → id < workspace.size)
    (ended : walkCreating name walked start path workspace = .ok value after) :
    (after = workspace ∧ workspace.store.member? start path = some value) ∨
      ∃ front hook remaining, path = front ++ hook.name :: remaining ∧
        workspace.store.member? start front = some (.group hook.group) ∧ value = .nil ∧
        Sprouts workspace hook remaining after := by
  induction path generalizing start walked with
  | nil =>
      rw [walkCreating] at ended
      cases ended
      exact .inl ⟨rfl, rfl⟩
  | cons segment rest ih =>
      cases start with
      | group id =>
          cases found : (workspace.group id).get? segment with
          | none =>
              obtain ⟨last, made, sprouts⟩ := @sprouts_of_walkCreating _ name rest walked ⟨id, segment⟩
                (exists' id rfl) found
              rw [made] at ended
              cases ended
              exact .inr ⟨[], ⟨id, segment⟩, rest, rfl, rfl, rfl, sprouts⟩
          | some next =>
              have step (path : List String) := @member?_of_valueAt? workspace ⟨id, segment⟩ next found path
              rw [walkCreating_of_found found] at ended
              have inside : ∀ id, next = .group id → id < workspace.size := by
                rintro other rfl
                exact members ⟨id, segment⟩ other found
              rcases ih inside ended with ⟨same, reached⟩ | ⟨front, hook, remaining, rfl, reached, nothing, sprouts⟩
              · exact .inl ⟨same, (step rest).trans reached⟩
              · exact .inr ⟨segment :: front, hook, remaining, rfl, (step front).trans reached, nothing, sprouts⟩
      | _ => cases ended

/-! ### Resolving with creation -/

theorem resolveCreating_of_start (segments : segmentsOf name = first :: path)
    (looked : workspace.firstValue? scope first = some start) :
    resolveCreating scope name workspace =
      walkCreating name [first] start path (workspace.lookedUp scope first) := by
  rw [resolveCreating, segments]
  simp only [List.headD_cons, List.tail_cons]
  rw [bind_apply, lookupFirst_eq, looked]

/-- A name whose first segment is not found gets a path of its own in the local group. -/
theorem sprouts_of_resolveCreating (segments : segmentsOf name = first :: path)
    (exists' : scope.localGroup < workspace.size) (looked : workspace.firstValue? scope first = none)
    (free : workspace.valueAt? ⟨scope.localGroup, first⟩ = none) :
    ∃ after, resolveCreating scope name workspace = .ok .nil after ∧
      Sprouts (workspace.lookedUp scope first) ⟨scope.localGroup, first⟩ path after := by
  have here : (⟨scope.localGroup, first⟩ : Slot).group < (workspace.lookedUp scope first).size := by
    rw [size_lookedUp]
    exact exists'
  rw [← valueAt?_lookedUp workspace scope first] at free
  obtain ⟨after, made, sprouts⟩ := @sprouts_of_walkCreating _ name path [] _ here free
  refine ⟨after, ?_, sprouts⟩
  rw [← made, resolveCreating, segments]
  simp only [List.headD_cons, List.tail_cons]
  rw [bind_apply, lookupFirst_eq, looked]
  cases path with
  | nil => exact (walkCreating_of_missing_last free).symm
  | cons segment rest =>
      have more : (segment :: rest).isEmpty = false := rfl
      rw [walkCreating_of_missing free more]
      rfl

/-- Where a name resolves, resolving it with creation comes to the same. -/
theorem resolveCreating_of_resolve (resolved : resolve scope name workspace = .ok value after) :
    resolveCreating scope name workspace = .ok value after := by
  obtain ⟨first, path, segments⟩ := exists_segments name
  obtain ⟨found, rfl⟩ := (resolve_eq_ok_iff segments).mp resolved
  obtain ⟨start, looked, reached⟩ := Option.bind_eq_some_iff.mp found
  rw [resolveCreating_of_start segments looked]
  apply walkCreating_of_member?
  rw [store_lookedUp]
  exact reached

/-! ### The first segment afterwards -/

/-- A member was made where a name is searched, earlier than where it was found. -/
def Overtaken (before : Workspace) (scope : Scope) (name : String) (after : Workspace) : Prop :=
  (before.firstValue? scope name).isSome ∧ ∃ slot ∈ before.searchedSlots scope name,
    before.valueAt? slot = none ∧ (after.valueAt? slot).isSome

theorem Sprouts.settled (sprouts : Sprouts (workspace.lookedUp scope first) hook remaining after) :
    after.lookedUp scope first = after := by
  obtain ⟨store, rfl⟩ := sprouts.others
  exact lookedUp_again workspace scope first store

/-- A search that asks a slot finds what was put there, if nothing else that it asks has changed. -/
theorem findSome?_of_asked {groups : List GroupId} (asked : hook ∈ workspace.askedSlots name groups)
    (free : workspace.valueAt? hook = none) (found : after.valueAt? hook = some value)
    (kept : ∀ slot ∈ workspace.askedSlots name groups, hook ≠ slot → after.valueAt? slot = workspace.valueAt? slot) :
    groups.findSome? (fun id => (after.group id).get? name) = some value := by
  induction groups with
  | nil => cases asked
  | cons id groups ih =>
      by_cases here : hook = ⟨id, name⟩
      · subst here
        have bound : (after.group id).get? name = some value := found
        rw [List.findSome?_cons, bound]
      · rw [askedSlots, List.mem_cons] at asked
        obtain later := asked.resolve_left here
        have absent : (workspace.group id).has name = false := by
          by_contra held
          rw [if_pos (by simpa using held)] at later
          cases later
        rw [absent] at later
        have unchanged : (after.group id).get? name = (workspace.group id).get? name :=
          kept ⟨id, name⟩ List.mem_cons_self here
        rw [List.findSome?_cons, unchanged, Group.get?_eq_none_of_has absent]
        refine ih later fun slot member => kept slot ?_
        rw [askedSlots, absent]
        exact List.mem_cons_of_mem _ member

/-- A path that leads somewhere goes around the chain. -/
theorem Sprouts.member? {front : List String}
    (sprouts : Sprouts (workspace.lookedUp scope first) hook remaining after)
    (reached : workspace.store.member? start front = some value) :
    after.store.member? start front = some value := by
  rw [← reached]
  apply member?_congr
  intro slot passed
  obtain ⟨held, found⟩ := exists_valueAt?_of_passed reached passed
  have present := lt_size_of_valueAt? found
  rw [sprouts.kept slot _ _, valueAt?_lookedUp]
  · rwa [size_lookedUp]
  · rintro rfl
    have free := sprouts.free
    rw [valueAt?_lookedUp, found] at free
    cases free

section Sprouted

variable (grounded : Grounded scopes workspace) (member : scope ∈ scopes)
  (sprouts : Sprouts (workspace.lookedUp scope first) hook remaining after)

include grounded member sprouts

theorem kept_of_searched {slot : Slot} (searched : slot ∈ workspace.searchedSlots scope first) (different : hook ≠ slot) :
    after.valueAt? slot = workspace.valueAt? slot := by
  rw [sprouts.kept slot _ different, valueAt?_lookedUp]
  rw [size_lookedUp]
  rw [searchedSlots] at searched
  split at searched
  · cases searched
  · exact grounded.searched member _ (mem_askedSlots searched).1

theorem overtaken_iff : workspace.Overtaken scope first after ↔
    (workspace.firstValue? scope first).isSome ∧ hook ∈ workspace.searchedSlots scope first := by
  constructor
  · rintro ⟨found, slot, searched, free, bound⟩
    refine ⟨found, ?_⟩
    by_cases same : hook = slot
    · rw [same]
      exact searched
    · rw [kept_of_searched grounded member sprouts searched same, free] at bound
      cases bound
  · rintro ⟨found, searched⟩
    obtain ⟨made, bound, -⟩ := sprouts.chain
    refine ⟨found, hook, searched, ?_, ?_⟩
    · rw [← valueAt?_lookedUp workspace scope first]
      exact sprouts.free
    · rw [bound]
      rfl

/-- Beside the search, the first segment is found where it was. -/
theorem firstValue?_of_apart (apart : hook ∉ workspace.searchedSlots scope first) :
    after.firstValue? scope first = workspace.firstValue? scope first := by
  have agree (slot : Slot) (searched : slot ∈ workspace.searchedSlots scope first) :
      after.valueAt? slot = workspace.valueAt? slot := by
    apply kept_of_searched grounded member sprouts searched
    rintro rfl
    exact apart searched
  obtain ⟨store, rfl⟩ := sprouts.others
  exact firstValue?_congr agree

/-- Within the search, the first segment leads to the chain. -/
theorem firstValue?_of_searched {made : Value} (searched : hook ∈ workspace.searchedSlots scope first)
    (bound : after.valueAt? hook = some made) : after.firstValue? scope first = some made := by
  have kept := fun slot => @kept_of_searched _ _ _ _ _ _ _ grounded member sprouts slot
  have free : workspace.valueAt? hook = none := by
    rw [← valueAt?_lookedUp workspace scope first]
    exact sprouts.free
  obtain ⟨store, rfl⟩ := sprouts.others
  rw [searchedSlots] at searched kept
  split at searched
  · cases searched
  · rename_i notRoot
    rw [if_neg notRoot] at kept
    rw [firstValue?, if_neg notRoot, groups_refresh_lookedUp workspace scope notRoot]
    exact findSome?_of_asked searched free bound kept

end Sprouted

/-! ### Resolving once more -/

/-- How resolving a name goes after it was resolved with creation: it gives the same value, and neither it nor resolving
with creation changes anything, unless the first segment was overtaken; in that case it fails. -/
def Repeats (before : Workspace) (scope : Scope) (name first : String) (value : Value) (after : Workspace) : Prop :=
  (¬before.Overtaken scope first after ∧ resolve scope name after = .ok value after ∧
      resolveCreating scope name after = .ok value after) ∨
    (before.Overtaken scope first after ∧ resolve scope name after = .error (Error.unbound name) after)

theorem repeats_of_path (segments : segmentsOf name = first :: path) (settled : after.lookedUp scope first = after)
    (clear : ¬workspace.Overtaken scope first after) (looked : after.firstValue? scope first = some start)
    (reached : after.store.member? start path = some value) : workspace.Repeats scope name first value after := by
  have resolved : resolve scope name after = .ok value after := by
    rw [resolve_eq_ok_iff segments, settled, looked]
    exact ⟨reached, rfl⟩
  exact .inl ⟨clear, resolved, resolveCreating_of_resolve resolved⟩

/-- If everything was there, nothing is different the second time. -/
theorem repeats_of_found (segments : segmentsOf name = first :: path)
    (looked : workspace.firstValue? scope first = some start) (reached : workspace.store.member? start path = some value) :
    workspace.Repeats scope name first value (workspace.lookedUp scope first) := by
  have agree (slot : Slot) : (workspace.lookedUp scope first).valueAt? slot = workspace.valueAt? slot :=
    valueAt?_lookedUp workspace scope first slot
  have settled : (workspace.lookedUp scope first).lookedUp scope first = workspace.lookedUp scope first :=
    lookedUp_again workspace scope first (workspace.lookedUp scope first).store
  refine repeats_of_path segments settled ?_ ?_ ((store_lookedUp workspace scope first).symm ▸ reached)
  · rintro ⟨-, slot, -, free, bound⟩
    rw [agree slot, free] at bound
    cases bound
  · exact (firstValue?_congr fun slot _ => agree slot).trans looked

theorem repeats_of_below {front : List String} (grounded : Grounded scopes workspace) (member : scope ∈ scopes)
    (segments : segmentsOf name = first :: (front ++ hook.name :: remaining))
    (looked : workspace.firstValue? scope first = some start)
    (reached : workspace.store.member? start front = some (.group hook.group))
    (sprouts : Sprouts (workspace.lookedUp scope first) hook remaining after) :
    workspace.Repeats scope name first .nil after := by
  obtain ⟨made, bound, reads, short⟩ := sprouts.chain
  have overtaken := overtaken_iff grounded member sprouts
  by_cases searched : hook ∈ workspace.searchedSlots scope first
  · have shadowed := firstValue?_of_searched grounded member sprouts searched bound
    refine .inr ⟨overtaken.mpr ⟨looked ▸ rfl, searched⟩, ?_⟩
    -- The path is longer than the part of it that the chain was made for.
    have nowhere : (after.firstValue? scope first).bind
        (after.store.member? · (front ++ hook.name :: remaining)) = none := by
      rw [shadowed, Option.bind_some]
      apply short
      rw [List.length_append, List.length_cons]
      omega
    rw [resolve_eq_error segments nowhere, sprouts.settled]
  · have same := firstValue?_of_apart grounded member sprouts searched
    have reachedToo := sprouts.member? reached
    refine repeats_of_path segments sprouts.settled (fun claimed => searched (overtaken.mp claimed).2)
      (same.trans looked) ?_
    exact (member?_append reachedToo _).trans ((member?_of_valueAt? bound remaining).trans reads)

theorem repeats_of_fresh (coherent : workspace.Coherent scopes) (member : scope ∈ scopes)
    (segments : segmentsOf name = first :: path) (looked : workspace.firstValue? scope first = none)
    (sprouts : Sprouts (workspace.lookedUp scope first) ⟨scope.localGroup, first⟩ path after) :
    workspace.Repeats scope name first .nil after := by
  have notRoot : first ≠ rootName := by
    rintro rfl
    cases looked
  obtain ⟨made, bound, reads, -⟩ := sprouts.chain
  obtain ⟨store, rfl⟩ := sprouts.others
  have coherentAfter : { workspace.lookedUp scope first with store }.Coherent scopes :=
    (coherent.consulted member (consulted_lookedUp workspace scope first)).aside _ _ _ _ _ _ _
  have looked' := coherentAfter.firstValue?_of_local member notRoot bound
  refine repeats_of_path segments (lookedUp_again workspace scope first store) ?_ looked' reads
  rintro ⟨found, -⟩
  rw [looked] at found
  cases found

/-- A name that was resolved with creation resolves to the same value from then on, and resolving it with creation again
changes nothing at all.  The one exception is exact: a member was made under the name's first segment in a group that is
searched before the one where that segment had been found, and then the name does not resolve. -/
theorem resolve_after_resolveCreating {environment : Environment} (reachable : Reachable environment scopes workspace)
    (member : scope ∈ scopes) (grounded : Grounded scopes workspace)
    (resolved : resolveCreating scope name workspace = .ok value after) :
    (¬workspace.Overtaken scope ((segmentsOf name).headD "") after ∧ resolve scope name after = .ok value after ∧
        resolveCreating scope name after = .ok value after) ∨
      (workspace.Overtaken scope ((segmentsOf name).headD "") after ∧
        resolve scope name after = .error (Error.unbound name) after) := by
  obtain ⟨first, path, segments⟩ := exists_segments name
  rw [segments, List.headD_cons]
  have coherent := reachable.sound.toCoherent
  cases looked : workspace.firstValue? scope first with
  | none =>
      have free := coherent.absent_of_lookupFirst member (looked ▸ lookupFirst_eq scope first workspace)
      change (workspace.lookedUp scope first).valueAt? ⟨scope.localGroup, first⟩ = none at free
      rw [valueAt?_lookedUp] at free
      obtain ⟨last, made, sprouts⟩ := sprouts_of_resolveCreating segments (grounded.scopes scope member).1 looked free
      rw [made] at resolved
      cases resolved
      exact repeats_of_fresh coherent member segments looked sprouts
  | some start =>
      have size := size_lookedUp workspace scope first
      have members : ∀ slot id, (workspace.lookedUp scope first).valueAt? slot = some (.group id) →
          id < (workspace.lookedUp scope first).size := by
        intro slot id found
        rw [valueAt?_lookedUp] at found
        exact size.symm ▸ grounded.members slot id found
      have exists' : ∀ id, start = .group id → id < (workspace.lookedUp scope first).size := by
        rintro id rfl
        exact size.symm ▸ grounded.lt_size_of_firstValue? looked
      rw [resolveCreating_of_start segments looked] at resolved
      rcases walkCreating_cases members exists' resolved with
        ⟨rfl, reached⟩ | ⟨front, hook, remaining, rfl, reached, rfl, sprouts⟩
      · rw [store_lookedUp] at reached
        exact repeats_of_found segments looked reached
      · rw [store_lookedUp] at reached
        exact repeats_of_below grounded member segments looked reached sprouts

/-- From a scope whose local group is also a member of the root, one path is found again, and one that goes through its
first segment twice is overtaken by the group it makes. -/
theorem resolve_after_resolveCreating_shared :
    (∃ after, resolveCreating ⟨1, 4, 0⟩ "a.b.c" sharedWorkspace = .ok .nil after ∧
      resolve ⟨1, 4, 0⟩ "a.b.c" after = .ok .nil after ∧
      resolveCreating ⟨1, 4, 0⟩ "a.b.c" after = .ok .nil after) ∧
    ∃ after, resolveCreating ⟨1, 4, 0⟩ "a.a.b" sharedWorkspace = .ok .nil after ∧
      sharedWorkspace.Overtaken ⟨1, 4, 0⟩ "a" after ∧
      resolve ⟨1, 4, 0⟩ "a.a.b" after = .error (Error.unbound "a.a.b") after := by
  have reachable := tabled_sharedWorkspace.reachable {}
  have grounded := tabled_sharedWorkspace.grounded
  constructor
  · have resolved : resolveCreating ⟨1, 4, 0⟩ "a.b.c" sharedWorkspace =
        .ok .nil (((sharedWorkspace.refresh ⟨1, 4, 0⟩).bindNewGroup 4 "b").setMember 5 "c" .nil) := rfl
    rcases resolve_after_resolveCreating reachable (Set.mem_insert _ _) grounded resolved with
      ⟨-, read, readCreating⟩ | ⟨⟨-, slot, searched, free, bound⟩, -⟩
    · exact ⟨_, resolved, read, readCreating⟩
    · have clear : ∀ slot ∈ sharedWorkspace.searchedSlots ⟨1, 4, 0⟩ ((segmentsOf "a.b.c").headD ""),
          (sharedWorkspace.valueAt? slot).isNone → ((((sharedWorkspace.refresh ⟨1, 4, 0⟩).bindNewGroup 4
            "b").setMember 5 "c" .nil).valueAt? slot).isNone := by
        decide
      have unbound := clear slot searched (by rw [free]; rfl)
      rw [Option.isNone_iff_eq_none] at unbound
      rw [unbound] at bound
      cases bound
  · have resolved : resolveCreating ⟨1, 4, 0⟩ "a.a.b" sharedWorkspace =
        .ok .nil (((sharedWorkspace.refresh ⟨1, 4, 0⟩).bindNewGroup 4 "a").setMember 5 "b" .nil) := rfl
    rcases resolve_after_resolveCreating reachable (Set.mem_insert _ _) grounded resolved with
      ⟨clear, -⟩ | ⟨overtaken, unread⟩
    · exact absurd ⟨by decide, ⟨4, "a"⟩, by decide, rfl, by decide⟩ clear
    · exact ⟨_, resolved, overtaken, unread⟩

end GroupScript.Workspace
