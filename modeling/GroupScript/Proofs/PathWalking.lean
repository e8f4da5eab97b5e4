import GroupScript.Proofs.Reachability
import GroupScript.Proofs.Segments

/-!
# Walking along paths

Binding a dotted name and resolving it with creation each follow its path by a function of its own: one looks for the
group that the last segment is bound in, the other for the value of the last segment.  They go the same way.  Where a
segment leads to something that is not a group both stop, and neither has changed a group by then, because a walk that
has made a group meets nothing but groups from there on.
-/

namespace GroupScript

/-- A path leads from a value to something that is not a group, at its end or before. -/
def Store.Obstructed (store : Store) (start : Value) (path : List String) : Prop :=
  ∃ front value, front <+: path ∧ store.member? start front = some value ∧ Workspace.groupOf? value = none

namespace Workspace

/-! ### Making groups on the way -/

/-- A new group, bound in a slot. -/
def bindNewGroup (workspace : Workspace) (id : GroupId) (name : String) : Workspace :=
  (workspace.newGroup {}).2.setMember id name (.group workspace.size)

/-- Nothing happened but that new groups were bound in slots that were free. -/
structure Grows (before after : Workspace) : Prop where
  others : ∃ store, after = { before with store }
  size : before.size ≤ after.size
  kept : ∀ slot value, before.valueAt? slot = some value → after.valueAt? slot = some value
  added : ∀ slot, before.valueAt? slot = none →
    after.valueAt? slot = none ∨ ∃ id, before.size ≤ id ∧ id < after.size ∧ after.valueAt? slot = some (.group id)
  constants : ∀ slot, after.isConstantAt slot = before.isConstantAt slot
  guarded : ∀ id, (after.group id).isProtected = (before.group id).isProtected

variable {workspace before between after : Workspace} {scope : Scope} {id last : GroupId} {segment name : String}
  {path : List String}

theorem Grows.refl (workspace : Workspace) : Grows workspace workspace where
  others := ⟨workspace.store, rfl⟩
  size := Nat.le_refl _
  kept := fun _ _ found => found
  added := fun _ free => .inl free
  constants := fun _ => rfl
  guarded := fun _ => rfl

theorem Grows.trans (earlier : Grows before between) (later : Grows between after) : Grows before after where
  others := by
    obtain ⟨middle, rfl⟩ := earlier.others
    obtain ⟨store, rfl⟩ := later.others
    exact ⟨store, rfl⟩
  size := Nat.le_trans earlier.size later.size
  kept := fun slot value found => later.kept slot value (earlier.kept slot value found)
  added := by
    intro slot free
    rcases earlier.added slot free with still | ⟨id, new, exists', found⟩
    · rcases later.added slot still with stillFree | ⟨id, new, exists', found⟩
      · exact .inl stillFree
      · exact .inr ⟨id, Nat.le_trans earlier.size new, exists', found⟩
    · exact .inr ⟨id, new, Nat.lt_of_lt_of_le exists' later.size, later.kept slot _ found⟩
  constants := fun slot => (later.constants slot).trans (earlier.constants slot)
  guarded := fun id => (later.guarded id).trans (earlier.guarded id)

theorem group_newGroup_empty (workspace : Workspace) (id : GroupId) :
    (workspace.newGroup {}).2.group id = workspace.group id := by
  rw [group_newGroup]
  split
  · rename_i same
    rw [same, group_of_size_le (Nat.le_refl _)]
  · rfl

/-- A new group is bound in its slot, unless there is no group that the slot could be in. -/
theorem group_bindNewGroup (workspace : Workspace) (id : GroupId) (name : String) (other : GroupId) :
    (workspace.bindNewGroup id name).group other =
      if id = other ∧ id ≤ workspace.size then (workspace.group other).set name (.group workspace.size)
      else workspace.group other := by
  have size := size_newGroup workspace {}
  by_cases present : id ≤ workspace.size
  · have exists' : id < (workspace.newGroup {}).2.size := size ▸ Nat.lt_succ_of_le present
    rw [bindNewGroup, setMember, group_modifyGroup _ _ _ _ exists', group_newGroup_empty]
    simp only [present, and_true]
  · have absent : (workspace.newGroup {}).2.size ≤ id := size ▸ Nat.lt_of_not_le present
    rw [bindNewGroup, setMember, modifyGroup_of_size_le _ absent, group_newGroup_empty, if_neg]
    exact fun both => present both.2

@[simp]
theorem size_bindNewGroup (workspace : Workspace) (id : GroupId) (name : String) :
    (workspace.bindNewGroup id name).size = workspace.size + 1 := by
  rw [bindNewGroup, size_setMember, size_newGroup]

theorem Grows.bindNewGroup (free : (workspace.group id).get? name = none) :
    Grows workspace (workspace.bindNewGroup id name) where
  others := ⟨_, rfl⟩
  size := by
    rw [size_bindNewGroup]
    exact Nat.le_succ _
  kept := by
    intro slot value found
    rw [valueAt?, group_bindNewGroup]
    split
    · rename_i same
      rw [Group.get?_set, if_neg]
      · exact found
      · rintro rfl
        rw [valueAt?, ← same.1, free] at found
        cases found
    · exact found
  added := by
    intro slot absent
    rw [valueAt?, group_bindNewGroup]
    split
    · rw [Group.get?_set]
      split
      · exact .inr ⟨workspace.size, Nat.le_refl _, (size_bindNewGroup ..).symm ▸ Nat.lt_succ_self _, rfl⟩
      · exact .inl absent
    · exact .inl absent
  constants := by
    intro slot
    rw [isConstantAt, group_bindNewGroup]
    split
    · exact Group.isConstant_set _ _ _ _
    · rfl
  guarded := by
    intro other
    rw [group_bindNewGroup]
    split <;> rfl

/-- All that is in a new group, if anything is, is the group itself. -/
theorem loops_bindNewGroup (workspace : Workspace) (id : GroupId) (name : String) :
    ∀ member value, ((workspace.bindNewGroup id name).group workspace.size).get? member = some value →
      value = .group workspace.size := by
  intro member value found
  rw [group_bindNewGroup, group_of_size_le (Nat.le_refl _)] at found
  split at found
  · rw [Group.get?_set] at found
    split at found
    · cases found
      rfl
    · cases found
  · cases found

/-! ### Steps of the two walks -/

theorem eq_group_of_groupOf? {value : Value} (leads : groupOf? value = some id) : value = .group id := by
  cases value <;> cases leads
  rfl

section Steps

variable {rest walked : List String} {value : Value}

theorem traverse_of_group {next : GroupId} (found : (workspace.group id).get? segment = some (.group next)) :
    traverse id (segment :: rest) workspace = traverse next rest workspace := by
  rw [traverse, get_bind_apply, found]

theorem traverse_of_missing (missing : (workspace.group id).get? segment = none) :
    traverse id (segment :: rest) workspace = traverse workspace.size rest (workspace.bindNewGroup id segment) := by
  rw [traverse, get_bind_apply, missing]
  rfl

theorem traverse_of_obstacle (found : (workspace.group id).get? segment = some value)
    (obstacle : groupOf? value = none) :
    traverse id (segment :: rest) workspace = .error (.invalidTarget (.notGroup segment value.kind)) workspace := by
  rw [traverse, get_bind_apply, found]
  cases value with
  | group next => cases obstacle
  | _ => rfl

/-- A walk that ends makes a group where the first segment is missing, or follows the group that it leads to. -/
theorem step_of_traverse (ended : traverse id (segment :: rest) workspace = .ok last after) :
    ((workspace.group id).get? segment = none ∧
        traverse workspace.size rest (workspace.bindNewGroup id segment) = .ok last after) ∨
      ∃ next, (workspace.group id).get? segment = some (.group next) ∧ traverse next rest workspace = .ok last after := by
  cases found : (workspace.group id).get? segment with
  | none =>
      rw [traverse_of_missing found] at ended
      exact .inl ⟨rfl, ended⟩
  | some value =>
      cases leads : groupOf? value with
      | none =>
          rw [traverse_of_obstacle found leads] at ended
          cases ended
      | some next =>
          obtain rfl : value = .group next := eq_group_of_groupOf? leads
          rw [traverse_of_group found] at ended
          exact .inr ⟨next, rfl, ended⟩

theorem walkCreating_of_found (found : (workspace.group id).get? segment = some value) :
    walkCreating name walked (.group id) (segment :: rest) workspace =
      walkCreating name (walked ++ [segment]) value rest workspace := by
  rw [walkCreating, get_bind_apply, found]

theorem walkCreating_of_missing (missing : (workspace.group id).get? segment = none) (more : rest.isEmpty = false) :
    walkCreating name walked (.group id) (segment :: rest) workspace =
      walkCreating name (walked ++ [segment]) (.group workspace.size) rest (workspace.bindNewGroup id segment) := by
  rw [walkCreating, get_bind_apply, missing, more]
  rfl

theorem walkCreating_of_missing_last (missing : (workspace.group id).get? segment = none) :
    walkCreating name walked (.group id) [segment] workspace = .ok .nil (workspace.setMember id segment .nil) := by
  rw [walkCreating, get_bind_apply, missing]
  rfl

theorem walkCreating_of_obstacle (obstacle : groupOf? value = none) :
    walkCreating name walked value (segment :: rest) workspace =
      .error (.invalidTarget (.cannotCreate name (Text.joinStrings "." walked))) workspace := by
  cases value with
  | group next => cases obstacle
  | _ => rfl

end Steps

/-! ### The two walks -/

theorem member?_group_cons (workspace : Workspace) (id : GroupId) (segment : String) (rest : List String) :
    workspace.store.member? (.group id) (segment :: rest) =
      ((workspace.group id).get? segment).bind (workspace.store.member? · rest) :=
  rfl

/-- A path that leads somewhere starts in a group, and its first segment is a member of that group. -/
theorem step_of_member? {start value : Value} {rest : List String}
    (reached : workspace.store.member? start (segment :: rest) = some value) :
    ∃ id next, start = .group id ∧ (workspace.group id).get? segment = some next ∧
      workspace.store.member? next rest = some value := by
  cases start with
  | group id =>
      rw [member?_group_cons] at reached
      obtain ⟨next, found, reached⟩ := Option.bind_eq_some_iff.mp reached
      exact ⟨id, next, rfl, found, reached⟩
  | _ => cases reached

/-- From a group whose members lead nowhere but to itself, a walk meets no obstacle.  A new group is such a group. -/
theorem traverse_of_loops (loops : ∀ name value, (workspace.group id).get? name = some value → value = .group id) :
    ∃ last after, traverse id path workspace = .ok last after := by
  induction path generalizing workspace id with
  | nil => exact ⟨id, workspace, rfl⟩
  | cons segment rest ih =>
      cases found : (workspace.group id).get? segment with
      | some value =>
          obtain rfl := loops segment value found
          rw [traverse_of_group found]
          exact ih loops
      | none =>
          rw [traverse_of_missing found]
          apply ih
          exact loops_bindNewGroup workspace id segment

/-- A walk to bind in fails at an obstacle only, and by then it has changed nothing. -/
theorem obstructed_of_traverse {error : Error} (failed : traverse id path workspace = .error error after) :
    after = workspace ∧ (∃ fault, error = .invalidTarget fault) ∧ workspace.store.Obstructed (.group id) path := by
  induction path generalizing id with
  | nil => cases failed
  | cons segment rest ih =>
      cases found : (workspace.group id).get? segment with
      | none =>
          -- From the group that is made here no walk fails, so the failure came before anything was made.
          rw [traverse_of_missing found] at failed
          obtain ⟨last, ended, succeeded⟩ := traverse_of_loops (loops_bindNewGroup workspace id segment)
          rw [succeeded] at failed
          cases failed
      | some value =>
          cases leads : groupOf? value with
          | none =>
              rw [traverse_of_obstacle found leads] at failed
              cases failed
              refine ⟨rfl, ⟨_, rfl⟩, [segment], value, by simp, ?_, leads⟩
              rw [member?_group_cons, found]
              rfl
          | some next =>
              obtain rfl : value = .group next := eq_group_of_groupOf? leads
              rw [traverse_of_group found] at failed
              obtain ⟨same, kind, front, value, before, reached, obstacle⟩ := ih failed
              refine ⟨same, kind, segment :: front, value, (List.prefix_cons_inj segment).mpr before, ?_, obstacle⟩
              rw [member?_group_cons, found]
              exact reached

theorem traverse_of_obstructed (obstructed : workspace.store.Obstructed (.group id) path) :
    ∃ error, traverse id path workspace = .error error workspace := by
  induction path generalizing id with
  | nil =>
      obtain ⟨front, value, before, reached, obstacle⟩ := obstructed
      rw [List.prefix_nil.mp before] at reached
      cases reached
      cases obstacle
  | cons segment rest ih =>
      obtain ⟨front, value, before, reached, obstacle⟩ := obstructed
      cases front with
      | nil =>
          cases reached
          cases obstacle
      | cons first front =>
          obtain ⟨rfl, shorter⟩ := List.cons_prefix_cons.mp before
          rw [member?_group_cons] at reached
          obtain ⟨next, found, reached⟩ := Option.bind_eq_some_iff.mp reached
          cases leads : groupOf? next with
          | none => exact ⟨_, traverse_of_obstacle found leads⟩
          | some id =>
              obtain rfl : next = .group id := eq_group_of_groupOf? leads
              rw [traverse_of_group found]
              exact ih ⟨front, value, shorter, reached, obstacle⟩

theorem grows_of_traverse (ended : traverse id path workspace = .ok last after) : Grows workspace after := by
  induction path generalizing id workspace with
  | nil =>
      cases ended
      exact .refl _
  | cons segment rest ih =>
      rcases step_of_traverse ended with ⟨missing, ended⟩ | ⟨next, -, ended⟩
      · exact (Grows.bindNewGroup missing).trans (ih ended)
      · exact ih ended

/-- What resolving with creation does at the slot that a path ends in: it gives the value in the slot, or else it binds
the slot to nothing. -/
def Settles (slot : Slot) (after : Workspace) (result : EStateM.Result Error Workspace Value) : Prop :=
  (∃ value, after.valueAt? slot = some value ∧ result = .ok value after) ∨
    (after.valueAt? slot = none ∧ result = .ok .nil (after.setMember slot.group slot.name .nil))

/-- Where a walk to bind in ends, the walk with creation takes one step more. -/
theorem settles_of_traverse {child : String} (walked : List String)
    (ended : traverse id path workspace = .ok last after) :
    Settles ⟨last, child⟩ after (walkCreating name walked (.group id) (path ++ [child]) workspace) := by
  induction path generalizing id workspace walked with
  | nil =>
      cases ended
      rw [List.nil_append]
      cases found : (after.group last).get? child with
      | none =>
          exact .inr ⟨found, walkCreating_of_missing_last found⟩
      | some value =>
          exact .inl ⟨value, found, walkCreating_of_found found⟩
  | cons segment rest ih =>
      rw [List.cons_append]
      rcases step_of_traverse ended with ⟨missing, ended⟩ | ⟨next, found, ended⟩
      · rw [walkCreating_of_missing missing (by simp)]
        exact ih _ ended
      · rw [walkCreating_of_found found]
        exact ih _ ended

theorem walkCreating_of_obstructed {start : Value} {child : String} (walked : List String)
    (obstructed : workspace.store.Obstructed start path) :
    ∃ fault, walkCreating name walked start (path ++ [child]) workspace = .error (.invalidTarget fault) workspace := by
  obtain ⟨front, value, before, reached, obstacle⟩ := obstructed
  induction front generalizing start path walked with
  | nil =>
      cases reached
      obtain ⟨second, others, split⟩ : ∃ second others, path ++ [child] = second :: others :=
        List.exists_cons_of_ne_nil (by simp)
      rw [split]
      exact ⟨_, walkCreating_of_obstacle obstacle⟩
  | cons segment front ih =>
      obtain ⟨rest, rfl⟩ := before
      obtain ⟨id, next, rfl, found, reached⟩ := step_of_member? reached
      rw [List.append_assoc, List.cons_append, walkCreating_of_found found, ← List.append_assoc]
      exact ih _ (List.prefix_append front rest) reached

/-! ### Binding and resolving dotted names -/

/-- The value that a name without dots leads to from a scope. -/
def firstValue? (workspace : Workspace) (scope : Scope) (name : String) : Option Value :=
  if name = rootName then some (.group workspace.root)
  else (workspace.refresh scope).cache.groups.findSome? fun id => (workspace.group id).get? name

/-- The workspace after a name without dots was looked up. -/
def lookedUp (workspace : Workspace) (scope : Scope) (name : String) : Workspace :=
  if name = rootName then workspace else workspace.refresh scope

theorem lookupFirst_eq (scope : Scope) (name : String) (workspace : Workspace) :
    lookupFirst scope name workspace = .ok (workspace.firstValue? scope name) (workspace.lookedUp scope name) := by
  rw [lookupFirst_apply, firstValue?, lookedUp]
  split <;> rfl

@[simp]
theorem store_lookedUp (workspace : Workspace) (scope : Scope) (name : String) :
    (workspace.lookedUp scope name).store = workspace.store := by
  rw [lookedUp]
  split
  · rfl
  · exact refresh_store workspace scope

theorem cache_refresh (workspace : Workspace) (scope : Scope) :
    (workspace.refresh scope).cache.version = (workspace.refresh scope).version ∧
      (workspace.refresh scope).cache.scope = scope.id := by
  unfold refresh
  split
  · assumption
  · exact ⟨rfl, rfl⟩

/-- Looking up a name again changes nothing, whatever became of the groups since. -/
theorem lookedUp_again (workspace : Workspace) (scope : Scope) (name : String) (store : Store) :
    { workspace.lookedUp scope name with store }.lookedUp scope name = { workspace.lookedUp scope name with store } := by
  rw [lookedUp]
  split
  · rfl
  · rename_i notRoot
    rw [lookedUp, if_neg notRoot, refresh, if_pos (cache_refresh workspace scope)]

theorem resolve_eq_ok_iff {first : String} {rest : List String} {value : Value}
    (segments : segmentsOf name = first :: rest) :
    resolve scope name workspace = .ok value after ↔
      (workspace.firstValue? scope first).bind (workspace.store.member? · rest) = some value ∧
        after = workspace.lookedUp scope first := by
  rw [resolve_of_lookupFirst (lookupFirst_eq scope _ workspace), segments, List.tail_cons, List.headD_cons,
    store_lookedUp]
  cases (workspace.firstValue? scope first).bind (workspace.store.member? · rest) with
  | none => simp
  | some found => simp [eq_comm]

theorem resolve_eq_error {first : String} {rest : List String} (segments : segmentsOf name = first :: rest)
    (missing : (workspace.firstValue? scope first).bind (workspace.store.member? · rest) = none) :
    resolve scope name workspace = .error (Error.unbound name) (workspace.lookedUp scope first) := by
  rw [resolve_of_lookupFirst (lookupFirst_eq scope _ workspace), segments, List.tail_cons, List.headD_cons,
    store_lookedUp, missing]

/-- Some of the segments of a name before its last one lead to something that is not a group. -/
def Obstructed (workspace : Workspace) (scope : Scope) (name : String) : Prop :=
  ∃ front value after, front ≠ [] ∧ front <+: (segmentsOf name).dropLast ∧
    resolve scope (Text.joinStrings "." front) workspace = .ok value after ∧ groupOf? value = none

section Dotted

variable {first child : String} {rest : List String} (segments : segmentsOf name = first :: rest ++ [child])

include segments

theorem obstructed_iff :
    workspace.Obstructed scope name ↔
      ∃ start, workspace.firstValue? scope first = some start ∧ workspace.store.Obstructed start rest := by
  have parents : (segmentsOf name).dropLast = first :: rest := by rw [segments, List.dropLast_concat]
  have resolved {front remaining : List String} {value : Value} {last : Workspace} (split : front ++ remaining = rest) :
      resolve scope (Text.joinStrings "." (first :: front)) workspace = .ok value last ↔
        (workspace.firstValue? scope first).bind (workspace.store.member? · front) = some value ∧
          last = workspace.lookedUp scope first := by
    apply resolve_eq_ok_iff
    have whole : segmentsOf name = first :: front ++ (remaining ++ [child]) := by rw [segments, ← split]; simp
    exact segmentsOf_joinStrings whole
  rw [Obstructed, parents]
  constructor
  · rintro ⟨front, value, last, nonempty, before, found, obstacle⟩
    cases front with
    | nil => exact absurd rfl nonempty
    | cons head front =>
        obtain ⟨rfl, remaining, split⟩ := List.cons_prefix_cons.mp before
        obtain ⟨start, looked, reached⟩ := Option.bind_eq_some_iff.mp ((resolved split).mp found).1
        exact ⟨start, looked, front, value, ⟨remaining, split⟩, reached, obstacle⟩
  · rintro ⟨start, looked, front, value, ⟨remaining, split⟩, reached, obstacle⟩
    refine ⟨first :: front, value, workspace.lookedUp scope first, List.cons_ne_nil _ _, ?_, ?_, obstacle⟩
    · exact (List.prefix_cons_inj first).mpr ⟨remaining, split⟩
    · exact (resolved split).mpr ⟨by rw [looked]; exact reached, rfl⟩

/-- To bind a dotted name, its first segment is looked up and the others before the last are walked along. -/
theorem bindingSlot_dotted (named : child ≠ "") :
    bindingSlot scope name none = (do
      let head ← bindingHead scope name first
      return ⟨← traverse head rest, child⟩) := by
  have last : (segmentsOf name).getLastD "" = child := by rw [segments, List.getLastD_concat]
  have parents : (segmentsOf name).dropLast = first :: rest := by rw [segments, List.dropLast_concat]
  have nonempty : child.isEmpty = false := by simpa using named
  simp only [bindingSlot, last, parents, nonempty]
  rfl

/-- A dotted name is bound and resolved from the group that its first segment leads to. -/
theorem walks_of_group (named : child ≠ "") (looked : workspace.firstValue? scope first = some (.group id)) :
    bindingSlot scope name none workspace =
        (do return ⟨← traverse id rest, child⟩ : Access Slot) (workspace.lookedUp scope first) ∧
      resolveCreating scope name workspace =
        walkCreating name [first] (.group id) (rest ++ [child]) (workspace.lookedUp scope first) := by
  constructor
  · rw [bindingSlot_dotted segments named, bindingHead, bind_apply, bind_apply, lookupFirst_eq, looked]
    rfl
  · rw [resolveCreating, segments]
    simp only [List.cons_append, List.headD_cons, List.tail_cons]
    rw [bind_apply, lookupFirst_eq, looked]

theorem walks_of_missing (named : child ≠ "") (looked : workspace.firstValue? scope first = none) :
    bindingSlot scope name none workspace =
        (do return ⟨← traverse (workspace.lookedUp scope first).size rest, child⟩ : Access Slot)
          ((workspace.lookedUp scope first).bindNewGroup scope.localGroup first) ∧
      resolveCreating scope name workspace =
        walkCreating name [first] (.group (workspace.lookedUp scope first).size) (rest ++ [child])
          ((workspace.lookedUp scope first).bindNewGroup scope.localGroup first) := by
  have more : (rest ++ [child]).isEmpty = false := by simp
  constructor
  · rw [bindingSlot_dotted segments named, bindingHead, bind_apply, bind_apply, lookupFirst_eq, looked]
    rfl
  · rw [resolveCreating, segments]
    simp only [List.cons_append, List.headD_cons, List.tail_cons, more]
    rw [bind_apply, lookupFirst_eq, looked]
    rfl

theorem walks_of_obstacle {start : Value} (named : child ≠ "")
    (looked : workspace.firstValue? scope first = some start) (obstacle : groupOf? start = none) :
    bindingSlot scope name none workspace =
        .error (.invalidTarget (.cannotBind name first start.kind)) (workspace.lookedUp scope first) ∧
      resolveCreating scope name workspace =
        walkCreating name [first] start (rest ++ [child]) (workspace.lookedUp scope first) := by
  constructor
  · rw [bindingSlot_dotted segments named, bindingHead, bind_apply, bind_apply, lookupFirst_eq, looked]
    cases start with
    | group id => cases obstacle
    | _ => rfl
  · rw [resolveCreating, segments]
    simp only [List.cons_append, List.headD_cons, List.tail_cons]
    rw [bind_apply, lookupFirst_eq, looked]

end Dotted

theorem consulted_lookedUp (workspace : Workspace) (scope : Scope) (name : String) :
    Consulted scope workspace (workspace.lookedUp scope name) := by
  rw [lookedUp]
  split
  · exact .refl scope workspace
  · exact consulted_refresh scope workspace

/-- A name without dots is its only segment, and one with dots has segments before its last one. -/
theorem segmentsOf_cases (name : String) :
    ('.' ∉ name.toList ∧ segmentsOf name = [name]) ∨
      ('.' ∈ name.toList ∧ ∃ first rest child, segmentsOf name = first :: rest ++ [child]) := by
  by_cases dotted : '.' ∈ name.toList
  · refine .inr ⟨dotted, ?_⟩
    obtain ⟨piece, pieces, parts⟩ := Text.exists_pieces '.' name.toList
    rcases List.eq_nil_or_concat pieces with rfl | ⟨front, last, rfl⟩
    · -- A single piece is the whole name, but pieces have no dots.
      have joined := Text.joinWith_pieces '.' name.toList
      rw [parts, Text.joinWith] at joined
      have inside : piece ∈ Text.pieces ['.'] name.toList := parts ▸ List.mem_cons_self
      exact absurd (joined ▸ dotted) (Text.not_mem_of_mem_pieces inside)
    · refine ⟨.ofList piece, front.map .ofList, .ofList last, ?_⟩
      rw [segmentsOf, Text.partsAt, parts]
      simp
  · exact .inl ⟨dotted, segmentsOf_of_not_mem dotted⟩

theorem exists_segments (name : String) : ∃ first path, segmentsOf name = first :: path := by
  obtain ⟨-, single⟩ | ⟨-, first, rest, child, segments⟩ := segmentsOf_cases name
  · exact ⟨name, [], single⟩
  · exact ⟨first, rest ++ [child], segments⟩

theorem settles_of_walks {start : Workspace} {walked rest : List String} {child : String}
    (binds : bindingSlot scope name none workspace = (do return ⟨← traverse id rest, child⟩ : Access Slot) start)
    (resolves : resolveCreating scope name workspace = walkCreating name walked (.group id) (rest ++ [child]) start)
    (ended : traverse id rest start = .ok last after) :
    bindingSlot scope name none workspace = .ok ⟨last, child⟩ after ∧
      Settles ⟨last, child⟩ after (resolveCreating scope name workspace) := by
  constructor
  · rw [binds, bind_apply, ended]
    rfl
  · rw [resolves]
    exact settles_of_traverse walked ended

/-- Binding a dotted name and resolving it with creation walk the same path.  If some segments before the last lead to
something that is not a group, both fail and no group changes.  Otherwise both make the same groups, and what is
resolved is the value in the slot to bind; if that slot is free, it is bound to nothing. -/
theorem resolveCreating_settles_bindingSlot {environment : Environment} {scopes : Set Scope}
    (reachable : Reachable environment scopes workspace) (member : scope ∈ scopes) (dotted : '.' ∈ name.toList)
    (named : (segmentsOf name).getLastD "" ≠ "") :
    (¬workspace.Obstructed scope name ∧
      ∃ slot looked after, workspace.Consulted scope looked ∧ Grows looked after ∧
        bindingSlot scope name none workspace = .ok slot after ∧ slot.name = (segmentsOf name).getLastD "" ∧
        Settles slot after (resolveCreating scope name workspace)) ∨
    (workspace.Obstructed scope name ∧
      ∃ bindFault resolveFault after, workspace.Consulted scope after ∧
        bindingSlot scope name none workspace = .error (.invalidTarget bindFault) after ∧
        resolveCreating scope name workspace = .error (.invalidTarget resolveFault) after) := by
  obtain ⟨clean, -⟩ | ⟨-, first, rest, child, segments⟩ := segmentsOf_cases name
  · exact absurd dotted clean
  have last : (segmentsOf name).getLastD "" = child := by rw [segments, List.getLastD_concat]
  rw [last] at named ⊢
  rw [obstructed_iff segments, ← workspace.store_lookedUp scope first]
  have consulted := workspace.consulted_lookedUp scope first
  cases looked : workspace.firstValue? scope first with
  | none =>
      obtain ⟨binds, resolves⟩ := walks_of_missing segments named looked
      have free : ((workspace.lookedUp scope first).group scope.localGroup).get? first = none :=
        reachable.sound.absent_of_lookupFirst member (looked ▸ lookupFirst_eq scope first workspace)
      obtain ⟨last, after, ended⟩ := traverse_of_loops (loops_bindNewGroup _ scope.localGroup first)
      obtain ⟨bound, settles⟩ := settles_of_walks binds resolves ended
      have grows := (Grows.bindNewGroup free).trans (grows_of_traverse ended)
      exact .inl ⟨by simp, ⟨last, child⟩, _, after, consulted, grows, bound, rfl, settles⟩
  | some start =>
      cases leads : groupOf? start with
      | none =>
          obtain ⟨binds, resolves⟩ := walks_of_obstacle segments named looked leads
          have obstructed : (workspace.lookedUp scope first).store.Obstructed start rest :=
            ⟨[], start, List.nil_prefix, rfl, leads⟩
          obtain ⟨fault, failed⟩ := walkCreating_of_obstructed [first] obstructed
          exact .inr ⟨⟨start, rfl, obstructed⟩, _, fault, _, consulted, binds, resolves.trans failed⟩
      | some id =>
          obtain rfl : start = .group id := eq_group_of_groupOf? leads
          obtain ⟨binds, resolves⟩ := walks_of_group segments named looked
          cases ended : traverse id rest (workspace.lookedUp scope first) with
          | ok last after =>
              obtain ⟨bound, settles⟩ := settles_of_walks binds resolves ended
              refine .inl ⟨?_, ⟨last, child⟩, _, after, consulted, grows_of_traverse ended, bound, rfl, settles⟩
              rintro ⟨_, ⟨⟩, obstructed⟩
              obtain ⟨error, failed⟩ := traverse_of_obstructed obstructed
              rw [failed] at ended
              cases ended
          | error error after =>
              obtain ⟨rfl, ⟨fault, rfl⟩, obstructed⟩ := obstructed_of_traverse ended
              obtain ⟨otherFault, failed⟩ := walkCreating_of_obstructed [first] obstructed
              refine .inr ⟨⟨_, rfl, obstructed⟩, fault, otherFault, _, consulted, ?_, resolves.trans failed⟩
              rw [binds, bind_apply, ended]

/-- A local group that is a member of itself and has a number besides. -/
def cyclicWorkspace : Workspace :=
  (((Workspace.empty.newGroup {}).2.setMember 4 "a" (.group 4)).setMember 4 "n" (.int 1)).newScope 4 0 |>.2

theorem reachable_cyclicWorkspace : Reachable {} (insert ⟨1, 4, 0⟩ ∅) cyclicWorkspace :=
  .scope 4 0 (.mutate (((Workspace.empty.newGroup {}).2.setMember 4 "a" (.group 4)).setMember 4 "n" (.int 1)).store
    .start (by decide))

/-- A path that goes through a group twice makes the same two groups in both ways, and one through a number fails in
both. -/
theorem resolveCreating_settles_bindingSlot_cyclic :
    (∃ after, bindingSlot ⟨1, 4, 0⟩ "a.a.b.c.d" none cyclicWorkspace = .ok ⟨6, "d"⟩ after ∧
      Settles ⟨6, "d"⟩ after (resolveCreating ⟨1, 4, 0⟩ "a.a.b.c.d" cyclicWorkspace)) ∧
    ∃ fault after, resolveCreating ⟨1, 4, 0⟩ "a.n.b" cyclicWorkspace = .error (.invalidTarget fault) after ∧
      cyclicWorkspace.Consulted ⟨1, 4, 0⟩ after := by
  constructor
  · obtain ⟨after, bound⟩ :
        ∃ after, bindingSlot ⟨1, 4, 0⟩ "a.a.b.c.d" none cyclicWorkspace = .ok ⟨6, "d"⟩ after := ⟨_, rfl⟩
    obtain ⟨-, _, _, _, -, -, found, -, settles⟩ | ⟨-, _, _, _, -, failed, -⟩ :=
      resolveCreating_settles_bindingSlot reachable_cyclicWorkspace (Set.mem_insert _ _)
        (by decide : '.' ∈ "a.a.b.c.d".toList) (by decide)
    · rw [bound] at found
      cases found
      exact ⟨after, bound, settles⟩
    · rw [bound] at failed
      cases failed
  · have failed : ∃ error after, bindingSlot ⟨1, 4, 0⟩ "a.n.b" none cyclicWorkspace = .error error after :=
      ⟨_, _, rfl⟩
    obtain ⟨error, after, failed⟩ := failed
    obtain ⟨-, _, _, _, -, -, found, -⟩ | ⟨-, _, fault, last, consulted, -, fails⟩ :=
      resolveCreating_settles_bindingSlot reachable_cyclicWorkspace (Set.mem_insert _ _)
        (by decide : '.' ∈ "a.n.b".toList) (by decide)
    · rw [failed] at found
      cases found
    · exact ⟨fault, last, fails, consulted⟩

end Workspace

end GroupScript
