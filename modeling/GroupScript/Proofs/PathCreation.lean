import GroupScript.Proofs.Grounding
import GroupScript.Proofs.PathWalking

/-!
# What a walk makes

A walk along a path goes through groups that exist for a while, and then makes the rest.  What it makes hangs on one
free slot of a group that exists: everything else is new.  So of the groups that exist only that slot changes, and the
groups that were made lead to the end of the path whatever is bound there.
-/

namespace GroupScript.Workspace

variable {workspace after : Workspace} {scope : Scope} {id last : GroupId} {segment child : String}
  {path rest : List String}

theorem member?_of_valueAt? {slot : Slot} {value : Value} (found : workspace.valueAt? slot = some value)
    (path : List String) :
    workspace.store.member? (.group slot.group) (slot.name :: path) = workspace.store.member? value path := by
  rw [member?_group_cons]
  change (workspace.valueAt? slot).bind _ = _
  rw [found]
  rfl

theorem valueAt?_setMember (workspace : Workspace) (slot other : Slot) (value : Value)
    (exists' : slot.group < workspace.size) :
    (workspace.setMember slot.group slot.name value).valueAt? other =
      if slot = other then some value else workspace.valueAt? other := by
  obtain ⟨id, name⟩ := slot
  obtain ⟨otherId, otherName⟩ := other
  rw [valueAt?, setMember, group_modifyGroup workspace id otherId _ exists', valueAt?]
  by_cases same : id = otherId
  · subst same
    rw [if_pos rfl, Group.get?_set]
    simp
  · rw [if_neg same, if_neg]
    exact fun equal => same (congrArg Slot.group equal)

theorem valueAt?_bindNewGroup {bound : Slot} (exists' : bound.group < workspace.size) (slot : Slot) :
    (workspace.bindNewGroup bound.group bound.name).valueAt? slot =
      if bound = slot then some (.group workspace.size) else workspace.valueAt? slot := by
  have inside : bound.group < (workspace.newGroup {}).2.size := by
    rw [size_newGroup]
    exact Nat.lt_succ_of_lt exists'
  rw [bindNewGroup, valueAt?_setMember _ bound slot _ inside]
  simp only [valueAt?, group_newGroup_empty]

/-! ### The part of a walk that makes groups -/

/-- A walk from a free slot of a group that exists makes a group for every segment. -/
structure Hangs (workspace : Workspace) (slot : Slot) (rest : List String) (last : GroupId) (after : Workspace) :
    Prop where
  exists' : slot.group < workspace.size
  free : workspace.valueAt? slot = none
  walked : traverse slot.group (slot.name :: rest) workspace = .ok last after

namespace Hangs

variable {slot : Slot}

/-- The walk goes on from the slot in the new group that the next segment names. -/
theorem next (hangs : Hangs workspace slot (segment :: rest) last after) :
    Hangs (workspace.bindNewGroup slot.group slot.name) ⟨workspace.size, segment⟩ rest last after where
  exists' := by
    rw [size_bindNewGroup]
    exact Nat.lt_succ_self _
  free := by
    rw [valueAt?, group_bindNewGroup, if_neg, group_of_size_le (Nat.le_refl _)]
    · rfl
    · exact fun same => absurd same.1 (Nat.ne_of_lt hangs.exists')
  walked := by
    rw [← hangs.walked]
    exact (traverse_of_missing hangs.free).symm

theorem ends (hangs : Hangs workspace slot [] last after) :
    last = workspace.size ∧ after = workspace.bindNewGroup slot.group slot.name := by
  have ended := hangs.walked
  rw [traverse_of_missing hangs.free] at ended
  cases ended
  exact ⟨rfl, rfl⟩

theorem valueAt?_bindNewGroup (hangs : Hangs workspace slot rest last after) (other : Slot) :
    (workspace.bindNewGroup slot.group slot.name).valueAt? other =
      if slot = other then some (.group workspace.size) else workspace.valueAt? other :=
  Workspace.valueAt?_bindNewGroup hangs.exists' other

theorem new (hangs : Hangs workspace slot rest last after) : workspace.size ≤ last ∧ last < after.size := by
  induction rest generalizing workspace slot with
  | nil =>
      obtain ⟨rfl, rfl⟩ := hangs.ends
      rw [size_bindNewGroup]
      exact ⟨Nat.le_refl _, Nat.lt_succ_self _⟩
  | cons segment rest ih =>
      obtain ⟨new, exists'⟩ := ih hangs.next
      rw [size_bindNewGroup] at new
      exact ⟨Nat.le_of_succ_le new, exists'⟩

theorem others (hangs : Hangs workspace slot rest last after) {other : Slot} (present : other.group < workspace.size) :
    after.valueAt? other = if slot = other then some (.group workspace.size) else workspace.valueAt? other := by
  induction rest generalizing workspace slot with
  | nil => rw [hangs.ends.2, hangs.valueAt?_bindNewGroup]
  | cons segment rest ih =>
      have presentToo : other.group < (workspace.bindNewGroup slot.group slot.name).size := by
        rw [size_bindNewGroup]
        exact Nat.lt_succ_of_lt present
      have apart : ⟨workspace.size, segment⟩ ≠ other := by
        rintro rfl
        exact Nat.lt_irrefl _ present
      rw [ih hangs.next presentToo, if_neg apart, hangs.valueAt?_bindNewGroup]

/-- The slot that a path hangs on is not the one at its end, which is in a new group. -/
theorem held (hangs : Hangs workspace slot rest last after) (child : String) (value : Value) :
    (after.setMember last child value).valueAt? slot = some (.group workspace.size) := by
  obtain ⟨new, exists'⟩ := hangs.new
  rw [valueAt?_setMember after ⟨last, child⟩ slot value exists', if_neg, hangs.others hangs.exists', if_pos rfl]
  rintro rfl
  exact absurd hangs.exists' (Nat.not_lt_of_le new)

/-- Whatever is bound at the end of a path is read from where the path hangs. -/
theorem reads (hangs : Hangs workspace slot rest last after) (child : String) (value : Value) :
    (after.setMember last child value).store.member? (.group slot.group) (slot.name :: rest ++ [child]) =
      some value := by
  rw [List.cons_append]
  induction rest generalizing workspace slot with
  | nil =>
      have ended : (after.setMember last child value).valueAt? ⟨last, child⟩ = some value := by
        rw [valueAt?_setMember after ⟨last, child⟩ _ value hangs.new.2, if_pos rfl]
      rw [member?_of_valueAt? (hangs.held child value), ← hangs.ends.1, List.nil_append, member?_of_valueAt? ended]
      rfl
  | cons segment rest ih =>
      rw [member?_of_valueAt? (hangs.held child value)]
      exact ih hangs.next

end Hangs

/-- A walk stays in the groups that exist, or it comes to a free slot and makes groups from there on. -/
theorem hangs_of_traverse (grounded : ∀ slot id, workspace.valueAt? slot = some (.group id) → id < workspace.size)
    (exists' : id < workspace.size) (ended : traverse id path workspace = .ok last after) :
    (after = workspace ∧ workspace.store.member? (.group id) path = some (.group last)) ∨
      ∃ front slot rest, path = front ++ slot.name :: rest ∧
        workspace.store.member? (.group id) front = some (.group slot.group) ∧
        Hangs workspace slot rest last after := by
  induction path generalizing id with
  | nil =>
      cases ended
      exact .inl ⟨rfl, rfl⟩
  | cons segment rest ih =>
      -- The first free slot is where the new groups hang; before it the walk has changed nothing.
      rcases step_of_traverse ended with ⟨missing, -⟩ | ⟨next, found, onward⟩
      · exact .inr ⟨[], ⟨id, segment⟩, rest, rfl, rfl, exists', missing, ended⟩
      · have step : ∀ path, workspace.store.member? (.group id) (segment :: path) = _ :=
          @member?_of_valueAt? workspace ⟨id, segment⟩ _ found
        rcases ih (grounded ⟨id, segment⟩ next found) onward with
          ⟨same, reached⟩ | ⟨front, slot, rest, rfl, reached, hangs⟩
        · exact .inl ⟨same, (step rest).trans reached⟩
        · exact .inr ⟨segment :: front, slot, rest, rfl, (step front).trans reached, hangs⟩

/-! ### Where a dotted name is bound -/

/-- Where the path of a dotted name ends: in a group that exists; in a group made below a group that exists; or in one
made below the local group, if its first segment is not found at all. -/
inductive Landing (workspace : Workspace) (scope : Scope) (first : String) (rest : List String) (last : GroupId) :
    Workspace → Prop
  | found {start : Value} : workspace.firstValue? scope first = some start →
      workspace.store.member? start rest = some (.group last) →
      Landing workspace scope first rest last (workspace.lookedUp scope first)
  | below {start : Value} {front remaining : List String} {hook : Slot} {after : Workspace} :
      workspace.firstValue? scope first = some start → rest = front ++ hook.name :: remaining →
      workspace.store.member? start front = some (.group hook.group) →
      Hangs (workspace.lookedUp scope first) hook remaining last after → Landing workspace scope first rest last after
  | fresh {after : Workspace} : workspace.firstValue? scope first = none →
      Hangs (workspace.lookedUp scope first) ⟨scope.localGroup, first⟩ rest last after →
      Landing workspace scope first rest last after

section Landing

variable {scopes : Set Scope} {name first : String} {slot : Slot} {value : Value}

theorem size_lookedUp (workspace : Workspace) (scope : Scope) (name : String) :
    (workspace.lookedUp scope name).size = workspace.size := by
  rw [size, store_lookedUp, size]

theorem valueAt?_lookedUp (workspace : Workspace) (scope : Scope) (name : String) (slot : Slot) :
    (workspace.lookedUp scope name).valueAt? slot = workspace.valueAt? slot := by
  rw [valueAt?, group, store_lookedUp]
  rfl

/-- What a name without dots leads to exists. -/
theorem Grounded.lt_size_of_firstValue? (grounded : Grounded scopes workspace)
    (looked : workspace.firstValue? scope name = some (.group id)) : id < workspace.size := by
  rcases source_of_lookupFirst (looked ▸ lookupFirst_eq scope name workspace) with same | ⟨owner, -, found⟩
  · cases same
    exact grounded.root
  · exact grounded.members ⟨owner, name⟩ id found

theorem Grounded.lt_size_of_member? {start : Value} (grounded : Grounded scopes workspace)
    (exists' : ∀ id, start = .group id → id < workspace.size)
    (reached : workspace.store.member? start path = some (.group id)) : id < workspace.size := by
  induction path generalizing start with
  | nil =>
      cases reached
      exact exists' id rfl
  | cons segment rest ih =>
      obtain ⟨owner, next, rfl, found, reached⟩ := step_of_member? reached
      refine ih ?_ reached
      rintro id rfl
      exact grounded.members ⟨owner, segment⟩ id found

/-- A name whose last segment is empty is not bound. -/
theorem named_of_bindingSlot (segments : segmentsOf name = path ++ [child])
    (bound : bindingSlot scope name none workspace = .ok slot after) : child ≠ "" := by
  rintro rfl
  have last : (segmentsOf name).getLastD "" = "" := by rw [segments, List.getLastD_concat]
  simp only [bindingSlot, last] at bound
  cases bound

theorem landing_of_bindingSlot (coherent : workspace.Coherent scopes) (member : scope ∈ scopes)
    (grounded : Grounded scopes workspace) (segments : segmentsOf name = first :: rest ++ [child])
    (bound : bindingSlot scope name none workspace = .ok slot after) :
    slot.name = child ∧ Landing workspace scope first rest slot.group after := by
  have named := named_of_bindingSlot segments bound
  have size := workspace.size_lookedUp scope first
  cases looked : workspace.firstValue? scope first with
  | none =>
      rw [(walks_of_missing segments named looked).1] at bound
      obtain ⟨last, _, ended, bound⟩ := bind_eq_ok bound
      cases bound
      have absent := coherent.absent_of_lookupFirst member (looked ▸ lookupFirst_eq scope first workspace)
      have hangs : Hangs (workspace.lookedUp scope first) ⟨scope.localGroup, first⟩ rest last after :=
        ⟨size.symm ▸ (grounded.scopes scope member).1, absent, (traverse_of_missing absent).trans ended⟩
      exact ⟨rfl, .fresh looked hangs⟩
  | some start =>
      cases leads : groupOf? start with
      | none =>
          rw [(walks_of_obstacle segments named looked leads).1] at bound
          cases bound
      | some id =>
          obtain rfl : start = .group id := eq_group_of_groupOf? leads
          rw [(walks_of_group segments named looked).1] at bound
          obtain ⟨last, _, ended, bound⟩ := bind_eq_ok bound
          cases bound
          have exists' : id < (workspace.lookedUp scope first).size :=
            size.symm ▸ grounded.lt_size_of_firstValue? looked
          have members : ∀ slot id, (workspace.lookedUp scope first).valueAt? slot = some (.group id) →
              id < (workspace.lookedUp scope first).size := by
            intro slot id found
            rw [valueAt?_lookedUp] at found
            exact size.symm ▸ grounded.members slot id found
          rcases hangs_of_traverse members exists' ended with
            ⟨rfl, reached⟩ | ⟨front, hook, remaining, split, reached, hangs⟩
          · rw [store_lookedUp] at reached
            exact ⟨rfl, .found looked reached⟩
          · rw [store_lookedUp] at reached
            exact ⟨rfl, .below looked split reached hangs⟩

theorem Landing.grows (landing : Landing workspace scope first rest last after) :
    Grows (workspace.lookedUp scope first) after := by
  cases landing with
  | found _ _ => exact .refl _
  | below _ _ _ hangs => exact grows_of_traverse hangs.walked
  | fresh _ hangs => exact grows_of_traverse hangs.walked

theorem Landing.exists' (landing : Landing workspace scope first rest last after)
    (grounded : Grounded scopes workspace) : last < after.size := by
  cases landing with
  | found looked reached =>
      rw [size_lookedUp]
      refine grounded.lt_size_of_member? ?_ reached
      rintro id rfl
      exact grounded.lt_size_of_firstValue? looked
  | below _ _ _ hangs => exact hangs.new.2
  | fresh _ hangs => exact hangs.new.2

end Landing

end GroupScript.Workspace
