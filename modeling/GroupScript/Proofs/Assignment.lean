import GroupScript.Proofs.ElementReplacement
import GroupScript.Proofs.ReadAfterWrite

/-!
# Assignments

An assignment evaluates the indices of its target and the value, finds the slot that the target's name is bound in, and
writes there.  One that replaces an element writes nothing but this slot, and makes no groups: in a group that was made
on the way to the slot there is no list to replace an element of.  One that fails has written nothing, but groups that
were missing on the path of its target may have been made by then.
-/

namespace GroupScript

namespace Workspace

variable {workspace after : Workspace} {scope : Scope} {scopes : Set Scope} {id last : GroupId} {slot : Slot}
  {name first child : String} {path rest : List String}

/-! ### Groups made on the way to a slot -/

/-- A group without constants, in which there is nothing but, at most, the group itself. -/
structure Barren (workspace : Workspace) (id : GroupId) : Prop where
  loops : ∀ name value, (workspace.group id).get? name = some value → value = .group id
  free : ∀ name, (workspace.group id).isConstant name = false

theorem barren_bindNewGroup (workspace : Workspace) (id : GroupId) (name : String) :
    (workspace.bindNewGroup id name).Barren workspace.size where
  loops := loops_bindNewGroup workspace id name
  free := by
    intro member
    rw [group_bindNewGroup, group_of_size_le (Nat.le_refl _)]
    split
    · rw [Group.isConstant_set]
      rfl
    · rfl

theorem Barren.of_traverse (barren : workspace.Barren id) (ended : traverse id path workspace = .ok last after) :
    after.Barren last := by
  induction path generalizing workspace id with
  | nil =>
      cases ended
      exact barren
  | cons segment rest ih =>
      cases found : (workspace.group id).get? segment with
      | none =>
          rw [traverse_of_missing found] at ended
          exact ih (barren_bindNewGroup workspace id segment) ended
      | some value =>
          obtain rfl := barren.loops segment value found
          rw [traverse_of_group found] at ended
          exact ih barren ended

/-- New groups were bound under names of a list, one inside the other, and no slot changed but the ones that lead to
them.  At most one of these slots was there before. -/
structure Makes (before : Workspace) (names : List String) (after : Workspace) : Prop where
  made : before.size < after.size
  count : after.size ≤ before.size + names.length
  named : ∀ other : Slot, other.name ∉ names → after.valueAt? other = before.valueAt? other
  hook : ∃ hook : Slot, ∀ other : Slot, other ≠ hook → other.group < before.size →
    after.valueAt? other = before.valueAt? other

theorem Makes.cons (makes : Makes workspace path after) (name : String) : Makes workspace (name :: path) after where
  made := makes.made
  count := by
    have count := makes.count
    rw [List.length_cons]
    omega
  named := fun other apart => makes.named other (List.ne_and_not_mem_of_not_mem_cons apart).2
  hook := makes.hook

theorem valueAt?_bindNewGroup_of_ne {other : Slot} (apart : other ≠ ⟨id, name⟩) :
    (workspace.bindNewGroup id name).valueAt? other = workspace.valueAt? other := by
  rw [valueAt?, group_bindNewGroup, valueAt?]
  split
  · rename_i same
    rw [Group.get?_set, if_neg]
    rintro rfl
    exact apart (by rw [same.1])
  · rfl

theorem size_of_traverse (ended : traverse id path workspace = .ok last after) :
    after.size ≤ workspace.size + path.length := by
  induction path generalizing workspace id with
  | nil =>
      cases ended
      simp
  | cons segment rest ih =>
      rcases step_of_traverse ended with ⟨-, ended⟩ | ⟨next, -, ended⟩
      · have count := ih ended
        simp only [size_bindNewGroup, List.length_cons] at count ⊢
        omega
      · have count := ih ended
        rw [List.length_cons]
        omega

/-- A walk from a group that was just made changes no slots but those of such groups, under names on its path. -/
theorem Barren.valueAt?_of_traverse {other : Slot} {bound : Nat} (barren : workspace.Barren id) (new : bound ≤ id)
    (grown : bound ≤ workspace.size) (apart : other.group < bound ∨ other.name ∉ path)
    (ended : traverse id path workspace = .ok last after) : after.valueAt? other = workspace.valueAt? other := by
  induction path generalizing workspace id with
  | nil =>
      cases ended
      rfl
  | cons segment rest ih =>
      have apartRest : other.group < bound ∨ other.name ∉ rest :=
        apart.imp_right fun outside => (List.ne_and_not_mem_of_not_mem_cons outside).2
      cases found : (workspace.group id).get? segment with
      | none =>
          rw [traverse_of_missing found] at ended
          have size := size_bindNewGroup workspace id segment
          rw [ih (barren_bindNewGroup workspace id segment) grown (by omega) apartRest ended]
          apply valueAt?_bindNewGroup_of_ne
          rintro rfl
          rcases apart with old | outside
          · exact absurd old (Nat.not_lt.mpr new)
          · exact outside List.mem_cons_self
      | some value =>
          obtain rfl := barren.loops segment value found
          rw [traverse_of_group found] at ended
          exact ih barren new grown apartRest ended

theorem makes_of_traverse {segment : String}
    (ended : traverse workspace.size path (workspace.bindNewGroup id segment) = .ok last after) :
    Makes workspace (segment :: path) after := by
  have barren := barren_bindNewGroup workspace id segment
  have size := size_bindNewGroup workspace id segment
  have grows := (grows_of_traverse ended).size
  have count := size_of_traverse ended
  refine ⟨by omega, ?_, ?_, ⟨id, segment⟩, ?_⟩
  · rw [List.length_cons]
    omega
  · intro other apart
    obtain ⟨apartFirst, apartRest⟩ := List.ne_and_not_mem_of_not_mem_cons apart
    rw [barren.valueAt?_of_traverse (Nat.le_refl _) (by omega) (.inr apartRest) ended]
    apply valueAt?_bindNewGroup_of_ne
    rintro rfl
    exact apartFirst rfl
  · intro other apart present
    rw [barren.valueAt?_of_traverse (Nat.le_refl _) (by omega) (.inl present) ended]
    exact valueAt?_bindNewGroup_of_ne apart

/-- A walk finds its way, or else it misses a group and ends in one that was just made. -/
theorem traverse_cases (ended : traverse id path workspace = .ok last after) :
    after = workspace ∨
      workspace.store.member? (.group id) path = none ∧ Makes workspace path after ∧ after.Barren last := by
  induction path generalizing id with
  | nil =>
      cases ended
      exact .inl rfl
  | cons segment rest ih =>
      rcases step_of_traverse ended with ⟨missing, ended⟩ | ⟨next, found, ended⟩
      · refine .inr ⟨?_, makes_of_traverse ended, (barren_bindNewGroup workspace id segment).of_traverse ended⟩
        rw [member?_group_cons, missing]
        rfl
      · rw [member?_group_cons, found]
        rcases ih ended with same | ⟨missing, makes, barren⟩
        · exact .inl same
        · exact .inr ⟨missing, makes.cons segment, barren⟩

/-! ### The slot of a target -/

/-- Nothing happened but that groups that were missing before the last segment of an unresolved name were made, and
bound in slots that were free. -/
structure Paved (workspace : Workspace) (scope : Scope) (name : String) (after : Workspace) : Prop where
  unresolved : ∃ last, resolve scope name workspace = .error (Error.unbound name) last
  grows : ∃ looked, workspace.Consulted scope looked ∧ Grows looked after
  makes : Makes workspace (segmentsOf name).dropLast after

/-- The walk that finds the slot of a dotted name. -/
theorem walk_of_bindingSlot (segments : segmentsOf name = first :: rest ++ [child])
    (bound : bindingSlot scope name none workspace = .ok slot after) :
    slot.name = child ∧
      ((∃ head, workspace.firstValue? scope first = some (.group head) ∧
        traverse head rest (workspace.lookedUp scope first) = .ok slot.group after) ∨
      (workspace.firstValue? scope first = none ∧
        traverse workspace.size rest ((workspace.lookedUp scope first).bindNewGroup scope.localGroup first) =
          .ok slot.group after)) := by
  have named := named_of_bindingSlot segments bound
  cases looked : workspace.firstValue? scope first with
  | none =>
      rw [(walks_of_missing segments named looked).1, size_lookedUp] at bound
      obtain ⟨last, _, ended, bound⟩ := bind_eq_ok bound
      cases bound
      exact ⟨rfl, .inr ⟨rfl, ended⟩⟩
  | some start =>
      cases leads : groupOf? start with
      | none =>
          rw [(walks_of_obstacle segments named looked leads).1] at bound
          cases bound
      | some id =>
          obtain rfl : start = .group id := eq_group_of_groupOf? leads
          rw [(walks_of_group segments named looked).1] at bound
          obtain ⟨last, _, ended, bound⟩ := bind_eq_ok bound
          cases bound
          exact ⟨rfl, .inl ⟨id, rfl, ended⟩⟩

/-- The slot to bind was there to be looked up, or else it is in a group that was just made. -/
theorem consulted_or_barren_of_bindingSlot (bound : bindingSlot scope name none workspace = .ok slot after) :
    workspace.Consulted scope after ∨ after.Barren slot.group := by
  obtain ⟨-, single⟩ | ⟨-, first, rest, child, segments⟩ := segmentsOf_cases name
  · obtain ⟨-, rfl⟩ := bindingSlot_single single bound
    exact .inl (.refl scope _)
  · obtain ⟨-, ⟨head, -, ended⟩ | ⟨-, ended⟩⟩ := walk_of_bindingSlot segments bound
    · rcases traverse_cases ended with rfl | ⟨-, -, barren⟩
      · exact .inl (workspace.consulted_lookedUp scope first)
      · exact .inr barren
    · have barren := barren_bindNewGroup (workspace.lookedUp scope first) scope.localGroup first
      rw [size_lookedUp] at barren
      exact .inr (barren.of_traverse ended)

theorem Makes.of_lookedUp (makes : Makes (workspace.lookedUp scope name) path after) : Makes workspace path after := by
  obtain ⟨made, count, named, hook⟩ := makes
  simp only [size_lookedUp, valueAt?_lookedUp] at made count named hook
  exact ⟨made, count, named, hook⟩

theorem consulted_or_paved_of_bindingSlot (coherent : workspace.Coherent scopes) (member : scope ∈ scopes)
    (bound : bindingSlot scope name none workspace = .ok slot after) :
    workspace.Consulted scope after ∨ '.' ∈ name.toList ∧ workspace.Paved scope name after := by
  obtain ⟨-, single⟩ | ⟨dotted, first, rest, child, segments⟩ := segmentsOf_cases name
  · obtain ⟨-, rfl⟩ := bindingSlot_single single bound
    exact .inl (.refl scope _)
  have consulted := workspace.consulted_lookedUp scope first
  have parents : (segmentsOf name).dropLast = first :: rest := by rw [segments, List.dropLast_concat]
  have whole : segmentsOf name = first :: (rest ++ [child]) := segments
  obtain ⟨-, ⟨head, looked, ended⟩ | ⟨looked, ended⟩⟩ := walk_of_bindingSlot segments bound
  · rcases traverse_cases ended with rfl | ⟨missing, makes, -⟩
    · exact .inl consulted
    · refine .inr ⟨dotted, ⟨_, resolve_eq_error whole ?_⟩, ⟨_, consulted, grows_of_traverse ended⟩, ?_⟩
      · rw [store_lookedUp] at missing
        rw [looked, Option.bind_some, Store.member?_append, missing, Option.bind_none]
      · rw [parents]
        exact (makes.cons first).of_lookedUp
  · have absent := coherent.absent_of_lookupFirst member (looked ▸ lookupFirst_eq scope first workspace)
    have grows := (Grows.bindNewGroup absent).trans (grows_of_traverse ended)
    rw [← workspace.size_lookedUp scope first] at ended
    refine .inr ⟨dotted, ⟨_, resolve_eq_error whole ?_⟩, ⟨_, consulted, grows⟩, ?_⟩
    · rw [looked, Option.bind_none]
    · rw [parents]
      exact (makes_of_traverse ended).of_lookedUp

/-- A name that cannot be bound has only been looked up. -/
theorem consulted_of_bindingSlot_error {error : Error}
    (failed : bindingSlot scope name none workspace = .error error after) : workspace.Consulted scope after := by
  by_cases named : (segmentsOf name).getLastD "" = ""
  · simp only [bindingSlot, named] at failed
    cases failed
    exact .refl scope _
  obtain ⟨-, single⟩ | ⟨-, first, rest, child, segments⟩ := segmentsOf_cases name
  · have last : [name].getLastD "" = name := rfl
    rw [single, last] at named
    have nonempty : name.isEmpty = false := by simpa using named
    simp only [bindingSlot, single, last, List.dropLast_singleton, nonempty] at failed
    cases failed
  rw [segments, List.getLastD_concat] at named
  have consulted := workspace.consulted_lookedUp scope first
  cases looked : workspace.firstValue? scope first with
  | none =>
      rw [(walks_of_missing segments named looked).1] at failed
      obtain ⟨last, ended, walked⟩ :=
        @traverse_of_loops _ _ rest (loops_bindNewGroup (workspace.lookedUp scope first) scope.localGroup first)
      rw [bind_apply, walked] at failed
      cases failed
  | some start =>
      cases leads : groupOf? start with
      | none =>
          rw [(walks_of_obstacle segments named looked leads).1] at failed
          cases failed
          exact consulted
      | some id =>
          obtain rfl : start = .group id := eq_group_of_groupOf? leads
          rw [(walks_of_group segments named looked).1] at failed
          rcases bind_eq_error failed with stopped | ⟨_, _, -, impossible⟩
          · obtain ⟨rfl, -⟩ := obstructed_of_traverse stopped
            exact consulted
          · cases impossible

theorem requireAssignable_apply (slot : Slot) (name : String) (workspace : Workspace) :
    requireAssignable slot name workspace =
      if workspace.isConstantAt slot then .error (.invalidTarget (.constantAssigned name)) workspace
      else .ok () workspace := by
  rw [requireAssignable, get_bind_apply, isConstantAt]
  split <;> rfl

/-! ### Replacing an element in a slot -/

/-- A value was put at the end of a path of indices into the lists that a slot holds.  This slot holds new lists that
agree with the old ones beside the path; no other slot, constant or protection changed, and nothing was made. -/
structure Replaces (slot : Slot) (indices : List Value) (value : Value) (before after : Workspace) : Prop where
  held : ∃ stored updated, before.valueAt? slot = some stored ∧ after.valueAt? slot = some updated ∧
    after.store.elementAt updated indices = .ok value ∧ after.store.AgreesBeside indices stored updated
  others : ∀ other, other ≠ slot → after.valueAt? other = before.valueAt? other
  constants : ∀ other, after.isConstantAt other = before.isConstantAt other
  guarded : ∀ id, (after.group id).isProtected = (before.group id).isProtected
  size : after.size = before.size
  procedures : after.store.procedures = before.store.procedures
  definitions : after.store.definitions = before.store.definitions

theorem replaces_setMember {indices : List Value} {value stored updated : Value}
    (found : workspace.valueAt? slot = some stored) (replaced : Value.replaceAt value indices stored = .ok updated) :
    Replaces slot indices value workspace (workspace.setMember slot.group slot.name updated) := by
  have exists' : slot.group < workspace.size := lt_size_of_valueAt? found
  have binds := BindsOnly.of_grows (.refl workspace) exists' updated
  refine ⟨⟨stored, updated, found, binds.written, ?_, ?_⟩, ?_, binds.constants, binds.guarded, ?_, rfl, rfl⟩
  · exact Store.elementAt_of_replaceAt replaced
  · exact Store.agreesBeside_of_replaceAt replaced
  · intro other apart
    rw [valueAt?_setMember workspace slot other updated exists', if_neg apart.symm]
  · rw [size_setMember]

theorem Replaces.of_consulted {before : Workspace} {indices : List Value} {value : Value}
    (consulted : before.Consulted scope workspace) (replaces : Replaces slot indices value workspace after) :
    Replaces slot indices value before after := by
  obtain ⟨cache, output, log, rfl, -⟩ := consulted
  obtain ⟨held, others, constants, guarded, size, procedures, definitions⟩ := replaces
  exact ⟨held, others, constants, guarded, size, procedures, definitions⟩

end Workspace

open Workspace (Replaces Paved)

namespace Interpreter

variable {scope : Scope} {target : Target} {indices : List Value} {value : Value} {before after : Workspace}

/-- Evaluates the indices of a target and then the value to assign. -/
def operands (evaluate : Code → Action Value) (target : Target) (code : Code) : Action (List Value × Value) := do
  let indices ← evaluateAll evaluate target.path.flatten
  let value ← evaluate code
  return (indices, value)

theorem assign_eq (evaluate : Code → Action Value) (scope : Scope) (target : Target) (code : Code) :
    assign evaluate scope target code =
      operands evaluate target code >>= fun found => assignValue scope target found.1 found.2 := by
  simp only [assign, operands, bind_assoc, pure_bind]
  rfl

/-- An assignment evaluates its operands and then writes. -/
theorem execute_assign (environment : Environment) (levels : Nat) (target : Target) (code : Code) (scope : Scope) :
    (ofLevels environment levels).execute (.assign target code) scope =
      (operands (fun code => (ofLevels environment levels).evaluate code scope) target code >>= fun found =>
        assignValue scope target found.1 found.2 >>= fun _ => pure .normal) := by
  cases levels with
  | zero =>
      funext before
      cases codes : target.path.flatten with
      | nil =>
          simp only [operands, codes]
          rfl
      | cons index rest =>
          simp only [operands, codes]
          rfl
  | succ levels =>
      have opened : (ofLevels environment (levels + 1)).execute (.assign target code) scope =
          (assign (fun code => (ofLevels environment (levels + 1)).evaluate code scope) scope target code >>=
            fun _ => pure .normal) := rfl
      rw [opened, assign_eq, bind_assoc]

theorem length_of_evaluateAll {evaluate : Code → Action Value} {codes : List Code} {values : List Value}
    (evaluated : evaluateAll evaluate codes before = .ok values after) : values.length = codes.length := by
  induction codes generalizing before values with
  | nil =>
      cases evaluated
      rfl
  | cons code codes ih =>
      obtain ⟨first, between, -, evaluated⟩ := bind_eq_ok evaluated
      obtain ⟨rest, between, found, evaluated⟩ := bind_eq_ok evaluated
      cases evaluated
      simp [ih found]

/-- Replacing an element fails and changes nothing, or else writes one slot. -/
theorem assignInto_cases (slot : Slot) (name : String) (value : Value) (workspace : Workspace) (indexed : indices ≠ []) :
    (∃ error, assignInto slot name indices value workspace = .error (.failure error) workspace) ∨
      ∃ stored updated, workspace.valueAt? slot = some stored ∧ Value.replaceAt value indices stored = .ok updated ∧
        assignInto slot name indices value workspace =
          .ok () (workspace.setMember slot.group slot.name updated) := by
  generalize ran : assignInto slot name indices value workspace = result
  rw [assignInto, if_neg (by simpa using indexed)] at ran
  change EStateM.bind get _ workspace = result at ran
  dsimp only [EStateM.bind, get, getThe, MonadStateOf.get, EStateM.get] at ran
  cases found : (workspace.group slot.group).get? slot.name with
  | none =>
      rw [found] at ran
      exact .inl ⟨_, ran.symm⟩
  | some stored =>
      rw [found] at ran
      by_cases defined : ∃ id, stored = .defined id
      · obtain ⟨id, rfl⟩ := defined
        exact .inl ⟨_, ran.symm⟩
      · have plain : (ofResult (Value.replaceAt value indices stored) >>= fun updated =>
            modify (·.setMember slot.group slot.name updated) : Action Unit) workspace = result := by
          cases stored with
          | defined id => exact absurd ⟨id, rfl⟩ defined
          | _ => exact ran
        rw [bind_apply] at plain
        cases replaced : Value.replaceAt value indices stored with
        | error error =>
            rw [replaced] at plain
            exact .inl ⟨error, plain.symm⟩
        | ok updated =>
            rw [replaced] at plain
            exact .inr ⟨stored, updated, found, replaced, plain.symm⟩

theorem assignValue_of_slot {slot : Slot} {between : Workspace}
    (bound : Workspace.bindingSlot scope target.name none before = .ok slot between) :
    assignValue scope target indices value before =
      if between.isConstantAt slot then .error (.failure (.invalidTarget (.constantAssigned target.name))) between
      else assignInto slot target.name indices value between := by
  rw [assignValue, bind_apply, Action.ofAccess, bound]
  dsimp only
  rw [bind_apply, Action.ofAccess, Workspace.requireAssignable_apply]
  by_cases constant : between.isConstantAt slot = true
  · rw [if_pos constant, if_pos constant]
  · rw [if_neg constant, if_neg constant]

theorem assignValue_of_error {error : Error}
    (failed : Workspace.bindingSlot scope target.name none before = .error error after) :
    assignValue scope target indices value before = .error (.failure error) after := by
  rw [assignValue, bind_apply, Action.ofAccess, failed]

/-- An assignment with indices that succeeds changes nothing after the evaluation of its operands but the slot of its
target, and there nothing but the element that its indices lead to. -/
theorem replaces_of_execute_assign {environment : Environment} {levels : Nat} {code : Code} {signal : Signal}
    (indexed : target.path.flatten ≠ [])
    (done : (ofLevels environment levels).execute (.assign target code) scope before = .ok signal after) :
    ∃ indices value evaluated slot between,
      operands (fun code => (ofLevels environment levels).evaluate code scope) target code before =
        .ok (indices, value) evaluated ∧
      Workspace.bindingSlot scope target.name none evaluated = .ok slot between ∧
      indices.length = target.path.flatten.length ∧ Replaces slot indices value evaluated after := by
  rw [execute_assign] at done
  obtain ⟨⟨indices, value⟩, evaluated, found, done⟩ := bind_eq_ok done
  obtain ⟨_, _, written, done⟩ := bind_eq_ok done
  cases done
  have length : indices.length = target.path.flatten.length := by
    obtain ⟨_, _, all, found⟩ := bind_eq_ok found
    obtain ⟨_, _, -, found⟩ := bind_eq_ok found
    cases found
    exact length_of_evaluateAll all
  have nonempty : indices ≠ [] := by
    rintro rfl
    exact indexed (List.eq_nil_of_length_eq_zero length.symm)
  cases bound : Workspace.bindingSlot scope target.name none evaluated with
  | error error last =>
      rw [assignValue_of_error bound] at written
      cases written
  | ok slot between =>
      refine ⟨indices, value, evaluated, slot, between, found, bound, length, ?_⟩
      rw [assignValue_of_slot bound] at written
      split at written
      · cases written
      obtain ⟨error, failed⟩ | ⟨stored, updated, held, replaced, wrote⟩ :=
        assignInto_cases slot target.name value between nonempty
      · rw [failed] at written
        cases written
      rw [wrote] at written
      cases written
      obtain ⟨index, rest, rfl⟩ := List.exists_cons_of_ne_nil nonempty
      rcases Workspace.consulted_or_barren_of_bindingSlot bound with consulted | barren
      · exact (Workspace.replaces_setMember held replaced).of_consulted consulted
      · -- In a group that was just made there is no list.
        obtain ⟨items, _, _, rfl, -⟩ := Value.replaceAt_cons_eq_ok_iff.mp replaced
        cases barren.loops slot.name _ held

/-- Code that gives a constant. -/
def constantly (value : Value) : Code :=
  ⟨[.push value], ""⟩

/-- A list with a list in it. -/
def nestedList : Value :=
  .list [.int 1, .list [.int 2, .int 3]]

/-- A local group that is a member of itself and has two names for that list. -/
def nestedWorkspace : Workspace :=
  ((((Workspace.empty.newGroup {}).2.setMember 4 "a" (.group 4)).setMember 4 "l" nestedList).setMember 4 "m"
    nestedList).newScope 4 0 |>.2

/-- Assigning to `a.l[-1][0]` replaces the inner element, and the other name keeps the old list. -/
theorem replaces_of_execute_assign_nested :
    ∃ after, (ofLevels {} 1).execute (.assign ⟨"a.l", [[constantly (.int (-1))], [constantly (.int 0)]]⟩
        (constantly (.int 9))) ⟨1, 4, 0⟩ nestedWorkspace = .ok .normal after ∧
      Replaces ⟨4, "l"⟩ [.int (-1), .int 0] (.int 9) nestedWorkspace after := by
  obtain ⟨after, done⟩ : ∃ after, (ofLevels {} 1).execute (.assign ⟨"a.l", [[constantly (.int (-1))],
      [constantly (.int 0)]]⟩ (constantly (.int 9))) ⟨1, 4, 0⟩ nestedWorkspace = .ok .normal after := ⟨_, rfl⟩
  refine ⟨after, done, ?_⟩
  obtain ⟨indices, value, evaluated, slot, between, found, bound, -, replaces⟩ :=
    replaces_of_execute_assign (by simp) done
  cases found
  cases bound
  exact replaces

/-- The operands of an assignment leave the kept search path sound. -/
theorem sound_of_operands {environment : Environment} {scopes : Set Scope} {levels : Nat} {code : Code}
    (sound : Sound scopes before) (member : scope ∈ scopes)
    (found : operands (fun code => (ofLevels environment levels).evaluate code scope) target code before =
      .ok (indices, value) after) : Sound scopes after := by
  have evaluates (code : Code) : (steadily scopes ∅).Keeps _ _ :=
    ((steadies_ofLevels environment levels).evaluates code member).keeps
  have all (codes : List Code) : (steadily scopes ∅).Keeps
      (evaluateAll (fun code => (ofLevels environment levels).evaluate code scope) codes) fun _ => True := by
    induction codes with
    | nil => exact .pure trivial
    | cons code codes ih => exact .bind (evaluates code) fun _ _ => .bind ih fun _ _ => .pure trivial
  have keeps : (steadily scopes ∅).Keeps
      (operands (fun code => (ofLevels environment levels).evaluate code scope) target code) fun _ => True :=
    .bind (all _) fun _ _ => .bind (evaluates code) fun _ _ => .pure trivial
  exact (keeps.ok sound found).1

/-- An assignment that fails after its operands were evaluated leaves all groups as they were then, unless its target is
an indexed dotted name that does not resolve: then the groups that were missing on the path have been made. -/
theorem groups_of_execute_assign_error {environment : Environment} {scopes : Set Scope} {levels : Nat} {code : Code}
    {evaluated : Workspace} {error : Error} (sound : Sound scopes before) (member : scope ∈ scopes)
    (found : operands (fun code => (ofLevels environment levels).evaluate code scope) target code before =
      .ok (indices, value) evaluated)
    (failed : (ofLevels environment levels).execute (.assign target code) scope before =
      .error (.failure error) after) :
    after.store = evaluated.store ∨
      indices ≠ [] ∧ '.' ∈ target.name.toList ∧ Paved evaluated scope target.name after := by
  have coherent := (sound_of_operands sound member found).toCoherent
  rw [execute_assign, bind_apply, found] at failed
  have unwritten : assignValue scope target indices value evaluated = .error (.failure error) after := by
    rcases bind_eq_error failed with failed | ⟨_, _, -, impossible⟩
    · exact failed
    · cases impossible
  have unchanged (consulted : evaluated.Consulted scope after) : after.store = evaluated.store := by
    obtain ⟨cache, output, log, rfl, -⟩ := consulted
    rfl
  cases bound : Workspace.bindingSlot scope target.name none evaluated with
  | error fault last =>
      rw [assignValue_of_error bound] at unwritten
      cases unwritten
      exact .inl (unchanged (Workspace.consulted_of_bindingSlot_error bound))
  | ok slot between =>
      rw [assignValue_of_slot bound] at unwritten
      split at unwritten
      · rename_i constant
        cases unwritten
        rcases Workspace.consulted_or_barren_of_bindingSlot bound with consulted | barren
        · exact .inl (unchanged consulted)
        · -- A group that was just made has no constants.
          have free := barren.free slot.name
          rw [Workspace.isConstantAt, free] at constant
          cases constant
      · by_cases indexed : indices = []
        · subst indexed
          cases unwritten
        obtain ⟨fault, stopped⟩ | ⟨_, _, -, -, wrote⟩ := assignInto_cases slot target.name value between indexed
        · rw [stopped] at unwritten
          cases unwritten
          rcases Workspace.consulted_or_paved_of_bindingSlot coherent member bound with consulted | paved
          · exact .inl (unchanged consulted)
          · exact .inr ⟨indexed, paved⟩
        · rw [wrote] at unwritten
          cases unwritten

theorem reachable_nestedWorkspace : Reachable {} (insert ⟨1, 4, 0⟩ ∅) nestedWorkspace :=
  .scope 4 0 (.mutate ((((Workspace.empty.newGroup {}).2.setMember 4 "a" (.group 4)).setMember 4 "l" nestedList).setMember 4
    "m" nestedList).store .start (by decide))

/-- Assigning to `a.l[-1][2]` fails, since there is no such element, and no group changes. -/
theorem groups_of_execute_assign_error_nested :
    ∃ error after, (ofLevels {} 1).execute (.assign ⟨"a.l", [[constantly (.int (-1))], [constantly (.int 2)]]⟩
        (constantly (.int 9))) ⟨1, 4, 0⟩ nestedWorkspace = .error (.failure error) after ∧
      after.store = nestedWorkspace.store := by
  obtain ⟨error, after, failed⟩ : ∃ error after, (ofLevels {} 1).execute (.assign ⟨"a.l", [[constantly (.int (-1))],
      [constantly (.int 2)]]⟩ (constantly (.int 9))) ⟨1, 4, 0⟩ nestedWorkspace = .error (.failure error) after :=
    ⟨_, _, rfl⟩
  refine ⟨error, after, failed, ?_⟩
  obtain same | ⟨-, -, paved⟩ := groups_of_execute_assign_error reachable_nestedWorkspace.sound (Set.mem_insert _ _)
    (rfl : operands _ _ _ nestedWorkspace = .ok ([.int (-1), .int 2], .int 9) nestedWorkspace) failed
  · exact same
  · obtain ⟨last, unresolved⟩ := paved.unresolved
    cases unresolved

/-- Assigning to `b.c[0]` where there is no `b` fails, and yet `b` is bound afterwards. -/
theorem group_made_by_failed_assign :
    ∃ after, operands (fun code => (ofLevels {} 1).evaluate code ⟨1, 4, 0⟩) ⟨"b.c", [[constantly (.int 0)]]⟩
        (constantly (.int 1)) nestedWorkspace = .ok ([.int 0], .int 1) nestedWorkspace ∧
      (ofLevels {} 1).execute (.assign ⟨"b.c", [[constantly (.int 0)]]⟩ (constantly (.int 1))) ⟨1, 4, 0⟩
        nestedWorkspace = .error (.failure (Error.unbound "c")) after ∧
      nestedWorkspace.valueAt? ⟨4, "b"⟩ = none ∧ after.valueAt? ⟨4, "b"⟩ = some (.group 5) :=
  ⟨_, rfl, rfl, rfl, rfl⟩

end Interpreter

end GroupScript
