import GroupScript.Proofs.Hereditary
import GroupScript.Proofs.Lockstep

/-!
# The flow of values

Along with the workspace a run handles values.  A guarantee carries a property of values if the property passes from
groups to their members and from defined variables to the constants in their code.  Then it passes through the stack
machine: if two hosts answer in lockstep with values that have the property, then code whose constants have it runs in
lockstep, and its value has the property too.
-/

namespace GroupScript

/-- The constants in some code have a property. -/
def Code.Fits (fit : Value → Prop) (code : Code) : Prop :=
  ∀ value, Instr.push value ∈ code.instrs → fit value

/-- The value that a signal carries has a property. -/
def Signal.Fits (fit : Value → Prop) : Signal → Prop
  | .leave value => fit value
  | _ => True

namespace Guarantee

variable {guarantee : Guarantee Workspace} {fit : Value → Prop}

/-- A hereditary property of values that passes from groups to their members, and from defined variables to the
constants in their code, in every state with the invariant. -/
structure Carries (guarantee : Guarantee Workspace) (fit : Value → Prop) : Prop
    extends Value.Hereditary fit where
  root : ∀ {state}, guarantee.holds state → fit (.group state.root)
  member : ∀ {state id name value}, guarantee.holds state → fit (.group id) →
    (state.group id).get? name = some value → fit value
  code : ∀ {state id}, guarantee.holds state → fit (.defined id) →
    (state.store.definition id).Fits fit

/-- Nothing need be known of values. -/
theorem carries_true (guarantee : Guarantee Workspace) : guarantee.Carries fun _ => True where
  toHereditary := Value.hereditary_true
  root := fun _ => trivial
  member := fun _ _ _ => trivial
  code := fun _ _ _ _ => trivial

namespace Carries

variable (carries : guarantee.Carries fit)

include carries

theorem element {state : Workspace} {target index value : Value} (holds : guarantee.holds state)
    (fits : fit target) (made : state.store.element target index = .ok value) : fit value := by
  unfold Store.element at made
  split at made
  · obtain ⟨place, -, made⟩ := except_bind_eq_ok.mp made
    cases made
    rename_i items
    rcases Nat.lt_or_ge place items.length with inside | outside
    · rw [List.getD_eq_getElem items .nil inside]
      exact carries.list.mp fits _ (List.getElem_mem inside)
    · rw [List.getD_eq_default items .nil outside]
      exact carries.plain rfl
  · obtain ⟨place, -, made⟩ := except_bind_eq_ok.mp made
    cases made
    exact carries.plain rfl
  · obtain ⟨name, -, made⟩ := except_bind_eq_ok.mp made
    split at made
    · rename_i found
      cases made
      exact carries.member holds fits found
    · cases made
  · cases made

theorem elementAt {state : Workspace} {target value : Value} {indices : List Value}
    (holds : guarantee.holds state) (fits : fit target)
    (made : state.store.elementAt target indices = .ok value) : fit value := by
  induction indices generalizing target with
  | nil =>
      cases made
      exact fits
  | cons index indices ih =>
      obtain ⟨next, found, made⟩ := except_bind_eq_ok.mp made
      exact ih (carries.element holds fits found) made

theorem member? {state : Workspace} {start value : Value} {names : List String}
    (holds : guarantee.holds state) (fits : fit start)
    (reached : state.store.member? start names = some value) : fit value := by
  induction names generalizing start with
  | nil =>
      cases reached
      exact fits
  | cons name names ih =>
      unfold Store.member? at reached
      split at reached
      · rename_i empty
        cases empty
      · rename_i same
        cases same
        obtain ⟨next, found, reached⟩ := Option.bind_eq_some_iff.mp reached
        exact ih (carries.member holds fits found) reached
      · cases reached

end Carries

/-! ### The stack machine -/

/-- All values of a list have a property. -/
def FitAll (fit : Value → Prop) (values : List Value) : Prop :=
  ∀ value ∈ values, fit value

variable {cutoff : Cutoff} {stack : List Value}

theorem lockstep_pop (fits : FitAll fit stack) :
    guarantee.Lockstep cutoff (Host.pop stack) (Host.pop stack) (fun popped => fit popped.1 ∧ FitAll fit popped.2) := by
  cases stack with
  | nil => exact .fail _
  | cons value stack =>
      exact .pure ⟨fits value List.mem_cons_self, fun other member =>
        fits other (List.mem_cons_of_mem value member)⟩

theorem lockstep_popMany (count : Nat) (fits : FitAll fit stack) :
    guarantee.Lockstep cutoff (Host.popMany count stack) (Host.popMany count stack)
      (fun popped => FitAll fit popped.1 ∧ FitAll fit popped.2) := by
  refine .ite (fun _ => .fail _) fun _ => .pure ⟨fun value member => ?_, fun value member => ?_⟩
  · exact fits value (List.mem_of_mem_take (List.mem_reverse.mp member))
  · exact fits value (List.mem_of_mem_drop member)

theorem fitAll_cons {value : Value} (first : fit value) (rest : FitAll fit stack) :
    FitAll fit (value :: stack) := by
  intro other member
  rcases List.mem_cons.mp member with rfl | later
  · exact first
  · exact rest other later

section Machine

variable {host other : Host Workspace} (carries : guarantee.Carries fit)
  (stored : host.store = Workspace.store) (storedToo : other.store = Workspace.store)
  (lookups : ∀ name, guarantee.Lockstep cutoff (host.lookup name) (other.lookup name) fit)
  (calls : ∀ function arguments keywords, fit function → FitAll fit arguments →
    FitAll fit (keywords.map Prod.snd) →
    guarantee.Lockstep cutoff (host.call function arguments keywords) (other.call function arguments keywords) fit)

include carries stored storedToo lookups calls

theorem lockstep_step {instr : Instr} (constant : ∀ value, instr = .push value → fit value)
    (fits : FitAll fit stack) :
    guarantee.Lockstep cutoff (host.step instr stack) (other.step instr stack) (FitAll fit) := by
  cases instr with
  | push value => exact .pure (fitAll_cons (constant value rfl) fits)
  | load name => exact .bind (lookups name) fun value found => .pure (fitAll_cons found fits)
  | makeList count =>
      refine .bind (lockstep_popMany count fits) fun popped both => ?_
      exact .pure (fitAll_cons (carries.list.mpr both.1) both.2)
  | index count =>
      refine .bind (lockstep_popMany count fits) fun indices both => ?_
      refine .bind (lockstep_pop both.2) fun target found => .reading fun state holds => ?_
      rw [stored, storedToo]
      have gives : guarantee.Lockstep cutoff (ofResult (state.store.elementAt target.1 indices.1)) _ fit :=
        .ofResult fun value made => carries.elementAt holds found.1 made
      exact gives.bind (fun value fitsValue => .pure (fitAll_cons fitsValue found.2)) state holds
  | call positional keywords =>
      refine .bind (lockstep_popMany keywords.length fits) fun values given => ?_
      refine .bind (lockstep_popMany positional given.2) fun arguments both => ?_
      refine .bind (lockstep_pop both.2) fun function found => ?_
      refine .bind (calls _ _ _ found.1 both.1 ?_) fun value fitsValue =>
        .pure (fitAll_cons fitsValue found.2)
      intro value member
      obtain ⟨pair, paired, rfl⟩ := List.mem_map.mp member
      exact given.1 pair.2 (List.of_mem_zip paired).2
  | unary op =>
      refine .bind (lockstep_pop fits) fun operand found => ?_
      refine .bind (.ofResult fun value made => ?_) fun value fitsValue =>
        .pure (fitAll_cons fitsValue found.2)
      exact carries.plain (Value.isPlain_of_unary (except_mapError_eq_ok.mp made))
  | binary op =>
      refine .bind (lockstep_pop fits) fun right found => ?_
      refine .bind (lockstep_pop found.2) fun left both => .reading fun state holds => ?_
      rw [stored, storedToo]
      have gives : guarantee.Lockstep cutoff (Host.ofOperator (state.store.binary op left.1 right.1)) _ fit :=
        .ofResult fun value made => carries.binary both.1 found.1 (except_mapError_eq_ok.mp made)
      exact gives.bind (fun value fitsValue => .pure (fitAll_cons fitsValue both.2)) state holds
  | skipIfFalse count => exact .pure fits
  | skipIfTrue count => exact .pure fits

theorem lockstep_exec {source : String} {skipped : Nat} {instrs : List Instr}
    (constants : ∀ value, Instr.push value ∈ instrs → fit value) (fits : FitAll fit stack) :
    guarantee.Lockstep cutoff (host.exec source skipped instrs stack) (other.exec source skipped instrs stack) fit := by
  fun_induction Host.exec host source skipped instrs stack with
  | case1 skipped stack =>
      rw [Host.exec]
      unfold Host.finish
      split
      · exact .fail _
      · exact .pure (fits _ List.mem_cons_self)
      · exact .fail _
  | case2 skipped instr rest stack ih =>
      exact ih (fun value member => constants value (List.mem_cons_of_mem _ member)) fits
  | case3 count rest stack ihYes ihNo =>
      have constantsRest := fun value member => constants value (List.mem_cons_of_mem _ member)
      refine .bind (lockstep_pop fits) fun popped both => ?_
      exact .ite (fun _ => ihYes popped.2 constantsRest both.2) fun _ => ihNo constantsRest fits
  | case4 count rest stack ihYes ihNo =>
      have constantsRest := fun value member => constants value (List.mem_cons_of_mem _ member)
      refine .bind (lockstep_pop fits) fun popped both => ?_
      exact .ite (fun _ => ihYes constantsRest fits) fun _ => ihNo popped.2 constantsRest both.2
  | case5 instr rest stack notFalse notTrue ih =>
      have constant : ∀ value, instr = .push value → fit value := by
        rintro value rfl
        exact constants value List.mem_cons_self
      rw [Host.exec.eq_5 other source stack instr rest notFalse notTrue]
      refine .bind (lockstep_step carries stored storedToo lookups calls constant fits) fun next fitsNext => ?_
      exact ih next (fun value member => constants value (List.mem_cons_of_mem _ member)) fitsNext

theorem lockstep_run {code : Code} (constants : code.Fits fit) :
    guarantee.Lockstep cutoff (host.run code) (other.run code) fit :=
  lockstep_exec carries stored storedToo lookups calls constants fun value member => by cases member

end Machine

end Guarantee

end GroupScript
