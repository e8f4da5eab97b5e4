import GroupScript.Proofs.Concord

/-!
# Binding names

A name is bound in the group that the path before its last segment leads to, and the groups missing on the path are made.
So the statements that bind names keep a guarantee if it allows to bind the segments of the names, to make groups and to
remove names.  Every group that a name leads to has the property that the guarantee carries.
-/

namespace GroupScript

open Guarantee (FitAll)

/-- What a guarantee has to allow in a scope so that names of a set are bound to values with a property, and so that
names are removed. -/
structure Binding (guarantee : Guarantee Workspace) (fit : Value → Prop) (names : Set String) (scope : Scope) : Prop
    extends Footing guarantee fit scope where
  localGroup : fit (.group scope.localGroup)
  sets : ∀ {state id name value}, guarantee.holds state → fit (.group id) → name ∈ names → fit value →
    guarantee.holds (state.setMember id name value) ∧ guarantee.leads state (state.setMember id name value)
  removes : ∀ {state id} name, guarantee.holds state → fit (.group id) →
    guarantee.holds (state.modifyGroup id (·.remove name)) ∧
      guarantee.leads state (state.modifyGroup id (·.remove name))

namespace Binding

variable {guarantee : Guarantee Workspace} {fit : Value → Prop} {names : Set String} {scope : Scope}
  {state : Workspace} {cutoff : Cutoff} (binding : Binding guarantee fit names scope)

section Requirement

omit binding

theorem keeps_requireAssignable (slot : Slot) (name : String) :
    guarantee.Keeps (Workspace.requireAssignable slot name) fun _ => True :=
  .bind .get fun _ _ => .ite (fun _ => .throw _) fun _ => .pure trivial

end Requirement

include binding

/-- A new group can be bound. -/
theorem makes {id : GroupId} {name : String} (holds : guarantee.holds state) (fits : fit (.group id))
    (bound : name ∈ names) :
    guarantee.holds ((state.newGroup {}).2.setMember id name (.group (state.newGroup {}).1)) ∧
      guarantee.leads state ((state.newGroup {}).2.setMember id name (.group (state.newGroup {}).1)) ∧
      fit (.group (state.newGroup {}).1) := by
  obtain ⟨holdsNew, leads, fitsNew⟩ := binding.grows holds
  obtain ⟨holdsAfter, leadsOn⟩ := binding.sets holdsNew fits bound fitsNew
  exact ⟨holdsAfter, guarantee.trans leads leadsOn, fitsNew⟩

theorem keeps_traverse {id : GroupId} {segments : List String} (fits : fit (.group id))
    (bound : ∀ segment ∈ segments, segment ∈ names) :
    guarantee.Keeps (Workspace.traverse id segments) fun last => fit (.group last) := by
  induction segments generalizing id with
  | nil => exact .pure fits
  | cons segment rest ih =>
      have boundRest : ∀ later ∈ rest, later ∈ names := fun later member => bound later (List.mem_cons_of_mem _ member)
      apply Guarantee.Keeps.everywhere
      intro before holds
      apply Guarantee.KeepsFrom.reading
      cases found : (before.group id).get? segment with
      | none =>
          obtain ⟨holdsNew, leads, fitsNew⟩ := binding.makes holds fits (bound segment List.mem_cons_self)
          apply Guarantee.KeepsFrom.reading
          apply Guarantee.KeepsFrom.bind (.setting holdsNew leads)
          intro _ after holdsAfter _
          exact (ih fitsNew boundRest).here holdsAfter
      | some value =>
          have fitsValue := binding.member holds fits found
          cases value with
          | group next => exact (ih fitsValue boundRest).here holds
          | _ => exact .throw _ holds

theorem keeps_bindingHead {first : String} (name : String) (bound : first ∈ names) :
    guarantee.Keeps (Workspace.bindingHead scope name first) fun id => fit (.group id) := by
  apply Guarantee.Keeps.bind (binding.keeps_lookupFirst first)
  intro found fits
  apply Guarantee.Keeps.everywhere
  intro before holds
  cases found with
  | none =>
      obtain ⟨holdsNew, leads, fitsNew⟩ := binding.makes holds binding.localGroup bound
      apply Guarantee.KeepsFrom.reading
      apply Guarantee.KeepsFrom.bind (.setting holdsNew leads)
      intro _ after holdsAfter _
      exact .pure holdsAfter fitsNew
  | some value =>
      cases value with
      | group id => exact .pure holds (fits _ rfl)
      | _ => exact .throw _ holds

theorem keeps_bindingSlot {name : String} (bound : ∀ segment ∈ segmentsOf name, segment ∈ names) :
    guarantee.Keeps (Workspace.bindingSlot scope name none)
      fun slot => fit (.group slot.group) ∧ slot.name ∈ names := by
  have parents : ∀ segment ∈ (segmentsOf name).dropLast, segment ∈ names :=
    fun segment member => bound segment (List.mem_of_mem_dropLast member)
  apply Guarantee.Keeps.ite
  · intro _
    exact .thrown _ _
  · intro visible
    have child : (segmentsOf name).getLastD "" ∈ names := by
      rcases List.eq_nil_or_concat (segmentsOf name) with empty | ⟨before, last, segments⟩
      · rw [empty] at visible
        exact absurd rfl visible
      · rw [segments, List.concat_eq_append, List.getLastD_concat]
        exact bound last (by simp [segments])
    cases dropped : (segmentsOf name).dropLast with
    | nil => exact .pure ⟨binding.localGroup, child⟩
    | cons first rest =>
        rw [dropped] at parents
        apply Guarantee.Keeps.bind (binding.keeps_bindingHead name (parents first List.mem_cons_self))
        intro head fits
        have boundRest : ∀ segment ∈ rest, segment ∈ names :=
          fun segment member => parents segment (List.mem_cons_of_mem first member)
        apply Guarantee.Keeps.bind (binding.keeps_traverse fits boundRest)
        intro last fitsLast
        exact .pure ⟨fitsLast, child⟩

theorem keeps_bind {name : String} {value : Value} (bound : ∀ segment ∈ segmentsOf name, segment ∈ names)
    (fits : fit value) : guarantee.Keeps (Workspace.bind scope name value none) fun _ => True := by
  apply Guarantee.Keeps.bind (binding.keeps_bindingSlot bound)
  intro slot has
  apply Guarantee.Keeps.bind (keeps_requireAssignable slot name)
  intro _ _
  exact .changing fun _ holds => binding.sets holds has.1 has.2 fits

theorem keeps_delete (name : String) : guarantee.Keeps (Workspace.delete scope name) fun _ => True := by
  apply Guarantee.Keeps.bind (binding.keeps_resolve name)
  intro value _
  split
  · exact .throw _
  · apply Guarantee.Keeps.bind (binding.keeps_owner name)
    intro slot fits
    apply Guarantee.Keeps.bind .get
    intro _ _
    apply Guarantee.Keeps.ite
    · intro _
      exact .thrown _ _
    · intro _
      exact .changing fun _ holds => binding.removes slot.name holds fits

theorem keeps_deleteGroup (name : String) : guarantee.Keeps (Workspace.deleteGroup scope name) fun _ => True := by
  apply Guarantee.Keeps.bind (binding.keeps_resolveGroup name)
  intro id _
  apply Guarantee.Keeps.bind .get
  intro _ _
  apply Guarantee.Keeps.ite
  · intro _
    exact .changing fun _ holds => binding.consults holds (Workspace.consulted_told _ _)
  · intro _
    apply Guarantee.Keeps.bind (binding.keeps_owner name)
    intro slot fits
    exact .changing fun _ holds => binding.removes slot.name holds fits

theorem keeps_runDelGroup (arguments : List Value) :
    guarantee.Keeps (Builtin.runDelGroup scope arguments) fit := by
  unfold Builtin.runDelGroup
  split
  · split
    · exact .bind (binding.keeps_deleteGroup _) fun _ _ => .pure (binding.plain rfl)
    · exact .throw _
  · exact .throw _

/-! ### Statements that bind -/

theorem lockstep_bindItem {name : String} {value : Value} (bound : name ∈ names) (fits : fit value) :
    guarantee.Lockstep cutoff (Interpreter.bindItem scope name value) (Interpreter.bindItem scope name value)
      fun _ => True := by
  apply Guarantee.Lockstep.bind (.ofAccess (keeps_requireAssignable _ name))
  intro _ _
  exact .changing fun _ holds => binding.sets holds binding.localGroup bound fits

theorem lockstep_assignInto {slot : Slot} {indices : List Value} {value : Value} (name : String)
    (has : fit (.group slot.group) ∧ slot.name ∈ names) (fits : fit value) :
    guarantee.Lockstep cutoff (Interpreter.assignInto slot name indices value)
      (Interpreter.assignInto slot name indices value) fun _ => True := by
  have assigns {result : Value} (fitsResult : fit result) :
      guarantee.Lockstep cutoff (modify (·.setMember slot.group slot.name result) : Action PUnit)
        (modify (·.setMember slot.group slot.name result)) fun _ => True :=
    .changing fun _ holds => binding.sets holds has.1 has.2 fitsResult
  apply Guarantee.Lockstep.ite
  · intro _
    exact assigns fits
  · intro _
    apply Guarantee.Lockstep.reading
    intro before holds
    cases found : (before.group slot.group).get? slot.name with
    | none => exact .fail _ holds
    | some stored =>
        have fitsStored := binding.member holds has.1 found
        have replaces : guarantee.Lockstep cutoff (ofResult (Value.replaceAt value indices stored)) _ fit :=
          .ofResult fun result => binding.toHereditary.replaceAt fits fitsStored
        have assigned := replaces.bind (fun result fitsResult => assigns fitsResult) before holds
        cases stored with
        | defined id => exact .fail _ holds
        | _ => exact assigned

theorem lockstep_assignValue {target : Target} {indices : List Value} {value : Value}
    (bound : ∀ segment ∈ segmentsOf target.name, segment ∈ names) (fits : fit value) :
    guarantee.Lockstep cutoff (Interpreter.assignValue scope target indices value)
      (Interpreter.assignValue scope target indices value) fun _ => True := by
  apply Guarantee.Lockstep.bind (.ofAccess (binding.keeps_bindingSlot bound))
  intro slot has
  apply Guarantee.Lockstep.bind (.ofAccess (keeps_requireAssignable slot target.name))
  intro _ _
  exact binding.lockstep_assignInto target.name has fits

/-- A variable is defined if the code of the variable can be kept. -/
theorem lockstep_define {name : String} {code : Code} (bound : ∀ segment ∈ segmentsOf name, segment ∈ names)
    (kept : ∀ state, guarantee.holds state →
      guarantee.holds { state with store := (state.store.newDefinition code).2 } ∧
        guarantee.leads state { state with store := (state.store.newDefinition code).2 } ∧
        fit (.defined (state.store.newDefinition code).1)) :
    guarantee.Lockstep cutoff (Interpreter.define scope name code) (Interpreter.define scope name code)
      fun _ => True := by
  have made : guarantee.Lockstep cutoff (modifyGet fun state : Workspace =>
      ((state.store.newDefinition code).1, { state with store := (state.store.newDefinition code).2 }) :
        Action DefinitionId) _ fun id => fit (.defined id) :=
    .modifyGet kept
  apply made.bind
  intro id fits
  exact .ofAccess (binding.keeps_bind bound fits)

/-- A procedure is defined if it can be kept. -/
theorem lockstep_bindProcedure {procedure : Procedure}
    (bound : ∀ segment ∈ segmentsOf procedure.name, segment ∈ names)
    (kept : ∀ state, guarantee.holds state →
      guarantee.holds { state with store := (state.store.newProcedure procedure).2 } ∧
        guarantee.leads state { state with store := (state.store.newProcedure procedure).2 } ∧
        fit (.procedure (state.store.newProcedure procedure).1)) :
    guarantee.Lockstep cutoff (Interpreter.bindProcedure scope procedure) (Interpreter.bindProcedure scope procedure)
      fun _ => True := by
  have made : guarantee.Lockstep cutoff (modifyGet fun state : Workspace =>
      ((state.store.newProcedure procedure).1, { state with store := (state.store.newProcedure procedure).2 }) :
        Action ProcedureId) _ fun id => fit (.procedure id) :=
    .modifyGet kept
  apply made.bind
  intro id fits
  exact .ofAccess (binding.keeps_bind bound fits)

theorem lockstep_deleteAll (listed : List String) :
    guarantee.Lockstep cutoff (Interpreter.deleteAll scope listed) (Interpreter.deleteAll scope listed)
      fun _ => True := by
  induction listed with
  | nil => exact .pure trivial
  | cons name rest ih => exact .bind (.ofAccess (binding.keeps_delete name)) fun _ _ => ih

end Binding

end GroupScript
