import GroupScript.Proofs.Checkpoints
import GroupScript.Proofs.Coherence
import GroupScript.Proofs.CompileConsulting
import GroupScript.Proofs.NameBinding
import GroupScript.Proofs.ProcedureCalls
import GroupScript.Proofs.Steadiness

/-!
# What becomes of constants

Every statement that binds or deletes a name asks first whether the name is a constant.  What does not ask is an import,
which binds names in the module group of its scope, the deletion of a group, which asks only whether the group is
protected, the start of a call, which hangs its group in the root, and a program of the surroundings.  So an interpreter
that checks for these four along a run, and gives up before one of them reaches a watched constant, leaves the watched
constants alone.
-/

namespace GroupScript

open Workspace (Coherent Consulted Steady)

/-- The kept search path is coherent, and the root exists. -/
structure Sound (scopes : Set Scope) (workspace : Workspace) : Prop extends Coherent scopes workspace where
  rooted : workspace.root < workspace.size

namespace Sound

variable {scopes : Set Scope} {workspace after : Workspace} {scope : Scope}

theorem subset {fewer : Set Scope} (sound : Sound scopes workspace) (inside : fewer ⊆ scopes) : Sound fewer workspace :=
  ⟨sound.toCoherent.subset inside, sound.rooted⟩

theorem aside (sound : Sound scopes workspace) (store : Store) (output : String) (log : Array LogEntry)
    (calls depth : Nat) (grows : workspace.size ≤ store.groups.size) :
    Sound scopes { workspace with store, output, log, calls, depth } :=
  ⟨sound.toCoherent.aside store workspace.path workspace.extension output log calls depth,
    Nat.lt_of_lt_of_le sound.rooted grows⟩

theorem consulted (sound : Sound scopes workspace) (member : scope ∈ scopes)
    (consulted : Consulted scope workspace after) : Sound scopes after := by
  have coherent := sound.toCoherent.consulted member consulted
  obtain ⟨cache, output, log, rfl, -⟩ := consulted
  exact ⟨coherent, sound.rooted⟩

theorem modifyGroup (sound : Sound scopes workspace) (id : GroupId) (change : Group → Group) :
    Sound scopes (workspace.modifyGroup id change) :=
  sound.aside _ _ _ _ _ (Workspace.size_modifyGroup _ _ _).ge

theorem register (sound : Sound scopes workspace) (name : String) (loaded : LoadedModule) :
    Sound scopes (workspace.register name loaded) :=
  ⟨sound.toCoherent.register name loaded, sound.rooted⟩

theorem newScope (sound : Sound scopes workspace) (localGroup moduleGroup : GroupId) :
    Sound (insert (workspace.newScope localGroup moduleGroup).1 scopes)
      (workspace.newScope localGroup moduleGroup).2 :=
  ⟨sound.toCoherent.newScope localGroup moduleGroup, sound.rooted⟩

end Sound

/-- The guarantee that watched constants stay. -/
def steadily (scopes : Set Scope) (watched : Set Slot) : Guarantee Workspace where
  holds := Sound scopes
  leads := Steady watched
  refl := .refl
  trans := .trans

section Binding

variable {scopes : Set Scope} {watched : Set Slot} {workspace : Workspace} {scope : Scope} {ε : Type} [Fault ε]

theorem steadily_setMember {id : GroupId} {name : String} (value : Value) (sound : Sound scopes workspace)
    (free : workspace.isConstantAt ⟨id, name⟩ = false) :
    (steadily scopes watched).KeepsFrom workspace
      (modify (·.setMember id name value) : EStateM ε Workspace PUnit) (fun _ _ => True) :=
  .ends rfl (sound.modifyGroup _ _) (.setMember value fun _ => free) trivial

theorem steadily_bindNew {id : GroupId} {name : String} (watched : Set Slot) (sound : Sound scopes workspace)
    (absent : (workspace.group id).get? name = none) :
    Sound scopes ((workspace.newGroup {}).2.setMember id name (.group (workspace.newGroup {}).1)) ∧
      Steady watched workspace
        ((workspace.newGroup {}).2.setMember id name (.group (workspace.newGroup {}).1)) := by
  refine ⟨sound.aside _ _ _ _ _ ?_, .trans (.newGroup {}) (.setMember _ fun _ => ?_)⟩
  · exact Nat.le_trans (Nat.le_succ _) ((Workspace.size_setMember _ _ _ _).trans (Workspace.size_newGroup _ _)).ge
  refine Group.isConstant_eq_false_of_get? ?_
  rw [Workspace.group_newGroup]
  split
  · rfl
  · exact absent

theorem steadily_traverse (id : GroupId) (names : List String) :
    (steadily scopes watched).Keeps (Workspace.traverse id names) (fun _ => True) := by
  induction names generalizing id with
  | nil => exact .pure trivial
  | cons name names ih =>
      refine .everywhere fun workspace sound => .reading ?_
      cases found : (workspace.group id).get? name with
      | none =>
          obtain ⟨soundAfter, steady⟩ := steadily_bindNew watched sound found
          refine .reading (.bind (.setting soundAfter steady) ?_)
          intro _ after holds _
          exact (ih _).here holds
      | some value =>
          cases value with
          | group next => exact (ih next).here sound
          | _ => exact .throw _ sound

/-- A change that leaves all groups alone is steady. -/
theorem steady_rfl {before after : Workspace} (root : after.root = before.root)
    (groups : after.store.groups = before.store.groups) : Steady watched before after :=
  .of_confined (.of_groups root groups)

theorem steady_consulted {before after : Workspace} (consulted : Consulted scope before after) :
    Steady watched before after := by
  obtain ⟨cache, output, log, rfl, -⟩ := consulted
  exact steady_rfl rfl rfl

theorem steadily_tells {workspace : Workspace} (output : String) (log : Array LogEntry)
    (sound : Sound scopes workspace) :
    Sound scopes { workspace with output, log } ∧ Steady watched workspace { workspace with output, log } :=
  ⟨sound.aside _ _ _ _ _ (Nat.le_refl _), steady_rfl rfl rfl⟩

/-- What only consults the workspace is steady. -/
theorem steadily_consulting {α : Type} {action : EStateM ε Workspace α} {property : α → Prop}
    (member : scope ∈ scopes) (keeps : (Workspace.consulting scope).Keeps action property) :
    (steadily scopes watched).Keeps action property :=
  keeps.transfer (fun _ => trivial) fun sound consulted =>
    ⟨sound.consulted member consulted, steady_consulted consulted⟩

theorem steadily_bindingHead (member : scope ∈ scopes) (name first : String) :
    (steadily scopes watched).Keeps (Workspace.bindingHead scope name first) (fun _ => True) := by
  refine .everywhere fun workspace sound => ?_
  have looking := (steadily_consulting member (Workspace.keeps_lookupFirst first)).here sound
  refine .bind looking.recording ?_
  rintro found after soundAfter ⟨looked, -, -⟩
  cases found with
  | none =>
      have absent := sound.absent_of_lookupFirst member looked
      obtain ⟨soundNew, steady⟩ := steadily_bindNew watched soundAfter absent
      refine .reading (.bind (.setting soundNew steady) ?_)
      intro _ last holds _
      exact .pure holds trivial
  | some value =>
      cases value with
      | group id => exact .pure soundAfter trivial
      | _ => exact .throw _ soundAfter

theorem steadily_bindingSlot (member : scope ∈ scopes) (name : String) :
    (steadily scopes watched).Keeps (Workspace.bindingSlot scope name none) (fun _ => True) := by
  refine .ite (fun _ => .thrown _ _) fun _ => ?_
  split
  · exact .pure trivial
  · exact .pure trivial
  · exact .bind (steadily_traverse _ _) fun _ _ => .pure trivial
  · refine .bind (steadily_bindingHead member name _) fun head _ => ?_
    exact .bind (steadily_traverse _ _) fun _ _ => .pure trivial

/-- What follows the check of a slot may rely on the slot being free. -/
theorem steadily_requireAssignable {slot : Slot} (name : String) (sound : Sound scopes workspace) :
    (steadily scopes watched).KeepsFrom workspace (Workspace.requireAssignable slot name)
      (fun _ after => after.isConstantAt slot = false) := by
  refine .reading ?_
  split
  · exact .throw _ sound
  · rename_i free
    exact .pure sound (Bool.eq_false_iff.mpr free)

theorem steadily_bind (member : scope ∈ scopes) (name : String) (value : Value) :
    (steadily scopes watched).Keeps (Workspace.bind scope name value none) (fun _ => True) := by
  refine .bind (steadily_bindingSlot member name) fun slot _ => .everywhere fun workspace sound => ?_
  refine .bind (steadily_requireAssignable name sound) fun _ after holds free => ?_
  exact steadily_setMember value holds free

theorem steadily_bindItem (name : String) (value : Value) :
    (steadily scopes watched).Keeps (Interpreter.bindItem scope name value) (fun _ => True) := by
  refine .everywhere fun workspace sound => ?_
  refine .bind (steadily_requireAssignable name sound).ofAccess fun _ after holds free => ?_
  exact steadily_setMember value holds free

theorem steadily_assignInto {slot : Slot} (name : String) (indices : List Value) (value : Value)
    (sound : Sound scopes workspace) (free : workspace.isConstantAt slot = false) :
    (steadily scopes watched).KeepsFrom workspace
      (Interpreter.assignInto slot name indices value) (fun _ _ => True) := by
  unfold Interpreter.assignInto
  split
  · exact steadily_setMember value sound free
  · refine .reading ?_
    split
    · exact .throw _ sound
    · exact .throw _ sound
    · rename_i stored _ _
      cases replaced : Value.replaceAt value indices stored with
      | error error => exact .throw _ sound
      | ok result => exact steadily_setMember result sound free

theorem steadily_assignValue (member : scope ∈ scopes) (target : Target) (indices : List Value) (value : Value) :
    (steadily scopes watched).Keeps (Interpreter.assignValue scope target indices value)
      (fun _ => True) := by
  refine .bind (steadily_bindingSlot member _).ofAccess fun slot _ => .everywhere fun workspace sound => ?_
  refine .bind (steadily_requireAssignable _ sound).ofAccess fun _ after holds free => ?_
  exact steadily_assignInto _ indices value holds free

theorem steadily_define (member : scope ∈ scopes) (name : String) (code : Code) :
    (steadily scopes watched).Keeps (Interpreter.define scope name code) (fun _ => True) := by
  refine .bind (.modifyGet fun workspace sound => ⟨sound.aside _ _ _ _ _ (Nat.le_refl _), ?_, trivial⟩)
    fun id (_ : True) => ?_
  · exact steady_rfl rfl rfl
  · exact (steadily_bind member name _).ofAccess

theorem steadily_bindProcedure (member : scope ∈ scopes) (procedure : Procedure) :
    (steadily scopes watched).Keeps (Interpreter.bindProcedure scope procedure)
      (fun _ => True) := by
  refine .bind (.modifyGet fun workspace sound => ⟨sound.aside _ _ _ _ _ (Nat.le_refl _), ?_, trivial⟩)
    fun id (_ : True) => ?_
  · exact steady_rfl rfl rfl
  · exact (steadily_bind member _ _).ofAccess

theorem steadily_delete (member : scope ∈ scopes) (name : String) :
    (steadily scopes watched).Keeps (Workspace.delete scope name) (fun _ => True) := by
  refine .bind (steadily_consulting member (Workspace.keeps_resolve name)) fun value _ => ?_
  split
  · exact .throw _
  · refine .bind (steadily_consulting member (Workspace.keeps_owner name)) fun slot _ => ?_
    refine .everywhere fun workspace sound => .reading ?_
    split
    · exact .throw _ sound
    · rename_i free
      exact .ends rfl (sound.modifyGroup _ _) (.remove fun _ => Bool.eq_false_iff.mpr free) trivial

theorem steadily_deleteAll (member : scope ∈ scopes) (names : List String) :
    (steadily scopes watched).Keeps (Interpreter.deleteAll scope names) (fun _ => True) := by
  induction names with
  | nil => exact .pure trivial
  | cons name names ih => exact .bind (steadily_delete member name).ofAccess fun _ _ => ih

end Binding

/-! ### Deleting groups -/

/-- The workspace in which an access leaves off. -/
def Access.finalState {α : Type} (access : Access α) (workspace : Workspace) : Workspace :=
  match access workspace with
  | .ok _ after => after
  | .error _ after => after

/-- The guarantee that constants are at most taken away. -/
def fading (scopes : Set Scope) : Guarantee Workspace where
  holds := Sound scopes
  leads := Workspace.Fading
  refl := fun workspace => .of_confined (.refl workspace)
  trans := .trans

theorem binding_fading {scopes : Set Scope} {scope : Scope} (member : scope ∈ scopes) :
    Binding (fading scopes) (fun _ => True) ∅ scope where
  toCarries := Guarantee.carries_true _
  consults := by
    intro before after sound consulted
    refine ⟨sound.consulted member consulted, ?_⟩
    obtain ⟨cache, output, log, rfl, -⟩ := consulted
    exact .of_confined (.of_groups rfl rfl)
  grows := fun sound =>
    ⟨sound.aside _ _ _ _ _ (Workspace.size_le_newGroup _ _), .of_confined (.newGroup {}), trivial⟩
  searched := fun _ _ _ => trivial
  localGroup := trivial
  sets := fun _ _ bound => bound.elim
  removes := fun name sound _ => ⟨sound.modifyGroup _ _, .remove _ name⟩

/-- A deletion after which the watched constants are still there has left them alone. -/
theorem steadily_runDelGroup {scopes : Set Scope} {watched : Set Slot} {scope : Scope} {workspace : Workspace}
    {arguments : List Value} (member : scope ∈ scopes) (sound : Sound scopes workspace)
    (left : ∀ slot ∈ watched, workspace.isConstantAt slot = true →
      (Access.finalState (Builtin.runDelGroup scope arguments) workspace).isConstantAt slot = true) :
    (steadily scopes watched).KeepsFrom workspace (Builtin.runDelGroup scope arguments) fun _ _ => True := by
  have fades := ((binding_fading member).keeps_runDelGroup arguments).here sound
  unfold Access.finalState at left
  constructor
  · intro value after finished
    rw [finished] at left
    obtain ⟨holds, fading, -⟩ := fades.ok finished
    exact ⟨holds, fading.steady left, trivial⟩
  · intro error after failed final
    rw [failed] at left
    obtain ⟨holds, fading⟩ := fades.error failed final
    exact ⟨holds, fading.steady left⟩

/-! ### Runs with checks -/

/-- Checks that strike before anything that reaches a watched constant without asking. -/
structure Checks.Guards (checks : Checks) (environment : Environment) (watched : Set Slot) : Prop where
  binds : ∀ {scope item group workspace}, checks.binds scope item group workspace = false →
    ∀ name ∈ item.reachedNames group workspace, ⟨scope.moduleGroup, name⟩ ∉ watched
  procedures : ∀ {scope id arguments keywords} {workspace : Workspace},
    checks.calls scope (.procedure id) arguments keywords workspace = false →
    arguments.length = (workspace.store.procedure id).params.length → workspace.depth < environment.maxDepth →
    ⟨workspace.root, environment.callName (workspace.store.procedure id).name workspace.calls⟩ ∉ watched
  deletions : ∀ {scope arguments workspace},
    checks.calls scope (.native (.builtin .delGroup)) arguments [] workspace = false →
    ∀ slot ∈ watched, workspace.isConstantAt slot = true →
      (Access.finalState (Builtin.runDelGroup scope arguments) workspace).isConstantAt slot = true
  changes : ∀ {group workspace}, checks.changes group workspace = false → ∀ slot ∈ watched, slot.group ≠ group

/-- Where nothing is watched, nothing need be checked. -/
theorem Checks.guards_empty (checks : Checks) (environment : Environment) : checks.Guards environment ∅ :=
  ⟨fun _ _ _ inside => inside, fun _ _ _ inside => inside, fun _ _ inside => inside.elim, fun _ _ inside => inside.elim⟩

/-- Two interpreters that run in lockstep and leave watched constants alone, in every scope. -/
structure Steadies (watched : Set Slot) (inner other : Interpreter) : Prop where
  executes : ∀ {scopes scope} statement, scope ∈ scopes →
    (steadily scopes watched).Lockstep .unknown (inner.execute statement scope) (other.execute statement scope)
      (Signal.Fits fun _ => True)
  evaluates : ∀ {scopes scope} code, scope ∈ scopes →
    (steadily scopes watched).Lockstep .unknown (inner.evaluate code scope) (other.evaluate code scope) fun _ => True

section Inside

variable {environment : Environment} {inner other : Interpreter} {scopes : Set Scope} {watched : Set Slot} {scope : Scope}

theorem steady_inBody {workspace : Workspace} {group : Group} {name : String}
    (unwatched : ⟨workspace.root, name⟩ ∉ watched) : Steady watched workspace (workspace.inBody group name) := by
  have hung : Steady watched (workspace.newGroup group).2
      ((workspace.newGroup group).2.setMember workspace.root name (.group workspace.size)) :=
    .setMember _ fun inside => absurd inside unwatched
  exact ((Steady.newGroup group).trans hung).trans (steady_rfl rfl rfl)

/-- A call leaves the watched constants alone if it does not hang its group in one. -/
theorem steadily_callProcedure (steadies : Steadies watched inner other) {workspace : Workspace} {procedure : Procedure}
    {arguments : List Value} {keywords : List (String × Value)} (sound : Sound scopes workspace)
    (unwatched : arguments.length = procedure.params.length → workspace.depth < environment.maxDepth →
      ⟨workspace.root, environment.callName procedure.name workspace.calls⟩ ∉ watched) :
    (steadily scopes watched).LockstepFrom .unknown workspace
      (inner.callProcedure environment procedure arguments keywords)
      (other.callProcedure environment procedure arguments keywords) fun _ _ => True := by
  generalize named : environment.callName procedure.name workspace.calls = name at unwatched
  have entering (free : ⟨workspace.root, name⟩ ∉ watched) :
      Steady watched workspace (workspace.inBody (procedure.callGroup arguments keywords) name) :=
    steady_inBody free
  apply lockstepFrom_callProcedure (steadily (insert workspace.callScope scopes) watched) Value.hereditary_true sound named
    rfl
  · intro arity shallow
    have soundInside : Sound (insert workspace.callScope scopes)
        (workspace.inBody (procedure.callGroup arguments keywords) name) :=
      (sound.newScope workspace.size workspace.size).aside _ _ _ (workspace.calls + 1) (workspace.depth + 1)
        (entering (unwatched arity shallow)).size
    exact lockstep_block (fun statement _ => steadies.executes statement (Set.mem_insert _ scopes)) _ soundInside
  · intro arity shallow after output log soundAfter steady
    have steadyThere := (entering (unwatched arity shallow)).trans steady
    have left : Steady watched after { after with output, log, depth := after.depth - 1 } := steady_rfl rfl rfl
    have emptied : Steady watched after (after.afterCall name output log) := by
      apply left.trans
      apply Steady.remove
      rw [steadyThere.root]
      exact fun inside => absurd inside (unwatched arity shallow)
    have soundLeft : Sound scopes (after.afterCall name output log) :=
      (soundAfter.subset (Set.subset_insert _ _)).aside _ output log _ (after.depth - 1)
        (Workspace.size_afterCall after name output log).ge
    exact ⟨soundLeft, steadyThere.trans emptied⟩

theorem steadily_runInput (steadies : Steadies watched inner other) (member : scope ∈ scopes) (bound : Nat)
    (input : Input) :
    (steadily scopes watched).Lockstep .unknown (inner.runInput scope bound input) (other.runInput scope bound input)
      fun _ => True := by
  have mayCut : Cutoff.unknown ≠ .never := nofun
  have compiles (input : Input) (_ : True) : (steadily scopes watched).Keeps (compileNext scope input)
      fun next => ∀ statement, next.1 = some statement →
        (steadily scopes watched).Lockstep .unknown (inner.execute statement scope)
          (other.execute statement scope) (Signal.Fits fun _ => True) ∧ True :=
    (steadily_consulting member (keeps_compileNext scope input)).imp
      fun _ _ statement _ => ⟨steadies.executes statement member, trivial⟩
  exact @lockstep_runInput _ _ _ _ _ (fun _ => True) mayCut steadily_tells compiles bound input trivial

theorem steadily_runModule (steadies : Steadies watched inner other) (path text : String) :
    (steadily scopes watched).Lockstep .unknown (inner.runModule path text) (other.runModule path text)
      fun _ => True := by
  intro workspace sound
  have soundNew : Sound scopes (workspace.newGroup {}).2 :=
    sound.aside _ _ _ _ _ (workspace.size_le_newGroup {})
  have made : (steadily scopes watched).LockstepFrom .unknown workspace (Action.newGroup {}) (Action.newGroup {})
      (fun id after => id = workspace.size ∧ after = (workspace.newGroup {}).2) :=
    .ends rfl rfl soundNew (.newGroup {}) ⟨rfl, rfl⟩
  apply made.bind
  rintro _ _ _ ⟨rfl, rfl⟩
  have soundInside := soundNew.newScope workspace.size workspace.size
  have body := steadily_runInput steadies (Set.mem_insert _ scopes)
    ((({} : Input).pushText text.toList path).unread + 1) (({} : Input).pushText text.toList path) _ soundInside
  have enters : Action.isolatedScope workspace.size (workspace.newGroup {}).2 =
      .ok ((workspace.newGroup {}).2.isolatedScope workspace.size).1
        ((workspace.newGroup {}).2.isolatedScope workspace.size).2 :=
    rfl
  apply Guarantee.LockstepFrom.entering enters (body.bind fun _ last holds _ => .pure holds trivial)
  intro after holds steady
  have given : Steady watched (workspace.newGroup {}).2
      ((workspace.newGroup {}).2.isolatedScope workspace.size).2 :=
    steady_rfl rfl rfl
  exact ⟨holds.subset (Set.subset_insert _ _), given.trans steady⟩

theorem steadily_loading (steadies : Steadies watched inner other) :
    Loading (steadily scopes watched) .unknown environment inner other where
  tells := steadily_tells
  runs := fun _ => steadily_runModule steadies _ _
  supplies := by
    intro workspace name supply sound _
    exact ⟨sound.aside _ _ _ _ _ supply.kept.groups.size_le, .of_confined (.of_extends supply.kept)⟩

theorem steadily_clearance (member : scope ∈ scopes) (bound : Nat) :
    Clearance (steadily scopes watched) (fun _ => True) (fun _ => True) .unknown scope bound bound where
  loops := fun _ => .inr ⟨rfl, Nat.le_refl bound⟩
  bindsItem := fun _ _ => .of_keeps nofun (steadily_bindItem _ _)
  assigns := fun _ _ _ => .of_keeps nofun (steadily_assignValue member _ _ _)
  defines := fun _ => .of_keeps nofun (steadily_define member _ _)
  definesProcedure := fun _ _ => .of_keeps nofun (steadily_bindProcedure member _)
  deletes := fun _ => .of_keeps nofun (steadily_deleteAll member _)

/-- Where the checks guard the watched constants, they stay up to where a check strikes. -/
theorem steadily_passing {checks : Checks} (guards : checks.Guards environment watched)
    (steadies : Steadies watched inner other) (member : scope ∈ scopes) :
    Passing (steadily scopes watched) checks environment inner other scope where
  toCarries := Guarantee.carries_true _
  consults := fun sound consulted => ⟨sound.consulted member consulted, steady_consulted consulted⟩
  grows := fun sound => ⟨sound.aside _ _ _ _ _ (Workspace.size_le_newGroup _ _), .newGroup {}, trivial⟩
  searched := fun _ _ _ => trivial
  clearance := steadily_clearance member
  executes := fun statement => steadies.executes statement member
  evaluates := fun code => steadies.evaluates code member
  reads := by
    intro workspace code sound _
    have deeper : Steady watched workspace { workspace with depth := workspace.depth + 1 } := steady_rfl rfl rfl
    apply Guarantee.LockstepFrom.imp
    · apply (steadies.evaluates code member _ (sound.aside _ _ _ _ _ (Nat.le_refl _))).deeper
      intro after soundAfter steady
      have left : Steady watched after { after with depth := after.depth - 1 } := steady_rfl rfl rfl
      exact ⟨soundAfter.aside _ _ _ _ _ (Nat.le_refl _), (deeper.trans steady).trans left⟩
    · exact fun _ _ _ => trivial
  loads := by
    intro workspace item reload sound _
    have finds : (steadily scopes watched).LockstepFrom .unknown workspace
        (inner.moduleFor environment item.source reload) (other.moduleFor environment item.source reload)
        fun _ _ => Importable environment workspace item.source :=
      (steadily_loading steadies).lockstepFrom_moduleFor sound
        fun _ _ _ loaded holds => ⟨holds.register _ loaded, steady_rfl rfl rfl⟩
    exact finds.imp fun _ _ _ => trivial
  binds := by
    intro workspace item group sound passes
    let unwatched : Set String := { name | (⟨scope.moduleGroup, name⟩ : Slot) ∉ watched }
    have binds {state : Workspace} {name : String} (value : Value) (holds : Sound scopes state) (free : name ∈ unwatched) :
        Sound scopes (state.setMember scope.moduleGroup name value) ∧
          Steady watched state (state.setMember scope.moduleGroup name value) :=
      ⟨holds.modifyGroup _ _, .setMember value fun inside => absurd inside free⟩
    exact lockstepFrom_bindImport binds sound (guards.binds passes)
  callsProcedure := fun sound passes => steadily_callProcedure steadies sound (guards.procedures passes)
  deletesGroup := fun sound passes => steadily_runDelGroup member sound (guards.deletions passes)
  changes := by
    intro workspace group change sound passes
    exact ⟨sound.modifyGroup group change, .modifyGroup fun name inside _ => absurd rfl (guards.changes passes _ inside)⟩
  makesGroup := fun group sound => ⟨sound.aside _ _ _ _ _ (Workspace.size_le_newGroup _ _), .newGroup group⟩
  makesProcedure := fun sound _ => ⟨sound.aside _ _ _ _ _ (Nat.le_refl _), steady_rfl rfl rfl⟩
  makesDefinition := fun _ sound => ⟨sound.aside _ _ _ _ _ (Nat.le_refl _), steady_rfl rfl rfl⟩

/-- The interpreter with checks that guard the watched constants leaves them alone, however many levels it has. -/
theorem steadies_checked {checks : Checks} (guards : checks.Guards environment watched) (levels : Nat) :
    Steadies watched (.checked environment checks levels) (.ofLevels environment levels) := by
  induction levels with
  | zero =>
      constructor
      · intro scopes scope statement _ workspace _
        exact .cut rfl trivial
      · intro scopes scope code _ workspace _
        exact .cut rfl trivial
  | succ levels ih =>
      constructor
      · intro scopes scope statement member
        exact (steadily_passing guards ih member).lockstep_executeChecked levels statement
      · intro scopes scope code member
        exact (steadily_passing guards ih member).lockstep_evaluateChecked code

/-- The interpreter keeps the search path sound. -/
theorem steadies_ofLevels (environment : Environment) (levels : Nat) :
    Steadies ∅ (.ofLevels environment levels) (.ofLevels environment levels) := by
  have steadies : Steadies ∅ (.checked environment {} levels) (.ofLevels environment levels) :=
    steadies_checked (Checks.guards_empty {} environment) levels
  rw [Interpreter.checked_none] at steadies
  exact steadies

end Inside

end GroupScript
