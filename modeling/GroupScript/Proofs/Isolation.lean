import GroupScript.Proofs.ProcedureCalls
import GroupScript.Proofs.Realm
import GroupScript.Proofs.Segments

/-!
# Isolation of calls

The body of a procedure that stays local binds names in the group of its call and nowhere else.  The group is new, and
its entry in the root is taken away at the end, so a call leaves all groups as they were if the name of the entry was
fresh.  This holds whatever the body does, also through the procedures it calls and the defined variables it reads, as
long as these belong to a realm of values that stay local too.
-/

namespace GroupScript

open Guarantee (FitAll)

open Workspace (Confined)

/-- A workspace out of whose realm nothing leads, in which the root is not open, and in which the names of the next calls
are fresh, up to a number of calls. -/
structure Realm.Isolating (realm : Realm .isolated) (environment : Environment) (opened : Set GroupId) (limit : Nat)
    (workspace : Workspace) : Prop extends realm.Governs workspace where
  closed : workspace.root ∉ opened
  fresh : environment.FreshCalls workspace.calls limit (workspace.group workspace.root)

/-- Only open groups change, unless there were more calls than there are fresh names for. -/
structure Workspace.ConfinedUpTo (limit : Nat) (opened : Set GroupId) (before after : Workspace) : Prop where
  root : after.root = before.root
  calls : before.calls ≤ after.calls
  confined : after.calls ≤ limit → Confined opened before after

open Workspace (ConfinedUpTo)

theorem Workspace.ConfinedUpTo.trans {limit : Nat} {opened : Set GroupId} {first second third : Workspace}
    (earlier : ConfinedUpTo limit opened first second) (later : ConfinedUpTo limit opened second third) :
    ConfinedUpTo limit opened first third where
  root := later.root.trans earlier.root
  calls := Nat.le_trans earlier.calls later.calls
  confined := fun enough => (earlier.confined (Nat.le_trans later.calls enough)).trans (later.confined enough)

/-- The guarantee that nothing leads out of a realm and that only open groups change. -/
def confining (environment : Environment) (realm : Realm .isolated) (opened : Set GroupId) (limit : Nat) :
    Guarantee Workspace where
  holds := realm.Isolating environment opened limit
  leads := ConfinedUpTo limit opened
  refl := fun workspace => ⟨rfl, Nat.le_refl _, fun _ => .refl workspace⟩
  trans := .trans

/-- Without a call, it is enough that only open groups change. -/
theorem Realm.Isolating.confined {environment : Environment} {realm : Realm .isolated} {opened : Set GroupId}
    {limit : Nat} {before after : Workspace} (isolating : realm.Isolating environment opened limit before)
    (governs : realm.Governs after) (confined : Confined opened before after) (calls : after.calls = before.calls) :
    realm.Isolating environment opened limit after ∧ ConfinedUpTo limit opened before after := by
  have root : after.group after.root = before.group before.root := by
    rw [confined.root, confined.others before.root isolating.rooted isolating.closed]
  refine ⟨⟨governs, ?_, ?_⟩, confined.root, Nat.le_of_eq calls.symm, fun _ => confined⟩
  · rw [confined.root]
    exact isolating.closed
  · rw [root, calls]
    exact isolating.fresh

/-! ### Binding local names -/

theorem segmentsOf_of_isSimpleName {name : String} (simple : LogicalLine.isSimpleName name = true) :
    segmentsOf name = [name] := by
  apply segmentsOf_of_not_mem
  simpa [LogicalLine.isSimpleName] using simple

section Binding

variable {environment : Environment} {realm : Realm .isolated} {opened : Set GroupId} {limit : Nat} {scope : Scope}
  {ε : Type} [Fault ε]

theorem confining_setMember {id : GroupId} {value : Value} (name : String) (inside : id ∈ realm.groups)
    (isOpen : id ∈ opened) (fits : realm.Fits value) :
    (confining environment realm opened limit).Keeps (modify (·.setMember id name value) : EStateM ε Workspace PUnit)
      (fun _ => True) :=
  .changing fun _ holds => holds.confined (holds.setMember name inside fits) (.setMember name value isOpen) rfl

/-- A name without dots is bound in the local group. -/
theorem confining_bindingSlot {name : String} (simple : LogicalLine.isSimpleName name = true) :
    (confining environment realm opened limit).Keeps (Workspace.bindingSlot scope name none)
      (fun slot => slot.group = scope.localGroup) := by
  unfold Workspace.bindingSlot
  rw [segmentsOf_of_isSimpleName simple]
  exact .ite (fun _ => .thrown _ _) fun _ => .pure rfl

theorem confining_requireAssignable (slot : Slot) (name : String) :
    (confining environment realm opened limit).Keeps (Workspace.requireAssignable slot name) (fun _ => True) :=
  .bind .get fun _ _ => .ite (fun _ => .throw _) fun _ => .pure trivial

variable (inside : scope.localGroup ∈ realm.groups) (isOpen : scope.localGroup ∈ opened)

include inside isOpen

theorem confining_bind {name : String} {value : Value} (simple : LogicalLine.isSimpleName name = true)
    (fits : realm.Fits value) :
    (confining environment realm opened limit).Keeps (Workspace.bind scope name value none) (fun _ => True) := by
  refine .bind (confining_bindingSlot simple) fun slot here => ?_
  refine .bind (confining_requireAssignable slot name) fun _ _ => ?_
  rw [here]
  exact confining_setMember slot.name inside isOpen fits

theorem confining_bindItem {name : String} {value : Value} (fits : realm.Fits value) :
    (confining environment realm opened limit).Keeps (Interpreter.bindItem scope name value) (fun _ => True) := by
  refine .bind (confining_requireAssignable _ name).ofAccess fun _ _ => ?_
  exact confining_setMember name inside isOpen fits

theorem confining_assignInto {slot : Slot} {indices : List Value} {value : Value} (name : String)
    (here : slot.group = scope.localGroup) (fits : realm.Fits value) :
    (confining environment realm opened limit).Keeps (Interpreter.assignInto slot name indices value) (fun _ => True) := by
  unfold Interpreter.assignInto
  rw [here]
  refine .ite (fun _ => confining_setMember slot.name inside isOpen fits) fun _ => ?_
  refine .bind .get fun workspace holds => ?_
  split
  · exact .fail _
  · exact .fail _
  · rename_i stored _ found
    have fitsStored := holds.members _ inside slot.name stored found
    refine .bind (.ofResult fun result replaced => ?_) fun result fitsResult =>
      confining_setMember slot.name inside isOpen fitsResult
    exact realm.hereditary.replaceAt fits fitsStored replaced

theorem confining_assignValue {target : Target} {indices : List Value} {value : Value}
    (simple : LogicalLine.isSimpleName target.name = true) (fits : realm.Fits value) :
    (confining environment realm opened limit).Keeps (Interpreter.assignValue scope target indices value)
      (fun _ => True) := by
  refine .bind (confining_bindingSlot simple).ofAccess fun slot here => ?_
  refine .bind (confining_requireAssignable slot target.name).ofAccess fun _ _ => ?_
  exact confining_assignInto inside isOpen target.name here fits

theorem confining_define {name : String} {code : Code} (simple : LogicalLine.isSimpleName name = true)
    (fits : code.Fits realm.Fits) :
    (confining environment realm opened limit).Keeps (Interpreter.define scope name code) (fun _ => True) := by
  have made : (confining environment realm opened limit).Keeps (Action.newDefinition code)
      (fun id => realm.Fits (.defined id)) := by
    apply Guarantee.Keeps.modifyGet
    intro workspace holds
    obtain ⟨holdsAfter, leads⟩ := holds.confined (holds.newDefinition fits) (.of_groups rfl rfl) rfl
    exact ⟨holdsAfter, leads, .defined (holds.newDefinitions _ (Nat.le_refl _))⟩
  exact .bind made fun id fitsId => (confining_bind inside isOpen simple fitsId).ofAccess

theorem confining_bindProcedure {procedure : Procedure} (simple : LogicalLine.isSimpleName procedure.name = true)
    (admits : realm.AdmitsProcedure procedure) :
    (confining environment realm opened limit).Keeps (Interpreter.bindProcedure scope procedure) (fun _ => True) := by
  have made : (confining environment realm opened limit).Keeps (Action.newProcedure procedure)
      (fun id => realm.Fits (.procedure id)) := by
    apply Guarantee.Keeps.modifyGet
    intro workspace holds
    obtain ⟨holdsAfter, leads⟩ := holds.confined (holds.newProcedure admits) (.of_groups rfl rfl) rfl
    exact ⟨holdsAfter, leads, .procedure (holds.newProcedures _ (Nat.le_refl _))⟩
  exact .bind made fun id fitsId => (confining_bind inside isOpen simple fitsId).ofAccess

end Binding

/-! ### Runs inside a realm -/

/-- An interpreter that changes nothing but the local group of a scope, as long as it stays in a realm. -/
structure Isolates (environment : Environment) (inner : Interpreter) : Prop where
  executes : ∀ {realm : Realm .isolated} {limit scope statement}, realm.Covers scope → realm.Admits statement →
    (confining environment realm {scope.localGroup} limit).Keeps (inner.execute statement scope)
      (Signal.Fits realm.Fits)
  evaluates : ∀ {realm : Realm .isolated} {limit scope code}, realm.Covers scope → code.Fits realm.Fits →
    (confining environment realm {scope.localGroup} limit).Keeps (inner.evaluate code scope) realm.Fits

section Inside

variable {environment : Environment} {inner : Interpreter} {realm : Realm .isolated} {opened : Set GroupId} {limit : Nat}
  {scope : Scope}

/-- Where the body of a call runs, the root has one more member. -/
theorem Workspace.group_root_inBody {workspace : Workspace} (rooted : workspace.root < workspace.size) (group : Group)
    (name : String) : (workspace.inBody group name).group workspace.root =
      (workspace.group workspace.root).set name (.group workspace.size) := by
  have grown := workspace.size_le_newGroup group
  have hung : (workspace.inBody group name).group workspace.root =
      ((workspace.newGroup group).2.group workspace.root).set name (.group workspace.size) :=
    (group_modifyGroup _ _ _ _ (Nat.lt_of_lt_of_le rooted grown)).trans (if_pos rfl)
  rw [hung, group_newGroup_of_lt rooted]

/-- What the body of a call leaves alone is as before the call once the name of the call is removed. -/
theorem group_after_call {before after : Workspace} {group : Group} {name output : String} {log : Array LogEntry}
    (rooted : before.root < before.size) (free : (before.group before.root).has name = false)
    (confined : Confined {before.size} (before.inBody group name) after) {id : GroupId}
    (present : id < before.size) : (after.afterCall name output log).group id = before.group id := by
  have presentInside : id < (before.inBody group name).size := by
    rw [Workspace.size_inBody]
    exact Nat.lt_succ_of_lt present
  have apart : id ∉ ({before.size} : Set GroupId) := fun same => Nat.ne_of_lt present same
  have kept : after.group id = (before.inBody group name).group id := confined.others id presentInside apart
  have root : after.root = before.root := confined.root
  change (after.modifyGroup after.root (·.remove name)).group id = before.group id
  rw [root]
  by_cases isRoot : before.root = id
  · subst isRoot
    have presentAfter : before.root < after.size := Nat.lt_of_lt_of_le presentInside confined.size
    rw [Workspace.group_modifyGroup _ _ _ _ presentAfter, if_pos rfl, kept, Workspace.group_root_inBody rooted,
      Group.remove_set _ free]
  · have untouched : (before.inBody group name).group id = (before.newGroup group).2.group id :=
      Workspace.group_modifyGroup_of_ne _ isRoot
    rw [Workspace.group_modifyGroup_of_ne _ isRoot, kept, untouched, Workspace.group_newGroup_of_lt present]

theorem Realm.Isolating.inBody {before : Workspace} {procedure : String} {group : Group}
    (holds : realm.Isolating environment opened limit before)
    (fits : ∀ name value, group.get? name = some value → realm.Fits value) :
    realm.Isolating environment {before.size} limit
      (before.inBody group (environment.callName procedure before.calls)) where
  toGoverns := holds.toGoverns.inBody _ fits
  closed := Nat.ne_of_lt holds.rooted
  fresh := by
    have root := Workspace.group_root_inBody holds.rooted group (environment.callName procedure before.calls)
    change environment.FreshCalls (before.calls + 1) limit (Workspace.group _ before.root)
    rw [root]
    exact holds.fresh.entered procedure _

/-- Once its body has run, a call has left all groups as they were. -/
theorem Realm.Isolating.afterCall {before after : Workspace} {procedure : String} {group : Group}
    (holds : realm.Isolating environment opened limit before)
    (holdsAfter : realm.Isolating environment {before.size} limit after)
    (leads : ConfinedUpTo limit {before.size}
      (before.inBody group (environment.callName procedure before.calls)) after)
    (output : String) (log : Array LogEntry) :
    realm.Isolating environment opened limit
        (after.afterCall (environment.callName procedure before.calls) output log) ∧
      ConfinedUpTo limit opened before
        (after.afterCall (environment.callName procedure before.calls) output log) := by
  have root : after.root = before.root := leads.root
  have counted : before.calls + 1 ≤ after.calls := leads.calls
  have same (enough : after.calls ≤ limit) {id : GroupId} (present : id < before.size) :
      (after.afterCall (environment.callName procedure before.calls) output log).group id = before.group id := by
    have free := holds.fresh.unbound before.calls (Nat.le_refl _) (Nat.lt_of_lt_of_le counted enough) procedure
    exact group_after_call holds.rooted free (leads.confined enough) present
  refine ⟨⟨holdsAfter.toGoverns.afterCall _ output log, ?_, ?_⟩, root, Nat.le_of_succ_le counted, fun enough => ?_⟩
  · change after.root ∉ opened
    rw [root]
    exact holds.closed
  · change environment.FreshCalls after.calls limit (Workspace.group _ after.root)
    by_cases enough : after.calls ≤ limit
    · rw [root, same enough holds.rooted]
      exact holds.fresh.later (Nat.le_of_succ_le counted)
    · exact .of_le (Nat.le_of_not_le enough)
  · refine ⟨root, ?_, fun id present _ => same enough present⟩
    have size := (leads.confined enough).size
    rw [Workspace.size_inBody] at size
    rw [Workspace.size_afterCall]
    exact Nat.le_of_succ_le size

/-- A call leaves all groups as they were. -/
theorem confining_callProcedure (isolates : Isolates environment inner) {procedure : Procedure}
    {arguments : List Value} {keywords : List (String × Value)} (admits : realm.AdmitsProcedure procedure)
    (fitsAll : FitAll realm.Fits arguments) (fitsKeywords : FitAll realm.Fits (keywords.map Prod.snd)) :
    (confining environment realm opened limit).Keeps (inner.callProcedure environment procedure arguments keywords)
      realm.Fits := by
  apply Guarantee.Keeps.everywhere
  intro before holds
  have newGroup : before.size ∈ realm.groups := holds.newGroups _ (Nat.le_refl _)
  have covers : realm.Covers before.callScope := ⟨newGroup, newGroup⟩
  have body : (confining environment realm {before.size} limit).Keeps _ _ :=
    Conduct.keeps_block fun statement member => isolates.executes covers (admits.body statement member)
  apply keepsFrom_callProcedure (confining environment realm {before.size} limit) realm.hereditary holds rfl rfl
  · exact body.here (holds.inBody fun _ _ => fits_callGroup admits.defaults fitsAll fitsKeywords)
  · intro after output log holdsAfter leads
    exact holds.afterCall holdsAfter leads output log

/-- What the interpreter relies on so that only the local group changes. -/
theorem confining_conduct (isolates : Isolates environment inner) (covers : realm.Covers scope) :
    Conduct (confining environment realm {scope.localGroup} limit) realm.Fits realm.Admits environment inner scope where
  toCarries := Realm.carries fun holds => holds.toGoverns
  consults := by
    intro before after holds consulted
    have governs := holds.consulted covers.localGroup covers.moduleGroup consulted
    obtain ⟨cache, output, log, rfl, -⟩ := consulted
    exact holds.confined governs (.of_groups rfl rfl) rfl
  nests := fun depth holds => holds.confined (holds.aside _ _ _ _ depth) (.of_groups rfl rfl) rfl
  grows := by
    intro workspace holds
    have governs : realm.Governs (workspace.newGroup {}).2 := by
      apply holds.newGroup
      intro name value found
      cases found
    obtain ⟨holdsAfter, leads⟩ := holds.confined governs (.newGroup {}) rfl
    exact ⟨holdsAfter, leads, .group (holds.newGroups _ (Nat.le_refl _))⟩
  searched := fun holds => covers.searched holds.toGoverns
  evaluates := isolates.evaluates covers
  callsProcedure := by
    intro workspace id arguments keywords holds fits fitsAll fitsKeywords
    cases fits with
    | plain isPlain => cases isPlain
    | procedure inside =>
        exact confining_callProcedure isolates (holds.procedures id inside) fitsAll fitsKeywords
  callsNative := by
    intro function arguments fits harmful _
    cases fits with
    | plain isPlain => cases isPlain
    | native harmless =>
        rw [harmless] at harmful
        cases harmful
  codes := fun admits => (admits _ .here).2
  parts := fun admits _ inside => Realm.admits_part admits inside
  executes := isolates.executes covers
  bindsItem := confining_bindItem covers.localGroup (Set.mem_singleton _)
  assigns := fun admits _ fits => confining_assignValue covers.localGroup (Set.mem_singleton _) (admits _ .here).1 fits
  defines := fun admits =>
    confining_define covers.localGroup (Set.mem_singleton _) (admits _ .here).1 ((admits _ .here).2 _ List.mem_cons_self)
  definesProcedure := fun admits fits =>
    confining_bindProcedure covers.localGroup (Set.mem_singleton _) (admits _ .here).1 ⟨fits, Realm.admits_body admits⟩
  deletes := fun admits => by cases (admits _ .here).1
  imports := fun admits => by cases (admits _ .here).1

/-- The interpreter changes nothing but the local group, however many levels it has. -/
theorem isolates_ofLevels (environment : Environment) (levels : Nat) :
    Isolates environment (.ofLevels environment levels) := by
  induction levels with
  | zero => exact ⟨fun _ _ => .throw _, fun _ _ => .throw _⟩
  | succ levels ih =>
      constructor
      · intro realm limit scope statement covers admits
        exact (confining_conduct ih covers).keeps_executeWith levels admits
      · intro realm limit scope code covers fits
        exact (confining_conduct ih covers).keeps_evaluateWith fits

end Inside

/-- What a call is given: its arguments and what the procedure brings along. -/
def GivenToCall (procedure : Procedure) (arguments : List Value) (keywords : List (String × Value)) (value : Value) :
    Prop :=
  value ∈ arguments ∨ value ∈ keywords.map Prod.snd ∨ procedure.Brings value

/-- A call of a procedure that stays local leaves every group as it was, if all procedures that can be come by stay
local too, all native functions are harmless, and the names made up for calls during the run are fresh.  In particular the
entry of the call in the root is gone. -/
theorem groups_after_callProcedure {environment : Environment} {levels : Nat} {procedure : Procedure}
    {arguments : List Value} {keywords : List (String × Value)} {workspace after : Workspace}
    (rooted : workspace.root < workspace.size) (localOnly : LocalOnly procedure.body)
    (tame : ∀ value, Held workspace (GivenToCall procedure arguments keywords) value → Rules.isolated.Tames workspace value)
    (ends : Ends ((Interpreter.ofLevels environment levels).callProcedure environment procedure arguments keywords)
      workspace after)
    (fresh : environment.FreshCalls workspace.calls after.calls (workspace.group workspace.root)) :
    ∀ id < workspace.size, after.group id = workspace.group id := by
  let realm := Rules.isolated.realm workspace (GivenToCall procedure arguments keywords)
  have admits : realm.AdmitsProcedure procedure :=
    admitsProcedure_of_brings tame localOnly fun value brought => .given (.inr (.inr brought))
  have fitsAll : FitAll realm.Fits arguments :=
    fun value member => fits_of_held tame value (.given (.inl member))
  have fitsKeywords : FitAll realm.Fits (keywords.map Prod.snd) :=
    fun value member => fits_of_held tame value (.given (.inr (.inl member)))
  have keeps : (confining environment realm ∅ after.calls).Keeps _ _ :=
    confining_callProcedure (isolates_ofLevels environment levels) admits fitsAll fitsKeywords
  obtain ⟨-, leads⟩ := keeps.of_ends ⟨governs_realm tame rooted, Set.notMem_empty _, fresh⟩ ends
  intro id present
  exact (leads.confined (Nat.le_refl _)).others id present (Set.notMem_empty id)

/-- A procedure that binds a name and then calls itself without end. -/
def descent : Procedure where
  name := "f"
  params := ["n"]
  defaults := []
  doc := none
  body :=
    [.assign ⟨"x", []⟩ ⟨[.load "n"], "n"⟩, .leave (some ⟨[.load "f", .load "x", .call 1 []], "f(x)"⟩)]

/-- A workspace in which the procedure is bound in the root. -/
def descentWorkspace : Workspace :=
  { Workspace.empty with store := (Workspace.empty.store.newProcedure descent).2 }.setMember 0 "f" (.procedure 0)

theorem within_descent {statement inner : Statement} (member : statement ∈ descent.body)
    (within : inner.Within statement) : inner = statement := by
  simp only [descent, List.mem_cons, List.not_mem_nil, or_false] at member
  rcases member with rfl | rfl
  · cases within with
    | here => rfl
    | part inside => cases inside
  · cases within with
    | here => rfl
    | part inside => cases inside

theorem localOnly_descent : LocalOnly descent.body := by
  intro statement member inner within
  rw [within_descent member within]
  simp only [descent, List.mem_cons, List.not_mem_nil, or_false] at member
  rcases member with rfl | rfl
  · decide
  · rfl

theorem not_brings_descent (value : Value) : ¬descent.Brings value := by
  rintro (default | ⟨statement, member, inner, within, code, held, pushed⟩)
  · cases default
  · rw [within_descent member within] at held
    simp only [descent, List.mem_cons, List.not_mem_nil, or_false] at member
    rcases member with rfl | rfl
    · rw [List.mem_singleton.mp held] at pushed
      simp at pushed
    · rw [List.mem_singleton.mp held] at pushed
      simp at pushed

theorem held_descentWorkspace_of_given {given : Value → Prop}
    (simple : ∀ value, given value → value.isPlain = true ∨ ∃ id, value = .group id) {value : Value}
    (held : Held descentWorkspace given value) :
    given value ∧ value.isPlain = true ∨ (∃ id, value = .group id) ∨ value = .procedure 0 := by
  induction held with
  | @given value isGiven =>
      rcases simple value isGiven with isPlain | isGroup
      · exact .inl ⟨isGiven, isPlain⟩
      · exact .inr (.inl isGroup)
  | root => exact .inr (.inl ⟨_, rfl⟩)
  | module _ => exact .inr (.inl ⟨_, rfl⟩)
  | searched _ => exact .inr (.inl ⟨_, rfl⟩)
  | @member id name value _ found _ =>
      obtain ⟨member, kept, rfl⟩ := Option.map_eq_some_iff.mp found
      have bound := Dictionary.mem_of_find kept
      match id with
      | 0 =>
          have entries : (descentWorkspace.group 0).members.entries =
              [("_sys", ⟨.group 1, false⟩), ("_builtin", ⟨.group 2, false⟩), ("_math", ⟨.group 3, false⟩),
                ("f", ⟨.procedure 0, false⟩)] := rfl
          rw [entries] at bound
          simp only [List.mem_cons, List.not_mem_nil, or_false, Prod.mk.injEq] at bound
          rcases bound with ⟨-, rfl⟩ | ⟨-, rfl⟩ | ⟨-, rfl⟩ | ⟨-, rfl⟩
          · exact .inr (.inl ⟨1, rfl⟩)
          · exact .inr (.inl ⟨2, rfl⟩)
          · exact .inr (.inl ⟨3, rfl⟩)
          · exact .inr (.inr rfl)
      | 1 => cases bound
      | 2 => cases bound
      | 3 => cases bound
      | id + 4 =>
          have absent : descentWorkspace.size ≤ id + 4 := Nat.le_add_left 4 id
          rw [Workspace.group_of_size_le absent] at bound
          cases bound
  | item _ _ ih => rcases ih with ⟨-, impossible⟩ | ⟨_, impossible⟩ | impossible <;> cases impossible
  | brought _ brought ih =>
      rcases ih with ⟨-, impossible⟩ | ⟨_, impossible⟩ | same
      · cases impossible
      · cases impossible
      · cases same
        exact absurd brought (not_brings_descent _)
  | defined _ _ ih => rcases ih with ⟨-, impossible⟩ | ⟨_, impossible⟩ | impossible <;> cases impossible

theorem held_descentWorkspace {value : Value}
    (held : Held descentWorkspace (GivenToCall descent [.int 7] []) value) :
    value = .int 7 ∨ (∃ id, value = .group id) ∨ value = .procedure 0 := by
  have given (value : Value) (isGiven : GivenToCall descent [.int 7] [] value) : value = .int 7 := by
    rcases isGiven with argument | keyword | brought
    · exact List.mem_singleton.mp argument
    · cases keyword
    · exact absurd brought (not_brings_descent value)
  have simple (value : Value) (isGiven : GivenToCall descent [.int 7] [] value) :
      value.isPlain = true ∨ ∃ id, value = .group id := by
    rw [given value isGiven]
    exact .inl rfl
  rcases held_descentWorkspace_of_given simple held with ⟨isGiven, -⟩ | others
  · exact .inl (given value isGiven)
  · exact .inr others

/-- A procedure that calls itself up to the limit of the depth leaves all groups as they were. -/
theorem groups_after_callProcedure_descent :
    ∃ after, Ends ((Interpreter.ofLevels { maxDepth := 2 } 8).callProcedure { maxDepth := 2 } descent [.int 7] [])
        descentWorkspace after ∧
      { maxDepth := 2 : Environment }.FreshCalls descentWorkspace.calls after.calls
        (descentWorkspace.group descentWorkspace.root) ∧
      ∀ id < 4, after.group id = descentWorkspace.group id := by
  have tame (value : Value) (held : Held descentWorkspace (GivenToCall descent [.int 7] []) value) :
      Rules.isolated.Tames descentWorkspace value := by
    rcases held_descentWorkspace held with rfl | ⟨id, rfl⟩ | rfl
    · trivial
    · trivial
    · exact localOnly_descent
  have success : succeeds ((Interpreter.ofLevels { maxDepth := 2 } 8).callProcedure { maxDepth := 2 } descent [.int 7] [])
      descentWorkspace = true := by
    decide +kernel
  obtain ⟨value, after, finished⟩ := exists_of_succeeds success
  have fresh : { maxDepth := 2 : Environment }.FreshCalls descentWorkspace.calls after.calls
      (descentWorkspace.group descentWorkspace.root) :=
    Environment.freshCalls_of_counted rfl (by decide) _ _
  exact ⟨after, .inl ⟨value, finished⟩, fresh,
    groups_after_callProcedure (by decide) localOnly_descent tame (.inl ⟨value, finished⟩) fresh⟩

end GroupScript
