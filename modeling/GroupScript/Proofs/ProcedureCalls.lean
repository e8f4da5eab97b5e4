import GroupScript.Proofs.CallNames
import GroupScript.Proofs.Concord

/-!
# Calls of procedures

A call makes a group for its parameters, hangs it in the root under a name made up for it, runs the body one level
deeper, and takes the group off the root again, whatever became of the body.  A call therefore runs in lockstep if its
body does, and a guarantee is kept that allows what is left of the states of the body once the call is over.
-/

namespace GroupScript

open Guarantee (FitAll)

/-! ### The group of a call -/

theorem Dictionary.erase_put {α : Type} {dictionary : Dictionary α} {name : String} {entry : α}
    (absent : dictionary.contains name = false) : (dictionary.put name entry).erase name = dictionary := by
  obtain ⟨entries⟩ := dictionary
  simp only [contains, get?] at absent
  suffices kept : (replace name entry entries).filter (fun item => item.1 ≠ name) = entries by
    simp only [put, erase, kept]
  induction entries with
  | nil => simp [replace]
  | cons first rest ih =>
      obtain ⟨key, old⟩ := first
      by_cases same : key = name
      · simp [find, same] at absent
      · rw [find, if_neg same] at absent
        rw [replace, if_neg same, List.filter_cons_of_pos (by simpa using same), ih absent]

/-- What is bound under a free name and then removed leaves no trace. -/
theorem Group.remove_set {group : Group} {name : String} (value : Value) (absent : group.has name = false) :
    (group.set name value).remove name = group := by
  simp only [set, remove, Dictionary.erase_put absent]

theorem get?_setAll {group : Group} {bindings : List (String × Value)} {name : String} {value : Value}
    (found : (group.setAll bindings).get? name = some value) :
    group.get? name = some value ∨ value ∈ bindings.map Prod.snd := by
  induction bindings generalizing group with
  | nil => exact .inl found
  | cons binding bindings ih =>
      rcases ih found with earlier | later
      · rw [Group.get?_set] at earlier
        split at earlier
        · cases earlier
          exact .inr List.mem_cons_self
        · exact .inl earlier
      · exact .inr (List.mem_cons_of_mem _ later)

theorem Dictionary.mem_replace {α : Type} {name : String} {entry : α} {entries : List (String × α)}
    {item : String × α} (member : item ∈ replace name entry entries) : item.2 = entry ∨ item ∈ entries := by
  induction entries with
  | nil =>
      rw [List.mem_singleton.mp member]
      exact .inl rfl
  | cons first rest ih =>
      obtain ⟨key, old⟩ := first
      rw [replace] at member
      split at member
      · rcases List.mem_cons.mp member with rfl | later
        · exact .inl rfl
        · exact .inr (List.mem_cons_of_mem _ later)
      · rcases List.mem_cons.mp member with rfl | later
        · exact .inr List.mem_cons_self
        · rcases ih later with new | old
          · exact .inl new
          · exact .inr (List.mem_cons_of_mem _ old)

theorem mem_keywordBindings {defaults given : List (String × Value)} {item : String × Value}
    (member : item ∈ keywordBindings defaults given) :
    item.2 ∈ defaults.map Prod.snd ∨ item.2 ∈ given.map Prod.snd := by
  unfold keywordBindings at member
  induction given generalizing defaults with
  | nil => exact .inl (List.mem_map_of_mem member)
  | cons first given ih =>
      rcases ih member with inDefaults | later
      · obtain ⟨kept, inside, same⟩ := List.mem_map.mp inDefaults
        rcases Dictionary.mem_replace inside with new | old
        · right
          rw [← same, new]
          exact List.mem_cons_self
        · left
          rw [← same]
          exact List.mem_map_of_mem old
      · exact .inr (List.mem_cons_of_mem _ later)

/-- The members of the group of a call are arguments and defaults. -/
theorem fits_callGroup {fit : Value → Prop} {procedure : Procedure} {arguments : List Value}
    {keywords : List (String × Value)} (fitsDefaults : FitAll fit (procedure.defaults.map Prod.snd))
    (fitsAll : FitAll fit arguments) (fitsKeywords : FitAll fit (keywords.map Prod.snd)) {name : String}
    {value : Value} (found : (procedure.callGroup arguments keywords).get? name = some value) : fit value := by
  rcases get?_setAll found with absent | bound
  · cases absent
  · rw [List.map_append, List.mem_append] at bound
    rcases bound with positional | keyword
    · obtain ⟨pair, paired, rfl⟩ := List.mem_map.mp positional
      exact fitsAll pair.2 (List.of_mem_zip paired).2
    · obtain ⟨item, member, rfl⟩ := List.mem_map.mp keyword
      rcases mem_keywordBindings member with default | given
      · exact fitsDefaults _ default
      · exact fitsKeywords _ given

theorem Value.Hereditary.unwrapSingle {fit : Value → Prop} {value : Value} (hereditary : Value.Hereditary fit)
    (fits : fit value) : fit (GroupScript.unwrapSingle value) := by
  unfold GroupScript.unwrapSingle
  split
  · exact hereditary.list.mp fits _ List.mem_cons_self
  · exact fits

/-! ### The steps of a call -/

/-- The outcome of a body decides the value of the call; besides, only texts are written. -/
theorem callResult_eq (procedure : Procedure) (outcome : Except Error Signal) (workspace : Workspace) :
    ∃ value output log,
      Interpreter.callResult procedure outcome workspace = .ok value { workspace with output, log } ∧
        (value = .nil ∨ ∃ result, outcome = .ok (.leave result) ∧ value = unwrapSingle result) := by
  unfold Interpreter.callResult
  split
  · exact ⟨_, _, _, rfl, .inr ⟨_, rfl, rfl⟩⟩
  · exact ⟨_, _, _, rfl, .inl rfl⟩
  · exact ⟨_, _, _, rfl, .inl rfl⟩
  · exact ⟨_, _, _, rfl, .inl rfl⟩

/-- The workspace in which the body of a call runs. -/
def Workspace.inBody (workspace : Workspace) (group : Group) (name : String) : Workspace :=
  { workspace.inCall group name with depth := workspace.depth + 1 }

/-- What is left of a workspace when a call ends in it that hangs in the root under a name. -/
def Workspace.afterCall (workspace : Workspace) (name output : String) (log : Array LogEntry) : Workspace :=
  { workspace with output, log, depth := workspace.depth - 1 }.modifyGroup workspace.root (·.remove name)

@[simp]
theorem Workspace.size_inBody (workspace : Workspace) (group : Group) (name : String) :
    (workspace.inBody group name).size = workspace.size + 1 :=
  (size_setMember _ _ _ _).trans (size_newGroup workspace group)

@[simp]
theorem Workspace.size_afterCall (workspace : Workspace) (name output : String) (log : Array LogEntry) :
    (workspace.afterCall name output log).size = workspace.size :=
  size_modifyGroup _ _ _

/-- Ends a call that hangs in the root under a name, once its body has come to an outcome. -/
def Interpreter.endCall (procedure : Procedure) (name : String) (outcome : Except Error Signal) : Action Value := do
  let value ← callResult procedure outcome
  leaveCall name
  return value

theorem endCall_eq (procedure : Procedure) (name : String) (outcome : Except Error Signal) (workspace : Workspace) :
    ∃ value output log,
      Interpreter.endCall procedure name outcome { workspace with depth := workspace.depth - 1 } =
        .ok value (workspace.afterCall name output log) ∧
      (value = .nil ∨ ∃ result, outcome = .ok (.leave result) ∧ value = unwrapSingle result) := by
  obtain ⟨value, output, log, told, source⟩ :=
    callResult_eq procedure outcome { workspace with depth := workspace.depth - 1 }
  refine ⟨value, output, log, ?_, source⟩
  rw [Interpreter.endCall, bind_apply, told]
  rfl

section Calls

variable {environment : Environment} {inner other : Interpreter} {procedure : Procedure} {arguments : List Value}
  {keywords : List (String × Value)} {before : Workspace}

theorem caught_deeper_of_ok {α : Type} {action : Action α} {value : α} {after : Workspace}
    (ran : action { before with depth := before.depth + 1 } = .ok value after) :
    action.deeper.caught before = .ok (.ok value) { after with depth := after.depth - 1 } := by
  rw [Action.caught, Action.deeper, ran]

theorem caught_deeper_of_failure {α : Type} {action : Action α} {error : Error} {after : Workspace}
    (ran : action { before with depth := before.depth + 1 } = .error (.failure error) after) :
    action.deeper.caught before = .ok (.error error) { after with depth := after.depth - 1 } := by
  rw [Action.caught, Action.deeper, ran]

theorem caught_deeper_of_exhausted {α : Type} {action : Action α} {after : Workspace}
    (ran : action { before with depth := before.depth + 1 } = .error .exhausted after) :
    action.deeper.caught before = .error .exhausted { after with depth := after.depth - 1 } := by
  rw [Action.caught, Action.deeper, ran]

/-- A call with the right number of arguments that is not nested too deep runs its body where it has been entered. -/
theorem callProcedure_of_enterCall {name : String} {scope : Scope} {entered : Workspace}
    (arity : arguments.length = procedure.params.length) (shallow : before.depth < environment.maxDepth)
    (entry : Interpreter.enterCall environment procedure (procedure.callGroup arguments keywords) before =
      .ok (name, scope) entered)
    (inner : Interpreter) (body : List Statement) :
    inner.callProcedure environment { procedure with body } arguments keywords before =
      ((inner.block scope body).deeper.caught >>= Interpreter.endCall procedure name) entered := by
  have looked : (get : Action Workspace) before = .ok before before := rfl
  have entryToo : Interpreter.enterCall environment { procedure with body }
      ({ procedure with body }.callGroup arguments keywords) before = .ok (name, scope) entered := entry
  rw [Interpreter.callProcedure, if_neg (not_not_intro arity)]
  dsimp only
  rw [bind_apply, looked]
  dsimp only
  rw [if_neg (Nat.not_le_of_lt shallow), bind_apply, entryToo]
  rfl

/-- A call runs in lockstep if its body does, one level deeper and under any guarantee whose states are good for this one
once the call is over. -/
theorem lockstepFrom_callProcedure {guarantee : Guarantee Workspace} (inside : Guarantee Workspace) {cutoff : Cutoff}
    {fit : Value → Prop} (hereditary : Value.Hereditary fit) (holds : guarantee.holds before) {name : String}
    {entered : Workspace}
    (named : environment.callName procedure.name before.calls = name)
    (entry : before.inBody (procedure.callGroup arguments keywords) name = entered)
    (body : arguments.length = procedure.params.length → before.depth < environment.maxDepth →
      inside.LockstepFrom cutoff entered (inner.block before.callScope procedure.body)
        (other.block before.callScope procedure.body) fun signal _ => signal.Fits fit)
    (back : arguments.length = procedure.params.length → before.depth < environment.maxDepth →
      ∀ after output log, inside.holds after → inside.leads entered after →
        guarantee.holds (after.afterCall name output log) ∧ guarantee.leads before (after.afterCall name output log)) :
    guarantee.LockstepFrom cutoff before (inner.callProcedure environment procedure arguments keywords)
      (other.callProcedure environment procedure arguments keywords) fun value _ => fit value := by
  by_cases arity : arguments.length = procedure.params.length
  · by_cases shallow : before.depth < environment.maxDepth
    · have lockstep := body arity shallow
      have called := callProcedure_of_enterCall arity shallow
        (enterCall_eq environment procedure (procedure.callGroup arguments keywords) before)
      rw [named] at called
      subst entry
      generalize procedure.callGroup arguments keywords = group at called lockstep back
      -- Whatever the body comes to is caught, and from there on the two calls are one.
      have finish {outcome : Except Error Signal} {after : Workspace} (holdsInside : inside.holds after)
          (leads : inside.leads (before.inBody group name) after)
          (fits : ∀ signal, outcome = .ok signal → signal.Fits fit)
          (caught : (inner.block before.callScope procedure.body).deeper.caught (before.inCall group name) =
            .ok outcome { after with depth := after.depth - 1 })
          (caughtToo : (other.block before.callScope procedure.body).deeper.caught (before.inCall group name) =
            .ok outcome { after with depth := after.depth - 1 }) :
          guarantee.LockstepFrom cutoff before (inner.callProcedure environment procedure arguments keywords)
            (other.callProcedure environment procedure arguments keywords) fun value _ => fit value := by
        obtain ⟨value, output, log, ended, source⟩ := endCall_eq procedure name outcome after
        obtain ⟨holdsAfter, leadsAfter⟩ := back arity shallow after output log holdsInside leads
        have finished := called inner procedure.body
        have finishedToo := called other procedure.body
        rw [bind_apply, caught] at finished
        rw [bind_apply, caughtToo] at finishedToo
        apply Guarantee.LockstepFrom.ends (finished.trans ended) (finishedToo.trans ended) holdsAfter leadsAfter
        rcases source with rfl | ⟨result, rfl, rfl⟩
        · exact hereditary.plain rfl
        · exact hereditary.unwrapSingle (fits _ rfl)
      cases ran : inner.block before.callScope procedure.body (before.inBody group name) with
      | ok signal after =>
          obtain ⟨ranToo, holdsInside, leads, fits⟩ := lockstep.ok ran
          apply finish holdsInside leads _ (caught_deeper_of_ok ran) (caught_deeper_of_ok ranToo)
          rintro _ ⟨⟩
          exact fits
      | error halt after =>
          cases halt with
          | failure error =>
              obtain ⟨ranToo, holdsInside, leads⟩ := lockstep.failure ran
              apply finish holdsInside leads _ (caught_deeper_of_failure ran) (caught_deeper_of_failure ranToo)
              rintro _ ⟨⟩
          | exhausted =>
              apply Guarantee.LockstepFrom.cut
              · rw [called inner procedure.body, bind_apply, caught_deeper_of_exhausted ran]
              · apply (lockstep.exhausted ran).imp
                intro ranToo
                rw [called other procedure.body, bind_apply, caught_deeper_of_exhausted ranToo]
    · unfold Interpreter.callProcedure
      rw [if_neg (not_not_intro arity), if_neg (not_not_intro arity)]
      apply Guarantee.LockstepFrom.reading
      dsimp only
      rw [if_pos (Nat.le_of_not_lt shallow), if_pos (Nat.le_of_not_lt shallow)]
      exact Guarantee.Lockstep.failed _ _ _ before holds
  · unfold Interpreter.callProcedure
    rw [if_pos arity, if_pos arity]
    exact Guarantee.Lockstep.failed _ _ _ before holds

theorem keepsFrom_callProcedure {guarantee : Guarantee Workspace} (inside : Guarantee Workspace) {fit : Value → Prop}
    (hereditary : Value.Hereditary fit) (holds : guarantee.holds before) {name : String} {entered : Workspace}
    (named : environment.callName procedure.name before.calls = name)
    (entry : before.inBody (procedure.callGroup arguments keywords) name = entered)
    (body : inside.KeepsFrom entered (inner.block before.callScope procedure.body) fun signal _ => signal.Fits fit)
    (back : ∀ after output log, inside.holds after → inside.leads entered after →
      guarantee.holds (after.afterCall name output log) ∧ guarantee.leads before (after.afterCall name output log)) :
    guarantee.KeepsFrom before (inner.callProcedure environment procedure arguments keywords)
      fun value _ => fit value := by
  have lockstep : guarantee.LockstepFrom .unknown before
      (inner.callProcedure environment procedure arguments keywords)
      (inner.callProcedure environment procedure arguments keywords) fun value _ => fit value :=
    lockstepFrom_callProcedure inside hereditary holds named entry (fun _ _ => .of_keeps nofun body) fun _ _ => back
  exact lockstep.keeps

end Calls

end GroupScript
