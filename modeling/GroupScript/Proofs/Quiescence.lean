import GroupScript.Proofs.DepthWatch
import GroupScript.Proofs.TextSequence

/-!
# Sessions at rest

Between the calls that the surrounding program makes, a session without a reader is at rest: no lines are waiting, no
blocks are open, no calls are in progress, and the names under which calls hung in the root are gone.  This holds
whatever the texts and files are and wherever a call failed.
-/

namespace GroupScript

/-! ### Blocks of statements -/

/-- The guarantee of compiling without a reader that all blocks that are entered are left. -/
def Compile.balancing : Guarantee Desk where
  holds := fun desk => desk.input.reader = none
  leads := fun before after => after.input.blockDepth = before.input.blockDepth
  refl := fun _ => rfl
  trans := fun first second => second.trans first

theorem Compile.routine_balancing (scope : Scope) : Routine balancing scope where
  takes := by
    refine .modifyGet fun desk noReader => ?_
    obtain ⟨found, queue, taken, -⟩ := Input.exists_next noReader
    rw [taken]
    exact ⟨noReader, rfl, trivial⟩
  asks := by
    intro name
    apply (keeps_valueOf?_pausing scope name).transfer fun _ => trivial
    intro before after noReader paused
    have same : after.input = before.input := paused
    exact ⟨(congrArg Input.reader same).trans noReader, congrArg Input.blockDepth same⟩
  nests := by
    intro α action keeps
    apply keeps_inBlock keeps fun noReader => noReader
    intro before after _ noReader same
    refine ⟨noReader, ?_⟩
    -- The depth is one more inside, and leaving the block takes that one away.
    have deeper : after.input.blockDepth = before.input.blockDepth + 1 := same
    change after.input.blockDepth - 1 = before.input.blockDepth
    rw [deeper]
    exact Nat.add_sub_cancel _ 1

namespace Session

/-! ### Runs of a session -/

/-- The guarantee of a session that is running a text. -/
def running (environment : Environment) (names : Set String) : Guarantee Session where
  holds := fun session => Settled environment names ∅ session.workspace ∧ session.input.reader = none
  leads := fun before after =>
    after.workspace.depth = before.workspace.depth ∧ after.input.blockDepth = before.input.blockDepth
  refl := fun _ => ⟨rfl, rfl⟩
  trans := fun first second => ⟨second.1.trans first.1, second.2.trans first.2⟩

section Running

variable {environment : Environment} {names : Set String} {session : Session}

theorem lockstep_act {α : Type} {first second : Action α} {property : α → Prop}
    (lockstep : (settling environment names ∅).Lockstep .alike first second property)
    (holds : (running environment names).holds session) :
    (running environment names).LockstepFrom .alike session (act first) (act second)
      fun value after => property value ∧ after.input = session.input := by
  have here := lockstep session.workspace holds.1
  cases ran : first session.workspace with
  | ok value workspace =>
      obtain ⟨ranToo, settled, same, has⟩ := here.ok ran
      have finished : act first session = .ok value { session with workspace } := by rw [act, ran]
      have finishedToo : act second session = .ok value { session with workspace } := by rw [act, ranToo]
      exact .ends finished finishedToo ⟨settled, holds.2⟩ ⟨same, rfl⟩ ⟨has, rfl⟩
  | error halt workspace =>
      have halted : act first session = .error halt { session with workspace } := by rw [act, ran]
      cases halt with
      | failure error =>
          obtain ⟨ranToo, settled, same⟩ := here.failure ran
          have failedToo : act second session = .error (.failure error) { session with workspace } := by
            rw [act, ranToo]
          exact .fails halted failedToo ⟨settled, holds.2⟩ ⟨same, rfl⟩
      | exhausted =>
          have ranToo : second session.workspace = .error .exhausted workspace := here.exhausted ran
          have haltedToo : act second session = .error .exhausted { session with workspace } := by rw [act, ranToo]
          exact .cut halted haltedToo

/-- A statement comes out of the input, or its queue has become empty. -/
theorem keepsFrom_compileNext (holds : (running environment names).holds session)
    (binds : session.input.BindsIn names) :
    (running environment names).KeepsFrom session compileNext fun found after =>
      (∀ statement, found = some statement → statement.BindsIn names ∧ after.input.BindsIn names) ∧
        (found = none → after.input.queue = []) := by
  obtain ⟨settled, noReader⟩ := holds
  have balanced := (Compile.routine_balancing session.scope).keeps_next
  have begun : Compile.balancing.holds ⟨session.input, session.workspace⟩ := noReader
  have consulted {workspace : Workspace} (consulted : session.workspace.Consulted session.scope workspace) :
      Settled environment names ∅ workspace ∧ workspace.depth = session.workspace.depth :=
    (binding_settling session.scope).consults settled consulted
  apply Guarantee.KeepsFrom.wrapping (Compile.next session.scope ⟨session.input, session.workspace⟩)
  · intro found desk ran
    obtain ⟨-, looked, -⟩ := Compile.consults_next.ok trivial ran
    obtain ⟨noReaderAfter, sameBlocks, -⟩ := balanced.ok begun ran
    refine ⟨found, _, compileNext_of_ok ran, ⟨(consulted looked).1, noReaderAfter⟩, ⟨(consulted looked).2, sameBlocks⟩,
      ?_, ?_⟩
    · rintro statement rfl
      exact ⟨binds statement (.next ran), fun later yields => binds later (.later ran yields)⟩
    · rintro rfl
      obtain ⟨ended, -⟩ := Compile.ended_of_next ran
      obtain ⟨found, queue, taken, emptied⟩ := Input.exists_next noReader
      rw [ended] at taken
      obtain ⟨rfl, left⟩ := Prod.mk.inj taken
      change desk.input.queue = []
      rw [left]
      exact emptied rfl
  · intro halt desk ran
    refine ⟨halt, _, compileNext_of_error ran, fun final => ?_⟩
    obtain ⟨-, looked⟩ := Compile.consults_next.error trivial ran final
    obtain ⟨noReaderAfter, sameBlocks⟩ := balanced.error begun ran final
    exact ⟨⟨(consulted looked).1, noReaderAfter⟩, (consulted looked).2, sameBlocks⟩

variable (surroundings : environment.BindsIn names)

include surroundings

theorem lockstep_execute {statement : Statement} (alarm : Halt) (levels : Nat)
    (holds : (running environment names).holds session) (binds : statement.BindsIn names) :
    (running environment names).LockstepFrom .alike session
      (execute (.watched environment alarm levels) statement) (execute (.ofLevels environment levels) statement)
      fun _ after => after.input = session.input := by
  obtain ⟨executes, evaluates⟩ := lockstep_watched surroundings alarm levels ∅
  apply Guarantee.LockstepFrom.reading
  dsimp only
  split
  · apply (lockstep_act (evaluates _ session.scope) holds).bind
    rintro value after holdsAfter ⟨-, same⟩
    exact .pure holdsAfter same
  · apply (lockstep_act (executes session.scope binds) holds).bind
    rintro signal after holdsAfter ⟨-, same⟩
    split
    · exact .pure holdsAfter same
    · have warns : (settling environment names ∅).Lockstep .alike (modify fun workspace : Workspace =>
          workspace.warn ("ignoring " ++ workspace.store.signalText signal ++ " outside of loop or procedure"))
          _ fun _ => True :=
        .changing fun state settled => (binding_settling default).consults settled (Workspace.consulted_told _ _)
      apply (lockstep_act warns holdsAfter).bind
      rintro _ last holdsLast ⟨-, sameToo⟩
      exact .pure holdsLast (sameToo.trans same)

/-- The statements of an input run in lockstep, and at their end the queue is empty. -/
theorem lockstep_runStatements (alarm : Halt) (levels bound : Nat) (last : Option Value)
    (holds : (running environment names).holds session) (binds : session.input.BindsIn names) :
    (running environment names).LockstepFrom .alike session
      (runStatements (.watched environment alarm levels) bound last)
      (runStatements (.ofLevels environment levels) bound last) fun _ after => after.input.queue = [] := by
  induction bound generalizing last session with
  | zero => exact .cut rfl rfl
  | succ bound ih =>
      have mayCut : Cutoff.alike ≠ .never := nofun
      apply Guarantee.LockstepFrom.bind (.of_keeps mayCut (keepsFrom_compileNext holds binds))
      rintro next after holdsAfter ⟨made, ended⟩
      cases next with
      | none => exact .pure holdsAfter (ended rfl)
      | some statement =>
          obtain ⟨bindsFirst, bindsRest⟩ := made statement rfl
          apply (lockstep_execute surroundings alarm levels holdsAfter bindsFirst).bind
          intro value later holdsLater same
          rw [← same] at bindsRest
          exact ih (value <|> last) holdsLater bindsRest

end Running

/-! ### Calls of the surrounding program -/

/-- What the surrounding program asks a session to run: a text or a file. -/
inductive Call
  | text (text : String)
  | file (path : String)

/-- Runs what a call asks for. -/
def perform (environment : Environment) (interpreter : Interpreter) : Call → Run Session (Option Value)
  | .text text => eval interpreter text
  | .file path => runFile interpreter environment.files path

/-- A session without a reader in which nothing is waiting and nothing is in progress. -/
structure AtRest (session : Session) : Prop where
  queue : session.input.queue = []
  reader : session.input.reader = none
  blocks : session.input.blockDepth = 0
  depth : session.workspace.depth = 0

/-- The guarantee that a session is at rest again. -/
def resting (environment : Environment) (names : Set String) : Guarantee Session where
  holds := fun session => session.AtRest ∧ Settled environment names ∅ session.workspace
  leads := fun _ _ => True
  refl := fun _ => trivial
  trans := fun _ _ => trivial

section Performing

variable {environment : Environment} {names : Set String} (surroundings : environment.BindsIn names)

include surroundings

/-- A text leaves a session at rest, whether it succeeds or fails. -/
theorem lockstep_evalAs {text : String} (alarm : Halt) (levels : Nat) (file : String)
    (binds : ∀ statement, Source.Yields text statement → statement.BindsIn names) :
    (resting environment names).Lockstep .alike (evalAs (.watched environment alarm levels) file text)
      (evalAs (.ofLevels environment levels) file text) fun _ => True := by
  rintro session ⟨rest, settled⟩
  let pushed : Session := { session with input := session.input.pushText text.toList file }
  have unfolded (interpreter : Interpreter) : evalAs interpreter file text session =
      clearingOnHalt (runStatements interpreter (pushed.input.unread + 1) none) pushed := rfl
  have bindsInput : pushed.input.BindsIn names :=
    fun statement yields => binds statement ⟨session.input, file, rest.queue, rest.reader, yields⟩
  have lockstep := @lockstep_runStatements environment names pushed surroundings alarm levels (pushed.input.unread + 1) none
    ⟨settled, rest.reader⟩ bindsInput
  cases ran : runStatements (.watched environment alarm levels) (pushed.input.unread + 1) none pushed with
  | ok value after =>
      obtain ⟨ranToo, ⟨settledAfter, noReader⟩, ⟨sameDepth, sameBlocks⟩, emptied⟩ := lockstep.ok ran
      apply Guarantee.LockstepFrom.ends (by rw [unfolded, clearingOnHalt, ran])
        (by rw [unfolded, clearingOnHalt, ranToo])
      · exact ⟨⟨emptied, noReader, sameBlocks.trans rest.blocks, sameDepth.trans rest.depth⟩, settledAfter⟩
      · trivial
      · trivial
  | error halt after =>
      cases halt with
      | failure error =>
          obtain ⟨ranToo, ⟨settledAfter, noReader⟩, sameDepth, -⟩ := lockstep.failure ran
          apply Guarantee.LockstepFrom.fails (by rw [unfolded, clearingOnHalt, ran])
            (by rw [unfolded, clearingOnHalt, ranToo])
          · exact ⟨⟨rfl, noReader, rfl, sameDepth.trans rest.depth⟩, settledAfter⟩
          · trivial
      | exhausted =>
          have ranToo : runStatements (.ofLevels environment levels) (pushed.input.unread + 1) none pushed =
              .error .exhausted after :=
            lockstep.exhausted ran
          apply Guarantee.LockstepFrom.cut (by rw [unfolded, clearingOnHalt, ran])
          rw [unfolded, clearingOnHalt, ranToo]
          rfl

theorem lockstep_perform (alarm : Halt) (levels : Nat) {call : Call}
    (binds : ∀ text, call = .text text → ∀ statement, Source.Yields text statement → statement.BindsIn names) :
    (resting environment names).Lockstep .alike (perform environment (.watched environment alarm levels) call)
      (perform environment (.ofLevels environment levels) call) fun _ => True := by
  cases call with
  | text text => exact lockstep_evalAs surroundings alarm levels textFile (binds text rfl)
  | file path =>
      have reads : (resting environment names).Lockstep .alike (ofResult (environment.files.read path)) _
          fun text => environment.files.read path = .ok text :=
        .ofResult fun text read => read
      apply reads.bind
      intro text read
      exact lockstep_evalAs surroundings alarm levels path fun statement => surroundings.files read

end Performing

/-- Calls that come to their ends one after the other, each with as many levels as it needs. -/
inductive Performs (environment : Environment) : List Call → Session → Session → Prop
  | nil (session : Session) : Performs environment [] session session
  | cons {call : Call} {rest : List Call} {before between after : Session} (levels : Nat) :
      Ends (perform environment (.ofLevels environment levels) call) before between →
      Performs environment rest between after → Performs environment (call :: rest) before after

/-- The session after some calls, if all of them come to their ends with a number of levels. -/
def performAll? (environment : Environment) (levels : Nat) : List Call → Session → Option Session
  | [], session => some session
  | call :: rest, session =>
      match perform environment (.ofLevels environment levels) call session with
      | .ok _ after => performAll? environment levels rest after
      | .error (.failure _) after => performAll? environment levels rest after
      | .error .exhausted _ => none

theorem performs_of_performAll? {environment : Environment} {levels : Nat} {calls : List Call} {session after : Session}
    (performed : performAll? environment levels calls session = some after) :
    Performs environment calls session after := by
  induction calls generalizing session with
  | nil =>
      cases performed
      exact .nil _
  | cons call rest ih =>
      rw [performAll?] at performed
      split at performed
      · rename_i value between ran
        exact .cons levels (.inl ⟨value, ran⟩) (ih performed)
      · rename_i error between ran
        exact .cons levels (.inr ⟨error, ran⟩) (ih performed)
      · cases performed

/-- The names that something else than the start of a call may bind in the root of a session, before or during some
calls of the surrounding program: those bound there, those of modules, those that statements bind, and those that programs
of the surroundings bind. -/
inductive BoundOtherwise (environment : Environment) (calls : List Call) (session : Session) : Set String
  | root {name : String} :
      (session.workspace.group session.workspace.root).has name = true → BoundOtherwise environment calls session name
  | module {name : String} :
      Importable environment session.workspace name → BoundOtherwise environment calls session name
  | procedure {id : ProcedureId} {statement inner : Statement} {name : String} :
      statement ∈ (session.workspace.store.procedure id).body → inner.Within statement → name ∈ inner.boundNames →
      BoundOtherwise environment calls session name
  | text {text : String} {statement inner : Statement} {name : String} :
      .text text ∈ calls → Source.Yields text statement → inner.Within statement → name ∈ inner.boundNames →
      BoundOtherwise environment calls session name
  | file {path text : String} {statement inner : Statement} {name : String} :
      environment.files.read path = .ok text → Source.Yields text statement → inner.Within statement →
      name ∈ inner.boundNames → BoundOtherwise environment calls session name
  | supply {source : String} {state : Workspace} {supply : Supply state.store} {id : ProcedureId}
      {statement inner : Statement} {name : String} :
      environment.load source state = .ok (some supply) → state.store.procedures.size ≤ id →
      statement ∈ (supply.store.procedure id).body → inner.Within statement → name ∈ inner.boundNames →
      BoundOtherwise environment calls session name
  | program {function : String} {host : HostFunction} {arguments : List Value} {name : String} :
      environment.function? function = some host → (host.run arguments).Binds name →
      BoundOtherwise environment calls session name

theorem surroundings_bindIn (environment : Environment) (calls : List Call) (session : Session) :
    environment.BindsIn (BoundOtherwise environment calls session) where
  files := fun read yields _ within _ => .file read yields within
  supplies := fun provided _ isNew _ member _ within _ => .supply provided isNew member within
  programs := fun _ known _ => .program known

/-- The names made up for calls are not bound otherwise. -/
def CallNamesApart (environment : Environment) (calls : List Call) (session : Session) : Prop :=
  ∀ procedure number, environment.callName procedure number ∉ BoundOtherwise environment calls session

theorem resting_of_performs {environment : Environment} {names : Set String} {calls : List Call}
    {session after : Session}
    (surroundings : environment.BindsIn names)
    (binds : ∀ text, .text text ∈ calls → ∀ statement, Source.Yields text statement → statement.BindsIn names)
    (performs : Performs environment calls session after) (holds : (resting environment names).holds session) :
    (resting environment names).holds after := by
  induction performs with
  | nil session => exact holds
  | @cons call rest before between after levels ended _ ih =>
      have lockstep := @lockstep_perform environment names surroundings .exhausted levels call
        fun text same => binds text (same ▸ List.mem_cons_self)
      have here := lockstep before holds
      have endedToo : Ends (perform environment (.watched environment .exhausted levels) call) before between := by
        rw [Ends, here.eq]
        exact ended
      obtain ⟨holdsBetween, -⟩ := lockstep.keeps.of_ends holds endedToo
      exact ih (fun text member => binds text (List.mem_cons_of_mem call member)) holdsBetween

/-- After any calls that have come to their ends, well or badly, a session is at rest: no lines are waiting, no blocks are
open, the depth is zero, and a name made up for a call is bound in the root only if it is bound otherwise, so that none is
if the names made up are apart from those.  And during the next call, whatever it is, the depth stays within its limit,
since watching it makes no difference. -/
theorem quiescent_after_performs {environment : Environment} {calls : List Call} {session after : Session}
    (rest : session.AtRest) (rooted : session.workspace.root < session.workspace.size)
    (performs : Performs environment calls session after) :
    after.input.queue = [] ∧ after.input.blockDepth = 0 ∧ after.workspace.depth = 0 ∧
      (∀ procedure number,
        (after.workspace.group after.workspace.root).has (environment.callName procedure number) = true →
        environment.callName procedure number ∈ BoundOtherwise environment calls session) ∧
      (CallNamesApart environment calls session → ∀ procedure number,
        (after.workspace.group after.workspace.root).has (environment.callName procedure number) = false) ∧
      ∀ alarm levels call, perform environment (.watched environment alarm levels) call after =
        perform environment (.ofLevels environment levels) call after := by
  have shallow : session.workspace.depth ≤ environment.maxDepth := by
    rw [rest.depth]
    exact Nat.zero_le _
  have settled : Settled environment (BoundOtherwise environment calls session) ∅ session.workspace :=
    ⟨rooted, shallow, fun _ _ has => .inl (.root has), fun _ _ member _ within _ => .procedure member within,
      fun _ => .module⟩
  have quiet := resting_of_performs (surroundings_bindIn environment calls session)
    (fun _ member _ yields _ within _ => .text member yields within) performs ⟨rest, settled⟩
  obtain ⟨restAfter, settledAfter⟩ := quiet
  have left (procedure : String) (number : Nat)
      (has : (after.workspace.group after.workspace.root).has (environment.callName procedure number) = true) :
      environment.callName procedure number ∈ BoundOtherwise environment calls session := by
    rcases settledAfter.calls procedure number has with bound | impossible
    · exact bound
    · cases impossible
  refine ⟨restAfter.queue, restAfter.blocks, restAfter.depth, left, ?_, ?_⟩
  · intro apart procedure number
    exact Bool.eq_false_iff.mpr fun has => apart procedure number (left procedure number has)
  · intro alarm levels call
    have settledAnyhow : Settled environment Set.univ ∅ after.workspace :=
      ⟨settledAfter.rooted, settledAfter.shallow, fun _ _ _ => .inl trivial, fun _ _ _ _ _ _ _ => trivial,
        fun _ _ => trivial⟩
    have lockstep := @lockstep_perform environment Set.univ environment.bindsIn_univ alarm levels call
      fun _ _ _ _ _ _ _ _ => trivial
    exact (lockstep after ⟨restAfter, settledAnyhow⟩).eq

/-- A text whose procedure calls itself without end, a file that does not exist, and a text whose block is not closed. -/
def troubledCalls : List Call :=
  [.text "def f(n):\n  return f(n)\nenddef\nf(1)", .file "missing.tdl",
    .text "for i in [1, 2]:\n  if i:\n    f(i)\n  endif"]

/-- Whether a session has no reserved names in its root. -/
def hasPlainRoot (session : Session) : Bool :=
  (session.workspace.group session.workspace.root).members.entries.all fun entry => !isReserved entry.1

/-- A session is at rest after calls that fail in different ways, and no reserved name is left in its root. -/
theorem quiescent_after_troubledCalls :
    ∃ after, Performs { maxDepth := 2 } troubledCalls (start {}) after ∧ after.hasPlainRoot = true ∧
      after.input.queue = [] ∧ after.input.blockDepth = 0 ∧ after.workspace.depth = 0 ∧
      ∀ alarm levels call, perform { maxDepth := 2 } (.watched { maxDepth := 2 } alarm levels) call after =
        perform { maxDepth := 2 } (.ofLevels { maxDepth := 2 } levels) call after := by
  have performed : (performAll? { maxDepth := 2 } 8 troubledCalls (start {})).any hasPlainRoot = true := by
    decide +kernel
  obtain ⟨after, reached, plain⟩ := (Option.any_eq_true _ _).mp performed
  have performs := performs_of_performAll? reached
  obtain ⟨queue, blocks, depth, -, -, watched⟩ := quiescent_after_performs ⟨rfl, rfl, rfl, rfl⟩ (by decide) performs
  exact ⟨after, performs, plain, queue, blocks, depth, watched⟩

end Session

end GroupScript
