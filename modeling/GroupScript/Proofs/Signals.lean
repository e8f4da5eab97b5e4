import GroupScript.Proofs.ProcedureCalls
import GroupScript.Session

/-!
# Where signals come from

A statement that breaks off or continues a loop, or leaves a procedure, raises a signal that ends the statements around
it.  The signal goes no further than the construct it belongs to: a loop takes the signals that break and continue, and a
call takes every signal of the procedure's body and makes a value of it.  So a signal that comes out of a statement was
raised by a part of the statement that no such construct encloses, whatever procedures and defined variables have run in
between.  A program whose signals all stand within their constructs runs without any.
-/

namespace GroupScript

/-- What a signal asks of the statements around. -/
inductive Escape
  | breakLoop
  | continueLoop
  | leave
  deriving DecidableEq, Repr

def Signal.escape? : Signal → Option Escape
  | .normal => none
  | .continueLoop => some .continueLoop
  | .breakLoop => some .breakLoop
  | .leave _ => some .leave

/-- A part of a statement asks for something that no construct between the part and the statement gives: loops give
what asks to break or to continue, and procedures give everything. -/
inductive Statement.Exposes : Statement → Escape → Prop
  | breakLoop : Exposes .breakLoop .breakLoop
  | continueLoop : Exposes .continueLoop .continueLoop
  | leave (values : Option Code) : Exposes (.leave values) .leave
  | branch {escape : Escape} {branches : List (Code × List Statement)} {branch : Code × List Statement}
      {part : Statement} :
      branch ∈ branches → part ∈ branch.2 → Exposes part escape → Exposes (.choose branches) escape
  | attempted {escape : Escape} {body handler : List Statement} {part : Statement} :
      part ∈ body → Exposes part escape → Exposes (.attempt body handler) escape
  | handled {escape : Escape} {body handler : List Statement} {part : Statement} :
      part ∈ handler → Exposes part escape → Exposes (.attempt body handler) escape
  | looped {condition : Code} {body : List Statement} {part : Statement} :
      part ∈ body → Exposes part .leave → Exposes (.loop condition body) .leave
  | iterated {name : String} {items : Code} {body : List Statement} {part : Statement} :
      part ∈ body → Exposes part .leave → Exposes (.iterate name items body) .leave

/-- Statements all of whose signals stand within their constructs. -/
def Contained (program : List Statement) : Prop :=
  ∀ statement ∈ program, ∀ escape, ¬statement.Exposes escape

/-- Whatever a signal asks for is among what may be asked for. -/
def Signal.Within (exposed : Escape → Prop) (signal : Signal) : Prop :=
  ∀ escape ∈ signal.escape?, exposed escape

theorem Signal.within_normal (exposed : Escape → Prop) : Signal.normal.Within exposed := by
  intro escape asked
  cases asked

theorem Signal.Within.imp {exposed wider : Escape → Prop} {signal : Signal} (within : signal.Within exposed)
    (widens : ∀ escape, exposed escape → wider escape) : signal.Within wider :=
  fun escape asked => widens escape (within escape asked)

theorem Signal.eq_normal_of_within {exposed : Escape → Prop} {signal : Signal} (within : signal.Within exposed)
    (nothing : ∀ escape, ¬exposed escape) : signal = .normal := by
  cases signal with
  | normal => rfl
  | continueLoop => exact absurd (within .continueLoop rfl) (nothing _)
  | breakLoop => exact absurd (within .breakLoop rfl) (nothing _)
  | leave value => exact absurd (within .leave rfl) (nothing _)

theorem Gives.caught {α : Type} {action : Action α} {property : α → Prop} (gives : Gives action property) :
    Gives action.caught fun result => ∀ value, result = .ok value → property value := by
  intro before result after finished
  rw [Action.caught] at finished
  split at finished
  · rename_i value state ran
    cases finished
    rintro _ ⟨⟩
    exact gives ran
  · cases finished
    rintro _ ⟨⟩
  · cases finished

namespace Interpreter

variable {environment : Environment} {inner : Interpreter} {scope : Scope} {body : List Statement}
  {exposed : Escape → Prop}

/-! ### The constructs -/

/-- A signal that comes out of a block comes out of one of its statements. -/
theorem gives_block (executes : ∀ part ∈ body, Gives (inner.execute part scope) (Signal.Within part.Exposes)) :
    Gives (inner.block scope body) (Signal.Within fun escape => ∃ part ∈ body, part.Exposes escape) := by
  induction body with
  | nil => exact .pure (Signal.within_normal _)
  | cons statement rest ih =>
      refine .bind (executes statement List.mem_cons_self) fun signal within => ?_
      have gives := ih fun part member => executes part (List.mem_cons_of_mem _ member)
      have here : signal.Within fun escape => ∃ part ∈ statement :: rest, part.Exposes escape :=
        within.imp fun escape exposes => ⟨statement, List.mem_cons_self, exposes⟩
      cases signal with
      | normal =>
          refine gives.imp fun result later => later.imp ?_
          rintro escape ⟨part, member, exposes⟩
          exact ⟨part, List.mem_cons_of_mem _ member, exposes⟩
      | _ => exact .pure here

theorem gives_choose {evaluate : Code → Action Value} {block : List Statement → Action Signal}
    {branches : List (Code × List Statement)}
    (blocks : ∀ branch ∈ branches, Gives (block branch.2) (Signal.Within exposed)) :
    Gives (choose evaluate block branches) (Signal.Within exposed) := by
  induction branches with
  | nil => exact .pure (Signal.within_normal _)
  | cons branch rest ih =>
      refine .bind (.trivial _) fun value _ => .ite (fun _ => ?_) fun _ => ?_
      · exact blocks branch List.mem_cons_self
      · exact ih fun other member => blocks other (List.mem_cons_of_mem _ member)

/-- What a loop ends with is normal or leaves the procedure. -/
theorem within_afterBody {signal result : Signal} (within : signal.Within exposed)
    (ends : afterBody signal = some result) : result.Within fun escape => escape = .leave ∧ exposed .leave := by
  cases signal with
  | normal => cases ends
  | continueLoop => cases ends
  | breakLoop =>
      cases ends
      exact Signal.within_normal _
  | leave value =>
      cases ends
      rintro escape ⟨⟩
      exact ⟨rfl, within .leave rfl⟩

theorem gives_repeatWhile {condition : Action Value} {run : Action Signal} (runs : Gives run (Signal.Within exposed))
    (bound : Nat) :
    Gives (repeatWhile condition run bound) (Signal.Within fun escape => escape = .leave ∧ exposed .leave) := by
  induction bound with
  | zero => exact .throw _
  | succ bound ih =>
      refine .bind (.trivial _) fun value _ => .ite (fun _ => ?_) fun _ => .pure (Signal.within_normal _)
      refine .bind runs fun signal within => ?_
      cases ends : afterBody signal with
      | none => exact ih
      | some result => exact .pure (within_afterBody within ends)

theorem gives_repeatFor {name : String} {run : Action Signal} (runs : Gives run (Signal.Within exposed))
    (items : List Value) :
    Gives (repeatFor scope name run items) (Signal.Within fun escape => escape = .leave ∧ exposed .leave) := by
  induction items with
  | nil => exact .pure (Signal.within_normal _)
  | cons item rest ih =>
      refine .bind (.trivial _) fun _ _ => .bind runs fun signal within => ?_
      cases ends : afterBody signal with
      | none => exact ih
      | some result => exact .pure (within_afterBody within ends)

/-! ### Statements -/

/-- What comes out of a statement is exposed by it, if the same is true of what it runs inside. -/
theorem gives_executeBy {evaluate : Code → Action Value} {block : List Statement → Action Signal}
    {imports : List Import → Action Unit}
    (blocks : ∀ body, Gives (block body) (Signal.Within fun escape => ∃ part ∈ body, part.Exposes escape))
    (bound : Nat) (statement : Statement) :
    Gives (executeBy evaluate block imports bound statement scope) (Signal.Within statement.Exposes) := by
  have silent {α : Type} (action : Action α) :
      Gives (do let _ ← action; return .normal : Action Signal) (Signal.Within statement.Exposes) :=
    .bind (.trivial _) fun _ _ => .pure (Signal.within_normal _)
  cases statement with
  | evaluate code command => exact silent _
  | assign target code => exact silent _
  | define name code => exact silent _
  | procedure signature doc body => exact silent _
  | choose branches =>
      refine gives_choose fun branch member => (blocks branch.2).imp fun signal within => within.imp ?_
      rintro escape ⟨part, inside, exposes⟩
      exact .branch member inside exposes
  | loop condition body =>
      refine (gives_repeatWhile (blocks body) bound).imp fun signal within => within.imp ?_
      rintro escape ⟨rfl, part, inside, exposes⟩
      exact .looped inside exposes
  | iterate name items body =>
      refine .bind (.trivial _) fun value _ => .bind (.trivial _) fun workspace _ => .bind (.trivial _) fun items _ => ?_
      refine (gives_repeatFor (blocks body) items).imp fun signal within => within.imp ?_
      rintro escape ⟨rfl, part, inside, exposes⟩
      exact .iterated inside exposes
  | attempt body handler =>
      refine .bind (blocks body).caught fun result within => ?_
      cases result with
      | ok signal =>
          refine .pure ((within signal rfl).imp ?_)
          rintro escape ⟨part, inside, exposes⟩
          exact .attempted inside exposes
      | error error =>
          refine (blocks handler).imp fun signal within => within.imp ?_
          rintro escape ⟨part, inside, exposes⟩
          exact .handled inside exposes
  | delete names => exact silent _
  | print items =>
      refine .bind (.trivial _) fun value _ => .bind (.trivial _) fun _ _ => .pure (Signal.within_normal _)
  | leave values =>
      refine .bind (.trivial _) fun value _ => .pure ?_
      rintro escape ⟨⟩
      exact .leave values
  | breakLoop =>
      refine .pure ?_
      rintro escape ⟨⟩
      exact .breakLoop
  | continueLoop =>
      refine .pure ?_
      rintro escape ⟨⟩
      exact .continueLoop
  | importModules items => exact silent _

/-- The induction is on the levels: what is nested inside a statement, the bodies of the procedures it calls included, runs
on fewer. -/
theorem gives_execute (environment : Environment) (levels : Nat) (statement : Statement) (scope : Scope) :
    Gives ((ofLevels environment levels).execute statement scope) (Signal.Within statement.Exposes) := by
  induction levels generalizing statement scope with
  | zero => exact .throw _
  | succ levels ih => exact gives_executeBy (fun body => gives_block fun part _ => ih part scope) levels statement

/-- A loop ends normally or leaves the procedure around it. -/
theorem normal_or_leave {signal : Signal} (within : signal.Within fun escape => escape = .leave) :
    signal = .normal ∨ ∃ value, signal = .leave value := by
  cases signal with
  | normal => exact .inl rfl
  | leave value => exact .inr ⟨value, rfl⟩
  | breakLoop => cases within .breakLoop rfl
  | continueLoop => cases within .continueLoop rfl

/-! ### Calls and sessions -/

/-- What a call gives whose body ends with a signal. -/
def resultOf : Signal → Value
  | .leave value => unwrapSingle value
  | _ => .nil

/-- Whatever signal ends the body of a procedure, the call goes on and gives a value. -/
theorem callProcedure_of_block {procedure : Procedure} {arguments : List Value} {keywords : List (String × Value)}
    {name : String} {before entered after : Workspace} {signal : Signal}
    (arity : arguments.length = procedure.params.length) (shallow : before.depth < environment.maxDepth)
    (entry : enterCall environment procedure (procedure.callGroup arguments keywords) before = .ok (name, scope) entered)
    (ran : inner.block scope procedure.body { entered with depth := entered.depth + 1 } = .ok signal after) :
    ∃ last, inner.callProcedure environment procedure arguments keywords before = .ok (resultOf signal) last := by
  have called := callProcedure_of_enterCall arity shallow entry inner procedure.body
  rw [bind_apply, caught_deeper_of_ok ran] at called
  cases signal <;> exact ⟨_, called⟩

theorem execute_evaluate (environment : Environment) (levels : Nat) (code : Code) (command : Bool) (scope : Scope) :
    (ofLevels environment levels).execute (.evaluate code command) scope =
      (do let _ ← (ofLevels environment levels).evaluate code scope; return .normal) := by
  cases levels <;> rfl

theorem normal_of_execute {levels : Nat} {statement : Statement} {signal : Signal} {before after : Workspace}
    (contained : ∀ escape, ¬statement.Exposes escape)
    (ran : (ofLevels environment levels).execute statement scope before = .ok signal after) : signal = .normal :=
  Signal.eq_normal_of_within (gives_execute environment levels statement scope ran) contained

end Interpreter

theorem Session.act_eq_ok {α : Type} {action : Action α} {session after : Session} {value : α}
    (ended : Session.act action session = .ok value after) :
    ∃ workspace, action session.workspace = .ok value workspace ∧ after = { session with workspace } := by
  rw [act] at ended
  split at ended
  · rename_i result workspace ran
    cases ended
    exact ⟨workspace, ran, rfl⟩
  · cases ended

/-- A session has nothing to ignore of a statement whose signals stand within their constructs. -/
theorem Session.execute_of_contained {environment : Environment} {levels : Nat} {statement : Statement}
    {session after : Session} {value : Option Value} (contained : ∀ escape, ¬statement.Exposes escape)
    (ended : Session.execute (.ofLevels environment levels) statement session = .ok value after) :
    ∃ workspace, (Interpreter.ofLevels environment levels).execute statement session.scope session.workspace =
      .ok .normal workspace ∧ after = { session with workspace } := by
  rw [Session.execute, get_bind_apply] at ended
  split at ended
  · rename_i code
    obtain ⟨result, between, ran, ended⟩ := bind_eq_ok ended
    cases ended
    obtain ⟨workspace, evaluated, rfl⟩ := act_eq_ok ran
    refine ⟨workspace, ?_, rfl⟩
    rw [Interpreter.execute_evaluate, bind_apply, evaluated]
    rfl
  · obtain ⟨signal, between, ran, ended⟩ := bind_eq_ok ended
    obtain ⟨workspace, executed, rfl⟩ := act_eq_ok ran
    obtain rfl := Interpreter.normal_of_execute contained executed
    cases ended
    exact ⟨workspace, executed, rfl⟩

/-- Signals stay within their constructs.  What comes out of a statement is raised in it outside loops and procedures, or
outside procedures if it leaves one.  So a loop never breaks or continues what is around it, every signal that ends the
body of a procedure becomes the value of the call, an expression ends normally whatever it calls and reads, and a program
that raises signals within their constructs only runs normally, in a session too, which then has nothing to ignore. -/
theorem Interpreter.signals_stay_within (environment : Environment) (levels : Nat) :
    (∀ statement scope before signal after,
      (ofLevels environment levels).execute statement scope before = .ok signal after →
        ∀ escape ∈ signal.escape?, statement.Exposes escape) ∧
    (∀ condition body scope before signal after,
      (ofLevels environment levels).execute (.loop condition body) scope before = .ok signal after →
        signal = .normal ∨ ∃ value, signal = .leave value) ∧
    (∀ name items body scope before signal after,
      (ofLevels environment levels).execute (.iterate name items body) scope before = .ok signal after →
        signal = .normal ∨ ∃ value, signal = .leave value) ∧
    (∀ procedure arguments keywords before name scope entered signal after,
      arguments.length = procedure.params.length → before.depth < environment.maxDepth →
      enterCall environment procedure (procedure.callGroup arguments keywords) before = .ok (name, scope) entered →
      (ofLevels environment levels).block scope procedure.body { entered with depth := entered.depth + 1 } =
        .ok signal after →
        ∃ last, (ofLevels environment levels).callProcedure environment procedure arguments keywords before =
          .ok (resultOf signal) last) ∧
    (∀ code command scope before signal after,
      (ofLevels environment levels).execute (.evaluate code command) scope before = .ok signal after →
        signal = .normal) ∧
    (∀ program, Contained program → ∀ scope before signal after,
      (ofLevels environment levels).block scope program before = .ok signal after → signal = .normal) ∧
    ∀ program, Contained program → ∀ statement ∈ program, ∀ session value after,
      Session.execute (ofLevels environment levels) statement session = .ok value after →
        ∃ workspace, (ofLevels environment levels).execute statement session.scope session.workspace =
          .ok .normal workspace ∧ after = { session with workspace } := by
  refine ⟨?_, ?_, ?_, ?_, ?_, ?_, ?_⟩
  · intro statement scope before signal after ran
    exact gives_execute environment levels statement scope ran
  · intro condition body scope before signal after ran
    apply normal_or_leave
    refine (gives_execute environment levels _ scope ran).imp fun escape exposes => ?_
    cases exposes
    rfl
  · intro name items body scope before signal after ran
    apply normal_or_leave
    refine (gives_execute environment levels _ scope ran).imp fun escape exposes => ?_
    cases exposes
    rfl
  · intro procedure arguments keywords before name scope entered signal after arity shallow entry ran
    exact callProcedure_of_block arity shallow entry ran
  · intro code command scope before signal after ran
    refine normal_of_execute ?_ ran
    intro escape exposes
    cases exposes
  · intro program contained scope before signal after ran
    have within := gives_block (fun part _ => gives_execute environment levels part scope) ran
    refine Signal.eq_normal_of_within within ?_
    rintro escape ⟨part, member, exposes⟩
    exact contained part member escape exposes
  · intro program contained statement member session value after ended
    exact Session.execute_of_contained (contained statement member) ended

/-- A procedure that breaks though no loop is around, a loop that continues and breaks, and a call of the procedure. -/
def strayProgram : List Statement :=
  [.procedure ⟨"f", [], []⟩ none [.breakLoop],
    .iterate "i" ⟨[.push (.list [.int 1, .int 2])], ""⟩
      [.choose [(⟨[.push (.bool true)], ""⟩, [.continueLoop])], .breakLoop],
    .evaluate ⟨[.load "f", .call 0 []], ""⟩ false]

theorem contained_strayProgram : Contained strayProgram := by
  intro statement member escape exposes
  simp only [strayProgram, List.mem_cons, List.not_mem_nil, or_false] at member
  rcases member with rfl | rfl | rfl
  · cases exposes
  · cases exposes with
    | iterated inside exposes =>
        simp only [List.mem_cons, List.not_mem_nil, or_false] at inside
        rcases inside with rfl | rfl
        · cases exposes with
          | branch first second exposes =>
              simp only [List.mem_cons, List.not_mem_nil, or_false] at first
              subst first
              simp only [List.mem_cons, List.not_mem_nil, or_false] at second
              subst second
              cases exposes
        · cases exposes
  · cases exposes

/-- That program runs normally, and one of its parts, taken out of the loop, does not. -/
theorem Interpreter.signals_stay_within_stray :
    (∃ after, (ofLevels {} 9).block ⟨0, 0, 0⟩ strayProgram .empty = .ok .normal after) ∧
    ∃ after, (ofLevels {} 9).execute (.choose [(⟨[.push (.bool true)], ""⟩, [.continueLoop])]) ⟨0, 0, 0⟩ .empty =
        .ok .continueLoop after ∧
      Statement.Exposes (.choose [(⟨[.push (.bool true)], ""⟩, [.continueLoop])]) .continueLoop := by
  obtain ⟨exposed, -, -, -, -, normal, -⟩ := signals_stay_within {} 9
  constructor
  · have success : succeeds ((ofLevels {} 9).block ⟨0, 0, 0⟩ strayProgram) .empty = true := by decide +kernel
    obtain ⟨signal, after, ran⟩ := exists_of_succeeds success
    obtain rfl := normal strayProgram contained_strayProgram _ _ _ _ ran
    exact ⟨after, ran⟩
  · obtain ⟨after, ran⟩ : ∃ after, (ofLevels {} 9).execute (.choose [(⟨[.push (.bool true)], ""⟩, [.continueLoop])])
        ⟨0, 0, 0⟩ .empty = .ok .continueLoop after := ⟨_, rfl⟩
    exact ⟨after, ran, exposed _ _ _ _ _ ran .continueLoop rfl⟩

end GroupScript
