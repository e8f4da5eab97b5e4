import GroupScript.Proofs.BlockCompilation
import GroupScript.Proofs.GrammarCompleteness
import GroupScript.Proofs.Evaluation
import GroupScript.Proofs.ProcedureCalls

/-!
# Procedures on one line

A procedure whose body stands on the line of its header can give its value in two ways: by an expression alone, or by a
return.  A return makes a list of what it returns, and a call takes the value of a list of one out of it.  The expression
alone makes no list, but the call looks for one all the same.
-/

namespace GroupScript

/-! ### Texts in brackets -/

theorem Expr.ofText_bracketed {text : List Char} {expr : Expr} (read : ofText text = .ok expr) :
    ofText (LogicalLine.bracketed text) = .ok (.list [expr]) := by
  obtain ⟨tokens, lexed, readTokens⟩ := ofText_eq_ok.mp read
  have lexedRest : Token.ofText [']'] = .ok [.bracketRight] := by
    rw [Token.ofText_eq_ok_cons_iff rfl]
    exact ⟨.bracketRight, [], [], rfl, by rw [Token.ofText], rfl⟩
  have lexedAll : Token.ofText (LogicalLine.bracketed text) = .ok (.bracketLeft :: (tokens ++ [.bracketRight])) := by
    rw [LogicalLine.bracketed, Token.ofText_eq_ok_cons_iff rfl]
    exact ⟨.bracketLeft, text ++ [']'], tokens ++ [.bracketRight], rfl,
      Token.ofText_append (Token.parted_bracket []) lexed lexedRest, rfl⟩
  have derived : Derives .primary (.bracketLeft :: (tokens ++ [.bracketRight])) (.list [expr]) :=
    .list (.last (derives_of_ofTokens readTokens))
  exact ofText_eq_ok.mpr ⟨_, lexedAll, derived.of_primary.ofTokens_eq_ok _⟩

/-- The code of a text in brackets gives a list of what the text gives. -/
theorem exists_codeOf_bracketed {text : List Char} {code : Code} (compiled : codeOf text = .ok code) :
    ∃ listed, codeOf (LogicalLine.bracketed text) = .ok listed ∧ listed.instrs = code.instrs ++ [.makeList 1] ∧
      ∀ {σ : Type} (host : Host σ), host.run listed = (do return .list [← host.run code]) := by
  obtain ⟨expr, read, made⟩ := codeOf_eq_ok.mp compiled
  obtain ⟨instrs, madeInstrs, finished⟩ := except_bind_eq_ok.mp made
  have madeList : (Expr.list [expr]).code (LogicalLine.bracketed text) =
      .ok ⟨instrs ++ [.makeList 1], String.ofList (Text.trim (LogicalLine.bracketed text))⟩ := by
    simp [Expr.code, Expr.instrs, Expr.instrsOfAll, madeInstrs, bind, Except.bind, pure, Except.pure]
  refine ⟨_, codeOf_eq_ok.mpr ⟨_, Expr.ofText_bracketed read, madeList⟩, ?_, fun host => ?_⟩
  · cases finished
    rfl
  rw [host.run_eq_evaluate madeList, host.run_eq_evaluate made, Host.evaluate, Host.evaluateAll]
  simp [Host.evaluateAll]

namespace Source

/-- A pair of brackets spans the whole of a text: the bracket that closes the first character is the last one. -/
def Enclosed (text : List Char) : Prop :=
  ∃ opener closer, text.head? = some opener ∧ closerOf opener = some closer ∧
    (find (fun visit => visit.char == closer && visit.depth == 1) text).map (· + 1) = some text.length

theorem stripEnclosing_of_not_enclosed {text : List Char} (trimmed : Text.trim text = text) (bare : ¬ Enclosed text) :
    stripEnclosing text = text := by
  unfold stripEnclosing
  simp only [trimmed]
  split
  · rfl
  · rename_i closer found
    obtain ⟨opener, begins, closes⟩ := Option.bind_eq_some_iff.mp found
    split
    · rename_i position closed
      rw [if_neg]
      intro last
      exact bare ⟨opener, closer, begins, closes, by rw [closed, Option.map_some, last]⟩
    · rfl

end Source

/-! ### Lines with a procedure -/

/-- The line of a procedure with its body. -/
def definitionLine (head body : List Char) : List Char :=
  ['d', 'e', 'f'] ++ ' ' :: (head ++ ':' :: ' ' :: body)

/-- The statement that returns the value of an expression. -/
def returnLine (text : List Char) : List Char :=
  ['r', 'e', 't', 'u', 'r', 'n'] ++ ' ' :: text

theorem Text.trimEnd_append_trimmed {text : List Char} (trimmed : trim text = text) (visible : text ≠ [])
    (front : List Char) : trimEnd (front ++ text) = front ++ text := by
  have nonempty : trim text ≠ [] := by rwa [trimmed]
  obtain ⟨c, rest, notBlank, -, whole⟩ := exists_trim_eq nonempty
  rw [trimmed] at whole
  rw [whole, trimEnd_append_of_visible notBlank, trimEnd_trimEnd]

theorem rest_definitionLine {body : List Char} (head : List Char) (trimmed : Text.trim body = body)
    (visible : body ≠ []) (number : Nat) (file : String) :
    (LogicalLine.ofText (definitionLine head body) number file).rest = Text.trimStart head ++ ':' :: ' ' :: body := by
  rw [definitionLine, rest_ofText_word rfl, Text.trim]
  have ended := Text.trimEnd_append_trimmed trimmed visible (Text.trimStart head ++ [':', ' '])
  rw [Text.trimStart_append_of_visible rfl]
  simpa using ended

namespace Compile

variable {scope : Scope} {bound number : Nat} {file : String} {head body text : List Char} {signature : Signature}
  {statement : Statement} {desk last : Desk}

theorem line_definitionLine {place : LogicalLine} (headed : place.signature head = .ok signature)
    (trimmed : Text.trim body = body) (visible : body ≠ [])
    (compiled : line scope bound (LogicalLine.ofText body number file) desk = .ok statement last) :
    line scope (bound + 1) (LogicalLine.ofText (definitionLine head body) number file) desk =
      .ok (.procedure signature (LogicalLine.splitDocumentation (oneLineBody statement)).1
        (LogicalLine.splitDocumentation (oneLineBody statement)).2) last := by
  obtain ⟨balanced, read⟩ := signature_trim (LogicalLine.ofText (definitionLine head body) number file) headed
  have silent : Scanner.Silent fun c depth => c == ':' && depth == 0 :=
    @Scanner.silent_of_foreign ':' rfl _ (by simp +contextual)
  have found : Source.findTopLevel ':' (Text.trimStart head ++ ':' :: ' ' :: body) =
      some (Text.trimStart head).length := by
    have unquoted : Unquoted (':' :: ' ' :: body) := unquoted_cons.mpr (by decide)
    rw [Source.findTopLevel_eq_search, balanced.trimStart.search_append silent 0 unquoted,
      Scanner.search_found rfl rfl]
    simp [Scanner.moved]
  have named : Text.trim ((Text.trimStart head ++ ':' :: ' ' :: body).take (Text.trimStart head).length) =
      Text.trim head := by
    rw [List.take_left, Text.trim, Text.trimStart_trimStart, ← Text.trim]
  have remaining : Text.trim ((Text.trimStart head ++ ':' :: ' ' :: body).drop ((Text.trimStart head).length + 1)) =
      body := by
    rw [List.drop_append, List.drop_of_length_le (by omega)]
    simp only [Nat.add_sub_cancel_left, List.nil_append, List.drop_one, List.tail_cons]
    exact trimmed
  change definition bound (line scope bound) _
    (LogicalLine.ofText (definitionLine head body) number file).rest desk = _
  simp only [definition, rest_definitionLine head trimmed visible, found, named, remaining, read]
  have finished : procedureBody bound (line scope bound)
      (LogicalLine.ofText (definitionLine head body) number file) body desk = .ok (oneLineBody statement) last := by
    have ran : inline (line scope bound) (LogicalLine.ofText (definitionLine head body) number file) body desk =
        .ok statement last := compiled
    unfold procedureBody
    rw [if_neg (by simpa using visible)]
    refine (bind_apply _ _ desk).trans ?_
    rw [ran]
    rfl
  change (procedureBody bound (line scope bound) (LogicalLine.ofText (definitionLine head body) number file) body >>=
    fun statements => pure (Statement.procedure signature (LogicalLine.splitDocumentation statements).1
      (LogicalLine.splitDocumentation statements).2)) desk = _
  rw [bind_apply, finished]
  rfl

theorem line_returnLine (trimmed : Text.trim text = text) (bare : ¬ Source.Enclosed text) {listed : Code}
    (compiled : codeOf (LogicalLine.bracketed text) = .ok listed) (visible : text ≠ []) :
    line scope (bound + 1) (LogicalLine.ofText (returnLine text) number file) desk =
      .ok (.leave (some listed)) desk := by
  have rest : (LogicalLine.ofText (returnLine text) number file).rest = text := by
    rw [returnLine, rest_ofText_word rfl, trimmed]
  have printed : Text.isAllBlank text = false := by
    have nonempty : Text.trim text ≠ [] := by rwa [trimmed]
    obtain ⟨c, others, notBlank, -, whole⟩ := Text.exists_trim_eq nonempty
    rw [trimmed] at whole
    rw [whole]
    simp [Text.isAllBlank, notBlank]
  have returned : LogicalLine.argumentList text = .ok (some listed) := by
    simp only [LogicalLine.argumentList, Source.stripEnclosing_of_not_enclosed trimmed bare, printed, compiled]
    rfl
  change (ofResult (LogicalLine.argumentList (LogicalLine.ofText (returnLine text) number file).rest) >>= fun values =>
    pure (.leave values) : Compile Statement) desk = _
  rw [rest, returned]
  rfl

/-- If what a line gives is an expression alone, then it is the expression that the text of the line is. -/
def Expresses (text : List Char) (statement : Statement) : Prop :=
  ∀ code, statement = .evaluate code false → codeOf text = .ok code

/-- Whether a statement is an expression alone. -/
def isExpression : Statement → Bool
  | .evaluate _ false => true
  | _ => false

theorem expresses_of_other (other : isExpression statement = false) : Expresses text statement := by
  rintro code rfl
  cases other

section Arms

variable {inner : Inner} {place : LogicalLine} {rest : List Char}

theorem gives_malformed {α : Type} {property : α → Prop} (fault : StatementFault) :
    Gives (ofResult (malformed place fault) : Compile α) property :=
  (Gives.ofResult _).imp fun _ impossible => by cases impossible

theorem gives_branches (more : Nat) (condition : Code) (first : List Statement) (seenElse : Bool)
    (done : List (Code × List Statement)) :
    Gives (branches bound inner place more condition first seenElse done) (Expresses text) := by
  induction more generalizing condition first seenElse done with
  | zero => exact .throw _
  | succ more ih =>
      refine .bind (.trivial _) fun _ _ => .ite (fun _ => ?_) fun _ => ?_
      · exact .bind (.trivial _) fun _ _ => .pure (expresses_of_other rfl)
      refine .ite (fun _ => gives_malformed _) fun _ => .ite (fun _ => ?_) fun _ => ?_
      · refine .bind (.trivial _) fun _ _ => .bind (.trivial _) fun _ _ => ?_
        exact .bind (.trivial _) fun _ _ => ih _ _ _ _
      · refine .bind (.trivial _) fun _ _ => ?_
        exact .bind (.trivial _) fun _ _ => ih _ _ _ _

theorem gives_conditional : Gives (conditional bound inner place rest) (Expresses text) := by
  refine .bind (.trivial _) fun _ _ => .bind (.trivial _) fun _ _ => ?_
  refine .ite (fun _ => gives_branches _ _ _ _ _) fun _ => ?_
  exact .bind (.trivial _) fun _ _ => .pure (expresses_of_other rfl)

theorem gives_whileLoop : Gives (whileLoop bound inner place rest) (Expresses text) := by
  refine .bind (.trivial _) fun _ _ => .bind (.trivial _) fun _ _ => ?_
  exact .bind (.trivial _) fun _ _ => .pure (expresses_of_other rfl)

theorem gives_forLoop : Gives (forLoop bound inner place rest) (Expresses text) := by
  refine .bind (.trivial _) fun parts _ => ?_
  obtain ⟨head, tail⟩ := parts
  dsimp only
  split
  · exact gives_malformed _
  · refine .bind (.trivial _) fun _ _ => .bind (.trivial _) fun _ _ => ?_
    exact .bind (.trivial _) fun _ _ => .pure (expresses_of_other rfl)

theorem gives_attempt : Gives (attempt bound inner place rest) (Expresses text) := by
  refine .bind (.trivial _) fun _ _ => .ite (fun _ => ?_) fun _ => gives_malformed _
  refine .bind (.trivial _) fun _ _ => .ite (fun _ => ?_) fun _ => ?_
  · exact .bind (.trivial _) fun _ _ => .pure (expresses_of_other rfl)
  · refine .bind (.trivial _) fun _ _ => .bind (.trivial _) fun _ _ => .bind (.trivial _) fun _ _ => ?_
    exact .bind (.trivial _) fun _ _ => .pure (expresses_of_other rfl)

theorem gives_definition : Gives (definition bound inner place rest) (Expresses text) := by
  unfold definition
  split
  · refine (Gives.ofResult _).imp fun statement read => ?_
    unfold LogicalLine.definition at read
    split at read
    · cases read
    · split at read
      · cases read
      · dsimp only at read
        split at read
        · cases read
        · obtain ⟨code, -, made⟩ := except_bind_eq_ok.mp read
          cases made
          exact expresses_of_other rfl
  · refine .bind (.trivial _) fun _ _ => ?_
    exact .bind (.trivial _) fun _ _ => .pure (expresses_of_other rfl)

theorem gives_simple : Gives (simple scope place) (Expresses place.text) := by
  refine .bind (.trivial _) fun call _ => ?_
  split
  · split
    · exact .pure (expresses_of_other rfl)
    · exact gives_malformed _
  · split
    · refine .bind (Gives.ofResult _) fun code compiled => .pure ?_
      rintro _ ⟨⟩
      exact compiled
    · refine .ite (fun _ => gives_malformed _) fun _ => .bind (.trivial _) fun _ _ => ?_
      exact .bind (.trivial _) fun _ _ => .pure (expresses_of_other rfl)

/-- Only a simple statement can be an expression alone. -/
theorem gives_lineWith : Gives (lineWith bound inner scope place) (Expresses place.text) := by
  have bare {statement : Statement} (other : isExpression statement = false) :
      Gives (Compile.bare place place.rest statement) (Expresses place.text) :=
    .ite (fun _ => .pure (expresses_of_other other)) fun _ => gives_malformed _
  unfold lineWith
  simp only
  split
  case h_1 => exact gives_conditional
  case h_2 => exact gives_whileLoop
  case h_3 => exact gives_forLoop
  case h_4 => exact gives_attempt
  case h_5 => exact gives_definition
  case h_6 => exact .bind (.trivial _) fun _ _ => .pure (expresses_of_other rfl)
  case h_7 => exact .bind (.trivial _) fun _ _ => .pure (expresses_of_other rfl)
  case h_8 => exact .bind (.trivial _) fun _ _ => .pure (expresses_of_other rfl)
  case h_9 => exact bare rfl
  case h_10 => exact bare rfl
  case h_11 =>
    refine .ite (fun _ => ?_) fun _ => .ite (fun _ => gives_malformed _) fun _ => gives_simple
    refine (Gives.ofResult _).imp fun statement read => ?_
    unfold LogicalLine.importStatement at read
    simp only at read
    split at read
    · cases read
      exact expresses_of_other rfl
    · cases read

end Arms

theorem codeOf_of_line {code : Code}
    (compiled : line scope (bound + 1) (LogicalLine.ofText text number file) desk = .ok (.evaluate code false) last) :
    codeOf text = .ok code :=
  gives_lineWith compiled code rfl

end Compile

/-! ### Calls -/

/-- A procedure that does nothing but leave with the value of an expression. -/
def Procedure.leaving (procedure : Procedure) (code : Code) : Procedure :=
  { procedure with body := [.leave (some code)] }

namespace Interpreter

variable {environment : Environment} {levels : Nat} {code listed : Code} {procedure : Procedure}
  {arguments : List Value} {keywords : List (String × Value)}

theorem block_leave (environment : Environment) (levels : Nat) (code : Code) (scope : Scope) :
    (ofLevels environment levels).block scope [.leave (some code)] =
      (do return .leave (← (ofLevels environment levels).evaluate code scope)) := by
  cases levels with
  | zero => rfl
  | succ levels =>
      funext before
      have opened : (ofLevels environment (levels + 1)).execute (.leave (some code)) scope =
          (do return .leave (← (ofLevels environment (levels + 1)).evaluate code scope)) := by
        change (optional (fun code => (ofLevels environment (levels + 1)).evaluate code scope) (some code) >>= fun found =>
          pure (Signal.leave (found.getD .nil))) = _
        rw [optional, bind_assoc]
        rfl
      rw [block, opened, bind_assoc]
      rfl

/-- Calls of a procedure give the value that an expression has where the call has been entered.  If the expression fails,
the failure is reported and the call gives nothing. -/
def Returns (environment : Environment) (inner : Interpreter) (procedure : Procedure) (code : Code) : Prop :=
  ∀ arguments keywords before, arguments.length = procedure.params.length → before.depth < environment.maxDepth →
    ∃ name scope entered,
      enterCall environment procedure (procedure.callGroup arguments keywords) before = .ok (name, scope) entered ∧
      (∀ value after, inner.evaluate code scope { entered with depth := entered.depth + 1 } = .ok value after →
        inner.callProcedure environment procedure arguments keywords before =
          .ok value (after.afterCall name after.output after.log)) ∧
      ∀ error after, inner.evaluate code scope { entered with depth := entered.depth + 1 } =
          .error (.failure error) after →
        ∃ log, inner.callProcedure environment procedure arguments keywords before =
          .ok .nil (after.afterCall name
            (after.output ++ ("Error in procedure " ++ procedure.name ++ ": " ++ error.message ++ "\n")) log)

section Entered

variable {name : String} {scope : Scope} {before entered after : Workspace}
  (arity : arguments.length = procedure.params.length) (shallow : before.depth < environment.maxDepth)
  (entry : enterCall environment procedure (procedure.callGroup arguments keywords) before = .ok (name, scope) entered)

include arity shallow entry

theorem callProcedure_leaving_of_ok {value : Value}
    (evaluated : (ofLevels environment levels).evaluate code scope { entered with depth := entered.depth + 1 } =
      .ok value after) :
    (ofLevels environment levels).callProcedure environment (procedure.leaving code) arguments keywords before =
      .ok (unwrapSingle value) (after.afterCall name after.output after.log) := by
  have ran : (ofLevels environment levels).block scope [.leave (some code)]
      { entered with depth := entered.depth + 1 } = .ok (.leave value) after := by
    rw [block_leave, bind_apply, evaluated]
    rfl
  rw [Procedure.leaving, callProcedure_of_enterCall arity shallow entry, bind_apply, caught_deeper_of_ok ran]
  rfl

theorem callProcedure_leaving_of_failure {error : Error}
    (evaluated : (ofLevels environment levels).evaluate code scope { entered with depth := entered.depth + 1 } =
      .error (.failure error) after) :
    (ofLevels environment levels).callProcedure environment (procedure.leaving code) arguments keywords before =
      endCall procedure name (.error error) { after with depth := after.depth - 1 } := by
  have ran : (ofLevels environment levels).block scope [.leave (some code)]
      { entered with depth := entered.depth + 1 } = .error (.failure error) after := by
    rw [block_leave, bind_apply, evaluated]
  rw [Procedure.leaving, callProcedure_of_enterCall arity shallow entry, bind_apply, caught_deeper_of_failure ran]

theorem callProcedure_leaving_of_exhausted
    (evaluated : (ofLevels environment levels).evaluate code scope { entered with depth := entered.depth + 1 } =
      .error .exhausted after) :
    (ofLevels environment levels).callProcedure environment (procedure.leaving code) arguments keywords before =
      .error .exhausted { after with depth := after.depth - 1 } := by
  have ran : (ofLevels environment levels).block scope [.leave (some code)]
      { entered with depth := entered.depth + 1 } = .error .exhausted after := by
    rw [block_leave, bind_apply, evaluated]
  rw [Procedure.leaving, callProcedure_of_enterCall arity shallow entry, bind_apply, caught_deeper_of_exhausted ran]

end Entered

theorem callProcedure_of_arity {inner : Interpreter} {before : Workspace}
    (arity : arguments.length ≠ procedure.params.length) :
    inner.callProcedure environment procedure arguments keywords before =
      .error (.failure (.unexpectedArguments
        (.wrongPositional procedure.name procedure.params.length arguments.length))) before := by
  rw [callProcedure, if_pos arity]
  rfl

theorem callProcedure_of_depth {inner : Interpreter} {before : Workspace}
    (arity : arguments.length = procedure.params.length) (deep : environment.maxDepth ≤ before.depth) :
    inner.callProcedure environment procedure arguments keywords before =
      .error (.failure (.evaluationFailure (.callDepth procedure.name))) before := by
  have looked : (get : Action Workspace) before = .ok before before := rfl
  rw [callProcedure, if_neg (not_not_intro arity)]
  dsimp only
  rw [bind_apply, looked]
  dsimp only
  rw [if_pos deep]
  rfl

section Listed

variable (runs : ∀ {σ : Type} (host : Host σ), host.run listed = (do return .list [← host.run code]))

include runs

theorem evaluate_listed (scope : Scope) :
    (ofLevels environment levels).evaluate listed scope =
      (do return .list [← (ofLevels environment levels).evaluate code scope]) := by
  cases levels with
  | zero => rfl
  | succ levels => exact runs _

theorem evaluate_listed_of_ok {scope : Scope} {before after : Workspace} {value : Value}
    (evaluated : (ofLevels environment levels).evaluate code scope before = .ok value after) :
    (ofLevels environment levels).evaluate listed scope before = .ok (.list [value]) after := by
  rw [evaluate_listed runs, bind_apply, evaluated]
  rfl

theorem evaluate_listed_of_error {scope : Scope} {before after : Workspace} {halt : Halt}
    (evaluated : (ofLevels environment levels).evaluate code scope before = .error halt after) :
    (ofLevels environment levels).evaluate listed scope before = .error halt after := by
  rw [evaluate_listed runs, bind_apply, evaluated]

/-- A call of a procedure that returns an expression gives the value of the expression. -/
theorem returns_listed (procedure : Procedure) :
    Returns environment (ofLevels environment levels) (procedure.leaving listed) code := by
  intro arguments keywords before arity shallow
  obtain ⟨name, scope, entered, entry⟩ : ∃ name scope entered, enterCall environment procedure
      (procedure.callGroup arguments keywords) before = .ok (name, scope) entered := ⟨_, _, _, rfl⟩
  refine ⟨name, scope, entered, entry, ?_, ?_⟩
  · intro value after evaluated
    exact callProcedure_leaving_of_ok arity shallow entry (evaluate_listed_of_ok runs evaluated)
  · intro error after evaluated
    exact ⟨_, callProcedure_leaving_of_failure arity shallow entry (evaluate_listed_of_error runs evaluated)⟩

/-- A call of a procedure that is an expression is a call of one that returns it, but takes the value out of a list of
one. -/
theorem callProcedure_bare (procedure : Procedure) (arguments : List Value) (keywords : List (String × Value)) :
    (ofLevels environment levels).callProcedure environment (procedure.leaving code) arguments
        keywords =
      (do return unwrapSingle (← (ofLevels environment levels).callProcedure environment
        (procedure.leaving listed) arguments keywords)) := by
  funext before
  rw [bind_apply]
  by_cases arity : arguments.length = procedure.params.length
  · by_cases shallow : before.depth < environment.maxDepth
    · obtain ⟨name, scope, entered, entry⟩ : ∃ name scope entered, enterCall environment procedure
          (procedure.callGroup arguments keywords) before = .ok (name, scope) entered := ⟨_, _, _, rfl⟩
      cases evaluated : (ofLevels environment levels).evaluate code scope { entered with depth := entered.depth + 1 } with
      | ok value after =>
          rw [callProcedure_leaving_of_ok arity shallow entry evaluated,
            callProcedure_leaving_of_ok arity shallow entry (evaluate_listed_of_ok runs evaluated)]
          rfl
      | error halt after =>
          have evaluatedListed := evaluate_listed_of_error runs evaluated
          cases halt with
          | failure error =>
              rw [callProcedure_leaving_of_failure arity shallow entry evaluated,
                callProcedure_leaving_of_failure arity shallow entry evaluatedListed]
              rfl
          | exhausted =>
              rw [callProcedure_leaving_of_exhausted arity shallow entry evaluated,
                callProcedure_leaving_of_exhausted arity shallow entry evaluatedListed]
    · have refused (code : Code) := @callProcedure_of_depth environment (procedure.leaving code) arguments keywords
        (ofLevels environment levels) before arity (Nat.le_of_not_lt shallow)
      rw [refused, refused]
      rfl
  · have refused (code : Code) := @callProcedure_of_arity environment (procedure.leaving code) arguments keywords
      (ofLevels environment levels) before arity
    rw [refused, refused]
    rfl

end Listed

end Interpreter

/-- An expression is the body of a procedure on one line, by itself or in a return.  Calls of the procedure that returns it
give its value.  Calls of the other one do all the same, but where the value is a list of one they give the only item of
that list. -/
theorem Compile.oneLine_unwraps_returned {scope : Scope} {bound number : Nat} {file : String} {head text : List Char}
    {signature : Signature} {code : Code} {desk last : Desk}
    (headed : LogicalLine.signature default head = .ok signature) (trimmed : Text.trim text = text)
    (compiled : line scope (bound + 1) (LogicalLine.ofText text number file) desk = .ok (.evaluate code false) last)
    (plain : code.asLiteral? = none) (bare : ¬ Source.Enclosed text) :
    ∃ listed,
      line scope (bound + 2) (LogicalLine.ofText (definitionLine head text) number file) desk =
        .ok (.procedure signature none [.leave (some code)]) last ∧
      line scope (bound + 2) (LogicalLine.ofText (definitionLine head (returnLine text)) number file) desk =
        .ok (.procedure signature none [.leave (some listed)]) desk ∧
      ∀ (environment : Environment) (levels : Nat) (procedure : Procedure),
        Interpreter.Returns environment (.ofLevels environment levels) (procedure.leaving listed) code ∧
        ∀ arguments keywords,
          (Interpreter.ofLevels environment levels).callProcedure environment (procedure.leaving code) arguments keywords =
            (do return unwrapSingle (← (Interpreter.ofLevels environment levels).callProcedure environment
              (procedure.leaving listed) arguments keywords)) := by
  have expression := codeOf_of_line compiled
  have visible : text ≠ [] := by
    rintro rfl
    exact (balanced_of_codeOf expression).trim_ne_nil rfl
  obtain ⟨listed, bracketed, -, runs⟩ := exists_codeOf_bracketed expression
  have returned : line scope (bound + 1) (LogicalLine.ofText (returnLine text) number file) desk =
      .ok (.leave (some listed)) desk := line_returnLine trimmed bare bracketed visible
  have trimmedReturn : Text.trim (returnLine text) = returnLine text := by
    rw [Text.trim, returnLine]
    exact Text.trimEnd_append_trimmed trimmed visible ['r', 'e', 't', 'u', 'r', 'n', ' ']
  refine ⟨listed, ?_, ?_, fun environment levels procedure => ⟨?_, ?_⟩⟩
  · have body : oneLineBody (.evaluate code false) = [.leave (some code)] := by
      simp [oneLineBody, plain]
    have defined := line_definitionLine headed trimmed visible compiled
    rwa [body] at defined
  · exact line_definitionLine headed trimmedReturn (by simp [returnLine]) returned
  · exact Interpreter.returns_listed runs procedure
  · exact Interpreter.callProcedure_bare runs procedure

namespace Compile

/-- The name that a compiled line reads, if that is all it does. -/
def compiledName? : EStateM.Result Halt Desk Statement → Option String
  | .ok (.evaluate code false) _ => code.asName?
  | _ => none

theorem exists_of_compiledName? {result : EStateM.Result Halt Desk Statement} {name : String}
    (found : compiledName? result = some name) :
    ∃ source last, result = .ok (.evaluate ⟨[.load name], source⟩ false) last := by
  unfold compiledName? at found
  split at found
  · rename_i code last
    obtain ⟨instrs, source⟩ := code
    unfold Code.asName? at found
    split at found
    · rename_i loaded
      cases found
      cases loaded
      exact ⟨source, last, rfl⟩
    · cases found
  · cases found

/-- The names of a procedure and its parameters, if none of them has a default. -/
def plainNames? : PartResult Signature → Option (String × List String)
  | .ok ⟨name, params, []⟩ => some (name, params)
  | _ => none

theorem eq_of_plainNames? {result : PartResult Signature} {name : String} {params : List String}
    (found : plainNames? result = some (name, params)) : result = .ok ⟨name, params, []⟩ := by
  unfold plainNames? at found
  split at found
  · cases found
    rfl
  · cases found

theorem not_enclosed_letter (c : Char) (letter : Source.closerOf c = none) (rest : List Char) :
    ¬ Source.Enclosed (c :: rest) := by
  rintro ⟨opener, closer, begins, closes, -⟩
  cases begins
  rw [letter] at closes
  cases closes

/-- The lines `def f(x): x` and `def f(x): return x` define procedures that give back their argument. -/
theorem oneLine_unwraps_returned_identity :
    ∃ code listed last after,
      line ⟨0, 0, 0⟩ 2 (.ofText (definitionLine "f(x)".toList "x".toList) 1 "") ⟨{}, .empty⟩ =
        .ok (.procedure ⟨"f", ["x"], []⟩ none [.leave (some code)]) last ∧
      line ⟨0, 0, 0⟩ 2 (.ofText (definitionLine "f(x)".toList (returnLine "x".toList)) 1 "") ⟨{}, .empty⟩ =
        .ok (.procedure ⟨"f", ["x"], []⟩ none [.leave (some listed)]) ⟨{}, .empty⟩ ∧
      (Interpreter.ofLevels {} 1).callProcedure {} (Procedure.leaving ⟨"f", ["x"], [], none, []⟩ code) [.int 3] [] .empty =
        .ok (.int 3) after := by
  obtain ⟨source, last, compiled⟩ := @exists_of_compiledName?
    (line ⟨0, 0, 0⟩ 1 (.ofText "x".toList 1 "") ⟨{}, .empty⟩) "x" (by decide +kernel)
  have headed : LogicalLine.signature default "f(x)".toList = .ok ⟨"f", ["x"], []⟩ :=
    eq_of_plainNames? (by decide +kernel)
  obtain ⟨listed, bare, returned, -⟩ :=
    oneLine_unwraps_returned headed rfl compiled rfl (not_enclosed_letter 'x' rfl [])
  exact ⟨_, listed, last, _, bare, returned, rfl⟩

/-- A workspace in which a name of the root stands for a list of one. -/
def singletonWorkspace : Workspace :=
  Workspace.empty.setMember 0 "a" (.list [.int 1])

/-- Of the procedures that `def f(): a` and `def f(): return a` define, only the second one gives the value of `a`. -/
theorem oneLine_differs_from_return :
    ∃ code listed last after,
      line ⟨0, 0, 0⟩ 2 (.ofText (definitionLine "f()".toList "a".toList) 1 "") ⟨{}, singletonWorkspace⟩ =
        .ok (.procedure ⟨"f", [], []⟩ none [.leave (some code)]) last ∧
      line ⟨0, 0, 0⟩ 2 (.ofText (definitionLine "f()".toList (returnLine "a".toList)) 1 "") ⟨{}, singletonWorkspace⟩ =
        .ok (.procedure ⟨"f", [], []⟩ none [.leave (some listed)]) ⟨{}, singletonWorkspace⟩ ∧
      (Interpreter.ofLevels {} 1).callProcedure {} (Procedure.leaving ⟨"f", [], [], none, []⟩ code) [] []
        singletonWorkspace = .ok (.int 1) after ∧
      (Interpreter.ofLevels {} 1).callProcedure {} (Procedure.leaving ⟨"f", [], [], none, []⟩ listed) [] []
        singletonWorkspace = .ok (.list [.int 1]) after := by
  obtain ⟨source, last, compiled⟩ := @exists_of_compiledName?
    (line ⟨0, 0, 0⟩ 1 (.ofText "a".toList 1 "") ⟨{}, singletonWorkspace⟩) "a" (by decide +kernel)
  have headed : LogicalLine.signature default "f()".toList = .ok ⟨"f", [], []⟩ :=
    eq_of_plainNames? (by decide +kernel)
  obtain ⟨listed, bracketed, -, runs⟩ := exists_codeOf_bracketed (codeOf_of_line compiled)
  have returned : line ⟨0, 0, 0⟩ 1 (.ofText (returnLine "a".toList) 1 "") ⟨{}, singletonWorkspace⟩ = _ :=
    line_returnLine rfl (not_enclosed_letter 'a' rfl []) bracketed (by decide)
  obtain ⟨name, scope, entered, entry, after, evaluated⟩ : ∃ name scope entered, Interpreter.enterCall {}
      ⟨"f", [], [], none, []⟩ (Procedure.callGroup ⟨"f", [], [], none, []⟩ [] []) singletonWorkspace =
        .ok (name, scope) entered ∧ ∃ after, (Interpreter.ofLevels {} 1).evaluate ⟨[.load "a"], source⟩ scope
          { entered with depth := entered.depth + 1 } = .ok (.list [.int 1]) after := ⟨_, _, _, rfl, _, rfl⟩
  exact ⟨_, _, last, _, line_definitionLine headed rfl (by decide) compiled,
    line_definitionLine headed rfl (by decide) returned,
    Interpreter.callProcedure_leaving_of_ok rfl (by decide) entry evaluated,
    Interpreter.callProcedure_leaving_of_ok rfl (by decide) entry (Interpreter.evaluate_listed_of_ok runs evaluated)⟩

end Compile

end GroupScript
