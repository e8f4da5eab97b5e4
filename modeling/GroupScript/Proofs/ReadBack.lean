import GroupScript.Proofs.LineTaking
import GroupScript.Proofs.Segments
import GroupScript.Proofs.TextSequence
import GroupScript.Proofs.WrittenValues

/-!
# Values read back

The quoted form of a value made of literals is a statement of the language.  A new session compiles it as an expression,
because none of the words in it names anything, and running the expression gives the value.  The only values that are
not read back are those in which the least whole number occurs.
-/

namespace GroupScript

namespace Compile

/-- The words that begin a statement other than a simple one. -/
def statementWords : List String :=
  ["if", "while", "for", "try", "def", "del", "print", "return", "break", "continue", "import", "from"] ++
    blockWords

/-- A line that begins with none of these words is a simple statement. -/
theorem lineWith_of_simple (bound : Nat) (inner : Inner) (scope : Scope) {line : LogicalLine}
    (other : statementWords.contains line.key = false) :
    lineWith bound inner scope line = simple scope line := by
  have excluded {word : String} (begins : line.key = word) (belongs : statementWords.contains word = true) :
      False := by
    rw [begins, belongs] at other
    cases other
  have noImport : ((line.key == "import" || line.key == "from") && line.isImport line.rest) = false := by
    cases isImport : line.key == "import" || line.key == "from" with
    | false => rfl
    | true =>
        simp only [Bool.or_eq_true, beq_iff_eq] at isImport
        rcases isImport with begins | begins
        · exact (excluded begins (by decide)).elim
        · exact (excluded begins (by decide)).elim
  have noBlock : blockWords.contains line.key = false := by
    cases belongs : blockWords.contains line.key with
    | false => rfl
    | true =>
        have : statementWords.contains line.key = true := by
          rw [statementWords, List.contains_append, belongs, Bool.or_true]
        rw [this] at other
        cases other
  unfold lineWith
  simp only
  split
  case h_11 => simp only [noImport, noBlock, Bool.false_eq_true, Bool.false_and, if_false]
  all_goals exact (excluded ‹_› (by decide)).elim

end Compile

namespace Value

variable (store : Store)

/-- No statement begins with a digit. -/
theorem statementWords_digits (n : Nat) :
    Compile.statementWords.contains (keyOf (Decimal.digits n)) = false := by
  have checked : (Compile.statementWords.all fun word => !word.toList.head?.any Decimal.isDigit) = true := by
    decide
  obtain ⟨c, rest, split⟩ := List.exists_cons_of_ne_nil (Decimal.digits_ne_nil n)
  have digit : Decimal.isDigit c = true := by
    have all := Decimal.all_isDigit_digits n
    rw [split] at all
    simp_all
  have same : c.toLower = c := @Token.of_isDigit (fun c => c.toLower = c) (by decide) c digit
  have started : (keyOf (Decimal.digits n)).toList.head? = some c := by
    rw [split, keyOf, String.toList_ofList,
      List.takeWhile_cons_of_pos (Token.isNameChar_of_isDigit digit), List.map_cons, List.head?_cons,
      same]
  cases belongs : Compile.statementWords.contains (keyOf (Decimal.digits n)) with
  | false => rfl
  | true =>
      have rejected := List.all_eq_true.mp checked _ (List.contains_iff_mem.mp belongs)
      rw [started] at rejected
      simp [digit] at rejected

/-- A written value begins with no word that begins a statement. -/
theorem Literal.statementWords_key {value : Value} (literal : value.Literal) :
    Compile.statementWords.contains (keyOf (store.quotedChars value)) = false := by
  have mark {c : Char} (noName : Text.isNameChar c = false) (text : List Char) : keyOf (c :: text) = "" := by
    rw [keyOf, List.takeWhile_cons_of_neg (by simp [noName])]
    rfl
  cases literal with
  | nil => exact show Compile.statementWords.contains (keyOf "None".toList) = false by decide
  | bool value =>
      cases value with
      | false => exact show Compile.statementWords.contains (keyOf "False".toList) = false by decide
      | true => exact show Compile.statementWords.contains (keyOf "True".toList) = false by decide
  | int n =>
      change Compile.statementWords.contains (keyOf (Decimal.integerText n.toInt)) = false
      unfold Decimal.integerText
      split
      · rw [mark rfl]
        decide
      · exact statementWords_digits _
  | string text =>
      change Compile.statementWords.contains (keyOf ('\'' :: _)) = false
      rw [mark rfl]
      decide
  | list each =>
      change Compile.statementWords.contains (keyOf ('[' :: _)) = false
      rw [mark rfl]
      decide

/-- A value made of literals is written as a whole statement. -/
theorem Literal.stands {value : Value} (literal : value.Literal) :
    Compile.Stands (store.quotedChars value) := by
  have passes := literal.passesWritten store
  have missed {mark : Char} (foreign : Scanner.isWrittenChar mark = false) :
      ({} : Scanner).feed (fun visit => visit.char == mark) (store.quotedChars value) = (none, {}) := by
    apply passes.feed
    intro visit written
    rw [beq_eq_false_iff_ne]
    rintro rfl
    rw [written] at foreign
    cases foreign
  have comment := @missed '#' rfl
  have semicolon := @missed ';' rfl
  constructor
  · rw [literal.trim_quotedChars]
    cases literal with
    | int n =>
        intro empty
        change Decimal.integerText n.toInt = [] at empty
        unfold Decimal.integerText at empty
        split at empty
        · cases empty
        · exact Decimal.digits_ne_nil _ empty
    | bool value => cases value <;> exact List.cons_ne_nil _ _
    | _ => exact List.cons_ne_nil _ _
  · rw [literal.trim_quotedChars]
    have stripped := Source.stripComment_of_missed (congrArg Prod.fst comment)
    have kept : (({} : Scanner).search (fun c _ => c == '#') (store.quotedChars value)).2 = {} :=
      congrArg Prod.snd comment
    simp only [Source.isWhole, stripped, kept, Source.findUnquoted, Source.find, comment, semicolon]
    rfl

theorem Literal.findAssign_eq_none {value : Value} (literal : value.Literal) :
    Source.findAssign (store.quotedChars value) = none := by
  rw [Source.findAssign, Source.find, (literal.passesWritten store).feed]
  intro visit written
  have other : (visit.char == '=') = false := by
    rw [beq_eq_false_iff_ne]
    intro same
    rw [same] at written
    cases written
  simp [other]

end Value

/-! ### Words that name nothing -/

/-- Whether a text is one of the words for constants or begins like a number. -/
def isLiteralWord (text : List Char) : Bool :=
  ["None".toList, "True".toList, "False".toList].contains text ||
    text.head?.any fun c => Decimal.isDigit c || c == '-'

theorem Dictionary.find_eq_none {α : Type} {name : String} {entries : List (String × α)}
    (absent : ∀ entry ∈ entries, entry.1 ≠ name) : find name entries = none := by
  induction entries with
  | nil => rfl
  | cons entry entries ih =>
      obtain ⟨key, value⟩ := entry
      have other : key ≠ name := absent (key, value) List.mem_cons_self
      rw [find, if_neg other]
      exact ih fun entry member => absent entry (List.mem_cons_of_mem _ member)

/-- In the standard workspace no word for a constant and no number is bound in any group. -/
theorem Workspace.get?_standard {name : String} (word : isLiteralWord name.toList = true) (id : GroupId) :
    (Workspace.standard.store.group id).get? name = none := by
  have checked : (Workspace.standard.store.groups.toList.all fun group =>
      group.members.entries.all fun entry => !isLiteralWord entry.1.toList) = true := by
    decide +kernel
  have absent {group : Group} (kept : group ∈ Workspace.standard.store.groups.toList) :
      group.get? name = none := by
    have clean := List.all_eq_true.mp checked group kept
    rw [Group.get?, Dictionary.get?, Dictionary.find_eq_none, Option.map_none]
    rintro entry member rfl
    have rejected := List.all_eq_true.mp clean entry member
    rw [word] at rejected
    cases rejected
  unfold Store.group
  rw [Array.getD_eq_getD_getElem?]
  cases found : Workspace.standard.store.groups[id]? with
  | none => rfl
  | some group => exact absent (Array.mem_def.mp (Array.mem_of_getElem? found))

namespace Compile

variable {scope : Scope} {input : Input} {workspace : Workspace}

/-- A word that is bound in no group has no value. -/
theorem valueOf?_of_unbound {text : List Char} (clean : '.' ∉ text) (notRoot : String.ofList text ≠ rootName)
    (unbound : ∀ id, (workspace.store.group id).get? (String.ofList text) = none) :
    ∃ after, valueOf? scope (String.ofList text) ⟨input, workspace⟩ = .ok none ⟨input, after⟩ ∧
      Workspace.Alike scope workspace after := by
  have single : segmentsOf (String.ofList text) = [String.ofList text] := by
    apply segmentsOf_of_not_mem
    rwa [String.toList_ofList]
  have looked : Workspace.lookupFirst scope ((segmentsOf (String.ofList text)).headD "") workspace =
      .ok none (workspace.refresh scope) := by
    have missed : (workspace.refresh scope).cache.groups.findSome? (fun id =>
        ((workspace.refresh scope).group id).get? (String.ofList text)) = none := by
      rw [List.findSome?_eq_none_iff]
      intro id _
      rw [Workspace.group, Workspace.refresh_store]
      exact unbound id
    rw [single, Workspace.lookupFirst, List.headD_cons, if_neg notRoot]
    exact congrArg (EStateM.Result.ok · (workspace.refresh scope)) missed
  exact ⟨_, valueOf?_of_lookupFirst looked, Workspace.alike_refresh workspace⟩

/-- A text that is one word without a value is no command. -/
theorem commandCall?_of_unbound {text : List Char} (visible : text.all (fun c => !Text.isBlank c) = true)
    (clean : '.' ∉ text) (notRoot : String.ofList text ≠ rootName)
    (unbound : ∀ id, (workspace.store.group id).get? (String.ofList text) = none) :
    ∃ after, commandCall? scope text ⟨input, workspace⟩ = .ok none ⟨input, after⟩ ∧
      Workspace.Alike scope workspace after := by
  have word : text.takeWhile (!Text.isBlank ·) = text :=
    List.takeWhile_eq_self_iff.mpr (List.all_eq_true.mp visible)
  by_cases stops : text.any commandStops.contains = true
  · refine ⟨workspace, ?_, .refl workspace⟩
    simp only [commandCall?, word, stops, if_true]
    rfl
  · obtain ⟨after, valued, alike⟩ := @valueOf?_of_unbound scope input workspace text clean notRoot unbound
    refine ⟨after, ?_, alike⟩
    simp only [commandCall?, word, if_neg stops]
    rw [bind_apply, valued]
    rfl

/-- A text that begins with a quote or a bracket is no command. -/
theorem commandCall?_of_stop {c : Char} (visible : Text.isBlank c = false)
    (stops : commandStops.contains c = true) (text : List Char) :
    commandCall? scope (c :: text) ⟨input, workspace⟩ = .ok none ⟨input, workspace⟩ := by
  have first : ((c :: text).takeWhile (!Text.isBlank ·)).any commandStops.contains = true := by
    rw [List.takeWhile_cons_of_pos (by simp [visible]), List.any_cons, stops, Bool.true_or]
  simp only [commandCall?, first, if_true]
  rfl

end Compile

namespace Value

variable (store : Store)

/-- A written value is no command in a workspace with the standard bindings. -/
theorem Literal.commandCall?_eq_none {value : Value} (literal : value.Literal) (scope : Scope) (input : Input)
    {workspace : Workspace} (standard : workspace.store = Workspace.standard.store) :
    ∃ after, Compile.commandCall? scope (store.quotedChars value) ⟨input, workspace⟩ = .ok none ⟨input, after⟩ ∧
      Workspace.Alike scope workspace after := by
  have word {text : List Char} (visible : text.all (fun c => !Text.isBlank c) = true) (clean : '.' ∉ text)
      (isWord : isLiteralWord text = true) :
      ∃ after, Compile.commandCall? scope text ⟨input, workspace⟩ = .ok none ⟨input, after⟩ ∧
        Workspace.Alike scope workspace after := by
    apply Compile.commandCall?_of_unbound visible clean
    · intro isRoot
      have same : text = rootName.toList := by
        rw [← isRoot, String.toList_ofList]
      rw [same] at isWord
      cases isWord
    · intro id
      rw [standard]
      apply Workspace.get?_standard
      rwa [String.toList_ofList]
  cases literal with
  | nil => exact @word "None".toList (by decide) (by decide) (by decide)
  | bool value =>
      cases value with
      | false => exact @word "False".toList (by decide) (by decide) (by decide)
      | true => exact @word "True".toList (by decide) (by decide) (by decide)
  | int n =>
      apply word (visible_integerText n.toInt)
      · intro member
        have others : (Decimal.integerText n.toInt).all (fun c => c != '.') = true := by
          apply all_integerText rfl
          intro c digit
          rw [bne_iff_ne]
          rintro rfl
          cases digit
        have := List.all_eq_true.mp others _ member
        cases this
      · unfold Decimal.integerText
        split
        · rfl
        · obtain ⟨c, rest, split⟩ := List.exists_cons_of_ne_nil (Decimal.digits_ne_nil n.toInt.natAbs)
          have all := Decimal.all_isDigit_digits n.toInt.natAbs
          rw [split, List.all_cons, Bool.and_eq_true] at all
          simp [isLiteralWord, split, all.1]
  | string text => exact ⟨workspace, Compile.commandCall?_of_stop rfl rfl _, .refl workspace⟩
  | list each => exact ⟨workspace, Compile.commandCall?_of_stop rfl rfl _, .refl workspace⟩

/-- The code of a written value gives the value, whatever surrounds it. -/
theorem Literal.codeOf_eq_ok {value : Value} (literal : value.Literal) (free : ¬ value.HoldsLeast) :
    ∃ code, codeOf (store.quotedChars value) = .ok code ∧
      ∀ {σ : Type} (host : Host σ), host.run code = pure value := by
  obtain ⟨tokens, expr, instrs, lexes, derived, compiled, evaluates⟩ := literal.reads store free
  have parsed := Expr.ofText_eq_ok.mpr ⟨tokens, lexes.ofText_eq, derived.ofTokens_eq_ok (store.quotedChars value)⟩
  have coded : expr.code (store.quotedChars value) =
      .ok ⟨instrs, String.ofList (Text.trim (store.quotedChars value))⟩ := by
    rw [Expr.code, compiled]
    rfl
  refine ⟨_, ?_, fun host => (host.run_eq_evaluate coded).trans (evaluates host)⟩
  rw [codeOf, Code.ofText, parsed]
  exact congrArg ofSyntax coded

theorem Literal.codeOf_eq_error {value : Value} (literal : value.Literal) (holds : value.HoldsLeast) :
    codeOf (store.quotedChars value) = .error (.invalidExpression leastFault) := by
  have failed := literal.lexFails store holds [] closes_nil
  rw [List.append_nil] at failed
  rw [codeOf, Code.ofText, Expr.ofText, failed]
  rfl

/-- A written value is compiled as an expression. -/
theorem Literal.next_eq {value : Value} (literal : value.Literal) {scope : Scope} {input : Input}
    {workspace : Workspace} (standard : workspace.store = Workspace.standard.store) {line : Line}
    {rest : List Line} (queued : input.queue = line :: rest) (written : line.text = store.quotedChars value) :
    ∃ after, Compile.next scope ⟨input, workspace⟩ =
      (ofResult (codeOf (store.quotedChars value)) >>= fun code => pure (some (.evaluate code false)))
        ⟨{ input with queue := rest }, after⟩ := by
  have stands : Compile.Stands line.text := written ▸ literal.stands store
  have trimmed : Text.trim line.text = store.quotedChars value := by
    rw [written, literal.trim_quotedChars]
  obtain ⟨after, noCommand, -⟩ :=
    literal.commandCall?_eq_none store scope { input with queue := rest } standard
  have first := @Compile.next_of_stands scope input line rest workspace queued stands
  rw [trimmed] at first
  -- The bound on the nesting is positive, and the line is a simple statement.
  obtain ⟨smaller, positive⟩ : ∃ smaller, Compile.boundOf
      (LogicalLine.ofText (store.quotedChars value) line.number line.file) { input with queue := rest } =
        smaller + 1 := by
    unfold Compile.boundOf
    split
    · exact ⟨_, rfl⟩
    · exact ⟨1, rfl⟩
  have simple := @Compile.lineWith_of_simple smaller (Compile.line scope smaller) scope
    (LogicalLine.ofText (store.quotedChars value) line.number line.file) (literal.statementWords_key store)
  have noAssignment := literal.findAssign_eq_none store
  refine ⟨after, ?_⟩
  rw [first, positive, Compile.line, simple, Compile.simple, bind_apply, bind_apply]
  simp only [LogicalLine.ofText, noCommand, noAssignment]
  cases codeOf (store.quotedChars value) with
  | error error => rfl
  | ok code => rfl

end Value

namespace Session

variable (settings : Settings) (environment : Environment) (levels : Nat)

/-- A new session with one line to run. -/
def startWith (text : List Char) : Session :=
  { start settings with input := { (start settings).input with queue := [⟨text, 1, textFile⟩] } }

/-- A text on one line is the only line that a new session runs. -/
theorem eval_start {text : List Char} (unbroken : '\n' ∉ text) (visible : text ≠ []) (interpreter : Interpreter) :
    eval interpreter (String.ofList text) (start settings) =
      clearingOnHalt (runStatements interpreter (text.length + 2) none) (startWith settings text) := by
  have pushed : (start settings).input.pushText (String.ofList text).toList textFile =
      (startWith settings text).input := by
    rw [String.toList_ofList, pushText_of_empty rfl, Text.lines_of_notMem unbroken visible]
    rfl
  have unread : (startWith settings text).input.unread = text.length + 1 := rfl
  rw [eval_eq]
  simp only [pushed, unread]
  rfl

variable {interpreter : Interpreter} {before middle after final : Session} {bound : Nat}

theorem runStatements_single {statement : Statement} {value : Option Value}
    (compiled : compileNext before = .ok (some statement) middle)
    (ran : execute interpreter statement middle = .ok value after) (ended : compileNext after = .ok none final) :
    clearingOnHalt (runStatements interpreter (bound + 2) none) before = .ok (value <|> none) final := by
  have second : runStatements interpreter (bound + 1) (value <|> none) after = .ok (value <|> none) final := by
    rw [runStatements, bind_apply, ended]
    rfl
  have whole : runStatements interpreter (bound + 2) none before = .ok (value <|> none) final := by
    rw [runStatements, bind_apply, compiled]
    change (execute interpreter statement >>= fun value => runStatements interpreter (bound + 1) (value <|> none))
      middle = _
    rw [bind_apply, ran]
    exact second
  rw [clearingOnHalt, whole]

theorem runStatements_malformed {halt : Halt} (failed : compileNext before = .error halt middle) :
    clearingOnHalt (runStatements interpreter (bound + 1) none) before =
      .error halt { middle with input := middle.input.clear } := by
  have whole : runStatements interpreter (bound + 1) none before = .error halt middle := by
    rw [runStatements, bind_apply, failed]
  rw [clearingOnHalt, whole]

/-- Values made of nothing, truth values, whole numbers, texts and lists are read back: running the quoted form of such a
value in a new session gives the value, unless the least whole number occurs in it, and then the text is an invalid
expression. -/
theorem eval_quoted {value : Value} (literal : value.Literal) (store : Store) :
    (¬ value.HoldsLeast →
      ∃ after, eval (.ofLevels environment (levels + 1)) (store.quoted value) (start settings) =
        .ok (some value) after) ∧
    (value.HoldsLeast →
      ∃ after, eval (.ofLevels environment (levels + 1)) (store.quoted value) (start settings) =
        .error (.failure (.invalidExpression (.badInteger "9223372036854775808"))) after) := by
  have visible : store.quotedChars value ≠ [] := by
    have stands := (literal.stands store).visible
    rwa [literal.trim_quotedChars] at stands
  have started := eval_start settings (literal.lineFeed_notMem store) visible (.ofLevels environment (levels + 1))
  let before := startWith settings (store.quotedChars value)
  obtain ⟨after, compiled⟩ :=
    @Value.Literal.next_eq store value literal before.scope before.input before.workspace rfl _ [] rfl rfl
  constructor
  · intro free
    obtain ⟨code, coded, runs⟩ := literal.codeOf_eq_ok store free
    rw [coded] at compiled
    let middle : Session := { before with input := { before.input with queue := [] }, workspace := after }
    have first : compileNext before = .ok (some (.evaluate code false)) middle := compileNext_of_ok compiled
    have valued : execute (.ofLevels environment (levels + 1)) (.evaluate code false) middle =
        .ok (some value) middle := by
      have ran := congrFun (runs ((Interpreter.ofLevels environment levels).host environment middle.scope))
        middle.workspace
      change EStateM.bind (act (((Interpreter.ofLevels environment levels).host environment middle.scope).run code))
        _ middle = _
      simp only [EStateM.bind, act, ran]
      rfl
    have ended : compileNext middle = .ok none middle :=
      compileNext_of_ended (Input.next_of_empty rfl rfl)
    exact ⟨middle, started.trans (runStatements_single first valued ended)⟩
  · intro holds
    rw [literal.codeOf_eq_error store holds] at compiled
    exact ⟨_, started.trans (runStatements_malformed (compileNext_of_error compiled))⟩

/-- A list with a text that looks like a comment and a negative number is read back; with the least number it is not. -/
theorem eval_quoted_list :
    (∃ after, eval (.ofLevels {} 1) (({} : Store).quoted (.list [.string "it's\n# ;", .list [.int (-5)]])) (start {}) =
      .ok (some (.list [.string "it's\n# ;", .list [.int (-5)]])) after) ∧
    ∃ after, eval (.ofLevels {} 1) (({} : Store).quoted (.list [.nil, .int Int64.minValue])) (start {}) =
      .error (.failure (.invalidExpression (.badInteger "9223372036854775808"))) after := by
  have inner : Value.Literal (.list [.int (-5)]) := .list (by simp [Value.Literal.int])
  have literal : Value.Literal (.list [.string "it's\n# ;", .list [.int (-5)]]) :=
    .list (by simp [Value.Literal.string, inner])
  have free : ¬ Value.HoldsLeast (.list [.string "it's\n# ;", .list [.int (-5)]]) := by
    have number : ¬ Value.HoldsLeast (.int (-5)) := by
      rintro ⟨⟩
    have text : ¬ Value.HoldsLeast (.string "it's\n# ;") := by
      rintro ⟨⟩
    simp [Value.HoldsLeast.cons_iff, Value.not_holdsLeast_nil, number, text]
  have literalLeast : Value.Literal (.list [.nil, .int Int64.minValue]) :=
    .list (by simp [Value.Literal.nil, Value.Literal.int])
  have holds : Value.HoldsLeast (.list [.nil, .int Int64.minValue]) := .list (by simp) .int
  exact ⟨(eval_quoted {} {} 0 literal {}).1 free, (eval_quoted {} {} 0 literalLeast {}).2 holds⟩

end Session

end GroupScript
