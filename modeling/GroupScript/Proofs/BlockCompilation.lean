import GroupScript.Proofs.LineTaking
import GroupScript.Proofs.LoopHead

/-!
# Compiling programs in block form

The lines of an outline are compiled to the statement that it stands for, at any depth of nesting, and nothing after
their last line is read.  Each block takes its own lines: a line inside it never ends it, because only the words that
belong to blocks end blocks, and the statements inside take the words of their own.
-/

namespace GroupScript.Compile

variable {scope : Scope} {workspace : Workspace} {bound : Nat} {texts : List (List Char)}
  {statements : List Statement}

/-- Lines that a bounded compiler takes as the statements of a block, together with the line that ends it. -/
def TakesBody (scope : Scope) (workspace : Workspace) (bound : Nat) (texts : List (List Char))
    (statements : List Statement) : Prop :=
  ∀ (opener : LogicalLine) (terminators : List String) (last : List Char), Stands last →
    terminators.contains (keyOf (Text.trim last)) = true →
    (∀ word, terminators.contains word = true → blockWords.contains word = true) →
      Takes scope workspace (texts ++ [last]) (block bound (line scope bound) opener terminators)
        (fun result => result.1 = statements ∧ IsLine last result.2)

/-- The line that ends a block with a given word. -/
structure Terminator (word : String) (last : List Char) : Prop where
  stands : Stands last
  key : keyOf (Text.trim last) = word
  belongs : blockWords.contains word = true
  ends : ∀ number file, (LogicalLine.ofText (Text.trim last) number file).requireEnd = .ok ()

theorem terminator_endwhile : Terminator "endwhile" "endwhile".toList :=
  ⟨⟨by decide, by decide⟩, rfl, rfl, fun _ _ => rfl⟩

theorem terminator_endfor : Terminator "endfor" "endfor".toList :=
  ⟨⟨by decide, by decide⟩, rfl, rfl, fun _ _ => rfl⟩

theorem terminator_enddef : Terminator "enddef" "enddef".toList :=
  ⟨⟨by decide, by decide⟩, rfl, rfl, fun _ _ => rfl⟩

theorem terminator_endif : Terminator "endif" "endif".toList :=
  ⟨⟨by decide, by decide⟩, rfl, rfl, fun _ _ => rfl⟩

theorem terminator_endtry : Terminator "endtry" "endtry".toList :=
  ⟨⟨by decide, by decide⟩, rfl, rfl, fun _ _ => rfl⟩

/-- The body of a statement is what stands before its terminator. -/
theorem TakesBody.takes_body {word : String} {last : List Char} (opener : LogicalLine)
    (takes : TakesBody scope workspace bound texts statements) (terminator : Terminator word last) :
    Takes scope workspace (texts ++ [last]) (body bound (line scope bound) opener [] word)
      (· = statements) := by
  have ends : [word].contains (keyOf (Text.trim last)) = true := by simp [terminator.key]
  have belongs : ∀ other, [word].contains other = true → blockWords.contains other = true := by
    intro other isWord
    obtain rfl : other = word := by simpa using isWord
    exact terminator.belongs
  refine .finish (takes opener [word] last terminator.stands ends belongs) ?_
  rintro ⟨_, _⟩ ⟨rfl, number, file, rfl⟩
  exact .ofResult (terminator.ends number file) (.pure rfl)

theorem trim_header {keyword head : List Char} (identifier : LogicalLine.isIdentifier keyword = true) :
    Text.trim (headerLine keyword head) = headerLine keyword head := by
  obtain ⟨c, more, rfl, -, nameChars⟩ := isIdentifier_iff.mp identifier
  exact trim_headerLine ⟨c, more, rfl, isBlank_of_isNameChar (nameChars c (by simp))⟩

theorem stands_header {keyword head : List Char} (identifier : LogicalLine.isIdentifier keyword = true)
    (balanced : Balanced head) : Stands (headerLine keyword head) := by
  obtain ⟨_, _, -, -, nameChars⟩ := isIdentifier_iff.mp identifier
  constructor
  · rw [trim_header identifier]
    simp [headerLine]
  · rw [trim_header identifier]
    exact isWhole_headerLine (List.all_eq_true.mpr nameChars) balanced

/-- A statement that begins with a header and takes further lines after it. -/
theorem takesStatement_header {keyword head : List Char} {statement : Statement}
    (identifier : LogicalLine.isIdentifier keyword = true) (balanced : Balanced head)
    (outside : blockWords.contains (keyOf (headerLine keyword head)) = false)
    (takes : ∀ number file, Takes scope workspace texts
      (line scope bound (LogicalLine.ofText (headerLine keyword head) number file)) (· = statement)) :
    TakesStatement scope workspace bound (headerLine keyword head :: texts) statement := by
  refine ⟨_, _, rfl, stands_header identifier balanced, ?_, fun number file => ?_⟩
  · rw [trim_header identifier]
    exact outside
  · rw [trim_header identifier]
    exact takes number file

/-- A condition may stand behind blanks. -/
theorem condition_blanks_trim {text blanks : List Char} {code : Code}
    (blank : Text.isAllBlank blanks = true) (compiled : codeOf text = .ok code)
    (line : LogicalLine) : line.condition (blanks ++ Text.trim text) = .ok code := by
  have visible := (balanced_of_codeOf compiled).trim_ne_nil
  rw [LogicalLine.condition, if_neg (by simp [visible])]
  exact codeOf_blanks_trim blank compiled

theorem condition_trim {text : List Char} {code : Code} (compiled : codeOf text = .ok code)
    (line : LogicalLine) : line.condition (Text.trim text) = .ok code :=
  @condition_blanks_trim text [] code rfl compiled line

/-- A loop with a condition takes its header, its body and its end. -/
theorem takesStatement_whileLoop {condition : List Char} {code : Code}
    (compiled : codeOf condition = .ok code)
    (takes : TakesBody scope workspace bound texts statements) :
    TakesStatement scope workspace (bound + 1)
      (headerLine "while".toList condition :: (texts ++ ["endwhile".toList]))
      (.loop code statements) := by
  have balanced := balanced_of_codeOf compiled
  refine takesStatement_header rfl balanced rfl fun number file => ?_
  change Takes scope workspace _ (whileLoop bound (line scope bound) _
    (LogicalLine.ofText (headerLine "while".toList condition) number file).rest) _
  refine .ofResult (header_headerLine (by decide) balanced number file) ?_
  refine .ofResult (condition_trim compiled _) ?_
  refine .finish (takes.takes_body _ terminator_endwhile) ?_
  rintro _ rfl
  exact .pure rfl

/-- The items of a loop stand behind its word. -/
theorem condition_drop_loopHead {name items : List Char} {code : Code}
    (compiled : codeOf items = .ok code) (line : LogicalLine) :
    line.condition ((loopHead name (Text.trimEnd items)).drop (name.length + 1 + 2)) = .ok code := by
  have dropped : (loopHead name (Text.trimEnd items)).drop (name.length + 1 + 2) =
      ' ' :: Text.trimEnd items := by
    simp [loopHead, Nat.add_assoc]
  obtain ⟨blanks, blank, split⟩ := Text.exists_trimStart_eq items
  obtain ⟨c, rest, visible, started, trimmed⟩ :=
    Text.exists_trim_eq (balanced_of_codeOf compiled).trim_ne_nil
  have ended : Text.trimEnd items = blanks ++ Text.trim items := by
    rw [trimmed, ← Text.trimEnd_append_of_visible visible, ← started, ← split]
  rw [dropped, ended]
  exact @condition_blanks_trim items (' ' :: blanks) code (Text.isAllBlank_cons.mpr ⟨rfl, blank⟩) compiled line

/-- A loop over items takes its header, its body and its end. -/
theorem takesStatement_forLoop {name items : List Char} {code : Code} (bare : isBareName name = true)
    (compiled : codeOf items = .ok code)
    (takes : TakesBody scope workspace bound texts statements) :
    TakesStatement scope workspace (bound + 1)
      (headerLine "for".toList (loopHead name items) :: (texts ++ ["endfor".toList]))
      (.iterate (String.ofList name) code statements) := by
  have balancedItems := balanced_of_codeOf compiled
  have balanced := balanced_loopHead bare balancedItems
  refine takesStatement_header rfl balanced rfl fun number file => ?_
  change Takes scope workspace _ (forLoop bound (line scope bound) _
    (LogicalLine.ofText (headerLine "for".toList (loopHead name items)) number file).rest) _
  refine .ofResult (header_headerLine (by decide) balanced number file) ?_
  have variablePart : (loopHead name (Text.trimEnd items)).take (name.length + 1) = name ++ [' '] := by
    simp [loopHead, List.take_append, List.take_of_length_le]
  simp only [trim_loopHead bare balancedItems, findWord_loopHead bare, variablePart]
  refine .ofResult (loopVariable_of_isBareName bare _) ?_
  refine .ofResult (condition_drop_loopHead compiled _) ?_
  refine .finish (takes.takes_body _ terminator_endfor) ?_
  rintro _ rfl
  exact .pure rfl

/-- The words of a block statement belong to blocks. -/
theorem belongs_of_all {words : List String} (all : ∀ word ∈ words, blockWords.contains word = true)
    (word : String) (listed : words.contains word = true) : blockWords.contains word = true :=
  all word (List.contains_iff_mem.mp listed)

/-- A statement that handles failure, without a handler. -/
theorem takesStatement_attempt (takes : TakesBody scope workspace bound texts statements) :
    TakesStatement scope workspace (bound + 1) ("try:".toList :: (texts ++ ["endtry".toList]))
      (.attempt statements []) := by
  refine ⟨_, _, rfl, ⟨by decide, by decide⟩, rfl, fun number file => ?_⟩
  change Takes scope workspace _ (attempt bound (line scope bound) _ [':']) _
  refine .ofResult rfl ?_
  refine .finish (takes _ ["except", "endtry"] _ terminator_endtry.stands rfl
    (belongs_of_all (by decide))) ?_
  rintro ⟨_, _⟩ ⟨rfl, lastNumber, lastFile, rfl⟩
  exact .ofResult (terminator_endtry.ends lastNumber lastFile) (.pure rfl)

/-- A statement that handles failure, with a handler. -/
theorem takesStatement_attemptExcept {handlerTexts : List (List Char)} {handler : List Statement}
    (takes : TakesBody scope workspace bound texts statements)
    (takesHandler : TakesBody scope workspace bound handlerTexts handler) :
    TakesStatement scope workspace (bound + 1)
      ("try:".toList ::
        (texts ++ "except:".toList :: (handlerTexts ++ ["endtry".toList])))
      (.attempt statements handler) := by
  refine ⟨_, _, rfl, ⟨by decide, by decide⟩, rfl, fun number file => ?_⟩
  change Takes scope workspace _ (attempt bound (line scope bound) _ [':']) _
  have lines : texts ++ "except:".toList :: (handlerTexts ++ ["endtry".toList]) =
      (texts ++ ["except:".toList]) ++ (handlerTexts ++ ["endtry".toList]) := by
    simp
  rw [lines]
  refine .ofResult rfl ?_
  refine .bind (takes _ ["except", "endtry"] _ ⟨by decide, by decide⟩ rfl (belongs_of_all (by decide))) ?_
  rintro ⟨_, _⟩ ⟨rfl, exceptNumber, exceptFile, rfl⟩
  refine .ofResult rfl (.leading ?_)
  refine .finish (takesHandler _ ["endtry"] _ terminator_endtry.stands rfl (belongs_of_all (by decide))) ?_
  rintro ⟨_, _⟩ ⟨rfl, lastNumber, lastFile, rfl⟩
  exact .ofResult (terminator_endtry.ends lastNumber lastFile) (.pure rfl)

/-- Lines that a bounded compiler takes as the branches that follow a branch of a conditional statement. -/
def TakesBranches (scope : Scope) (workspace : Workspace) (bound : Nat) (texts : List (List Char))
    (more : List (Code × List Statement)) : Prop :=
  ∀ (opener : LogicalLine) (count : Nat) (condition : Code) (bodyTexts : List (List Char))
    (statements : List Statement) (done : List (Code × List Statement)), texts.length ≤ count →
    TakesBody scope workspace bound bodyTexts statements →
      Takes scope workspace (bodyTexts ++ texts)
        (branches bound (line scope bound) opener count condition [] false done)
        (· = .choose (done.reverse ++ (condition, statements) :: more))

/-- The last branch is followed by the end of the conditional statement. -/
theorem takes_lastBranch {count : Nat} {condition : Code} {done : List (Code × List Statement)}
    (opener : LogicalLine) (seenElse : Bool)
    (takes : TakesBody scope workspace bound texts statements) :
    Takes scope workspace (texts ++ ["endif".toList])
      (branches bound (line scope bound) opener (count + 1) condition [] seenElse done)
      (· = .choose (done.reverse ++ [(condition, statements)])) := by
  rw [branches]
  refine .finish (takes opener conditionalWords _ terminator_endif.stands rfl
    (belongs_of_all (by decide))) ?_
  rintro ⟨_, _⟩ ⟨rfl, number, file, rfl⟩
  refine .ofResult (terminator_endif.ends number file) (.pure ?_)
  simp

theorem takesBranches_done : TakesBranches scope workspace bound ["endif".toList] [] := by
  intro opener count condition bodyTexts statements done enough takes
  obtain ⟨smaller, rfl⟩ := Nat.exists_eq_add_one_of_ne_zero (Nat.ne_of_gt enough)
  exact takes_lastBranch opener false takes

theorem takesBranches_otherwise (takesOther : TakesBody scope workspace bound texts statements) :
    TakesBranches scope workspace bound ("else:".toList :: (texts ++ ["endif".toList]))
      [(always, statements)] := by
  intro opener count condition bodyTexts bodyStatements done enough takes
  simp only [List.length_cons, List.length_append, List.length_nil] at enough
  obtain ⟨smaller, rfl⟩ : ∃ smaller, count = smaller + 1 + 1 := ⟨count - 2, by omega⟩
  have lines : bodyTexts ++ "else:".toList :: (texts ++ ["endif".toList]) =
      (bodyTexts ++ ["else:".toList]) ++ (texts ++ ["endif".toList]) := by
    simp
  rw [lines, branches]
  refine .bind (takes opener conditionalWords _ ⟨by decide, by decide⟩ rfl
    (belongs_of_all (by decide))) ?_
  rintro ⟨found, _⟩ ⟨rfl, number, file, rfl⟩
  refine .ofResult rfl (.leading ?_)
  have last := @takes_lastBranch _ _ _ _ _ smaller always ((condition, found) :: done)
    opener true takesOther
  simpa using last

theorem takesBranches_elseIf {condition : List Char} {code : Code}
    {moreTexts : List (List Char)} {more : List (Code × List Statement)}
    (compiled : codeOf condition = .ok code)
    (takesBody : TakesBody scope workspace bound texts statements)
    (takesMore : TakesBranches scope workspace bound moreTexts more) :
    TakesBranches scope workspace bound
      (headerLine "elif".toList condition :: (texts ++ moreTexts)) ((code, statements) :: more) := by
  intro opener count before bodyTexts bodyStatements done enough takes
  simp only [List.length_cons, List.length_append] at enough
  obtain ⟨smaller, rfl⟩ : ∃ smaller, count = smaller + 1 := ⟨count - 1, by omega⟩
  have balanced := balanced_of_codeOf compiled
  have trimmed : Text.trim (headerLine "elif".toList condition) = headerLine "elif".toList condition :=
    trim_header rfl
  have lines : bodyTexts ++ headerLine "elif".toList condition :: (texts ++ moreTexts) =
      (bodyTexts ++ [headerLine "elif".toList condition]) ++ (texts ++ moreTexts) := by
    simp
  rw [lines, branches]
  refine .bind (takes opener conditionalWords _ (stands_header rfl balanced) (by rw [trimmed]; rfl)
    (belongs_of_all (by decide))) ?_
  rintro ⟨found, _⟩ ⟨rfl, number, file, rfl⟩
  rw [trimmed]
  refine .ofResult (header_headerLine (by decide) balanced number file) ?_
  refine .ofResult (condition_trim compiled _) (.leading ?_)
  have others := takesMore opener smaller code texts statements ((before, found) :: done)
    (by omega) takesBody
  simpa using others

/-- A conditional statement takes its header, its first branch and what follows it. -/
theorem takesStatement_conditional {condition : List Char} {code : Code}
    {moreTexts : List (List Char)} {more : List (Code × List Statement)}
    (compiled : codeOf condition = .ok code)
    (takes : TakesBody scope workspace bound texts statements)
    (takesMore : TakesBranches scope workspace bound moreTexts more)
    (enough : moreTexts.length ≤ bound) :
    TakesStatement scope workspace (bound + 1)
      (headerLine "if".toList condition :: (texts ++ moreTexts))
      (.choose ((code, statements) :: more)) := by
  have balanced := balanced_of_codeOf compiled
  refine takesStatement_header rfl balanced rfl fun number file => ?_
  change Takes scope workspace _ (conditional bound (line scope bound) _
    (LogicalLine.ofText (headerLine "if".toList condition) number file).rest) _
  refine .ofResult (header_headerLine (by decide) balanced number file) ?_
  refine .ofResult (condition_trim compiled _) ?_
  exact takesMore _ bound code texts statements [] enough takes

/-- The parameters of a procedure do not hang on the place of the header or on the blanks around it. -/
theorem parameters_trim {first : LogicalLine} (second : LogicalLine) {head : List Char}
    {params : List String} {defaults : List (String × Code)} {arguments : List (Argument Expr)}
    {result : List String × List (String × Code)}
    (read : first.parameters head params defaults arguments = .ok result) :
    second.parameters (Text.trim head) params defaults arguments = .ok result := by
  fun_induction LogicalLine.parameters first head params defaults arguments with
  | case1 params defaults => exact read
  | case2 params defaults param rest simple noDefaults ih =>
      rw [LogicalLine.parameters, if_pos simple, if_pos noDefaults]
      exact ih read
  | case3 => cases read
  | case4 => cases read
  | case5 params defaults key value rest ih =>
      obtain ⟨code, made, readRest⟩ := except_bind_eq_ok.mp read
      rw [LogicalLine.parameters, value.code_trim]
      exact except_bind_eq_ok.mpr ⟨code, made, ih code readRest⟩
  | case6 => cases read

theorem signature_trim {first : LogicalLine} (second : LogicalLine) {head : List Char}
    {signature : Signature} (read : first.signature head = .ok signature) :
    Balanced head ∧ second.signature (Text.trim head) = .ok signature := by
  unfold LogicalLine.signature at read ⊢
  cases parsed : Expr.ofText head with
  | error fault =>
      rw [parsed] at read
      cases read
  | ok expr =>
      refine ⟨balanced_of_ofText parsed, ?_⟩
      rw [Expr.ofText_trim parsed]
      rw [parsed] at read
      split at read
      · cases read
      · rename_i isCall
        cases isCall
        obtain ⟨⟨params, defaults⟩, readParameters, made⟩ := except_bind_eq_ok.mp read
        exact except_bind_eq_ok.mpr ⟨_, parameters_trim second readParameters, made⟩
      · cases read
      · rename_i isName
        cases isName
        exact read
      · cases read

/-- A procedure takes its header, its body and its end. -/
theorem takesStatement_procedure {head : List Char} {signature : Signature}
    (read : LogicalLine.signature default head = .ok signature)
    (takes : TakesBody scope workspace bound texts statements) :
    TakesStatement scope workspace (bound + 1)
      (headerLine "def".toList head :: (texts ++ ["enddef".toList]))
      (.procedure signature (LogicalLine.splitDocumentation statements).1
        (LogicalLine.splitDocumentation statements).2) := by
  have balanced := (signature_trim default read).1
  refine takesStatement_header rfl balanced rfl fun number file => ?_
  change Takes scope workspace _ (definition bound (line scope bound) _
    (LogicalLine.ofText (headerLine "def".toList head) number file).rest) _
  have named : Text.trim ((Text.trimStart head ++ [':']).take (Text.trimStart head).length) =
      Text.trim head := by
    rw [List.take_left, Text.trim, Text.trimStart_trimStart, ← Text.trim]
  have empty : Text.trim ((Text.trimStart head ++ [':']).drop ((Text.trimStart head).length + 1)) = [] := by
    simp
    rfl
  simp only [definition, rest_headerLine (by decide : "def".toList.all Text.isNameChar = true),
    findTopLevel_header balanced, named, empty]
  refine .ofResult (signature_trim _ read).2 ?_
  refine .finish (takes.takes_body _ terminator_enddef) ?_
  rintro _ rfl
  exact .pure rfl

/-- Lines that a bounded compiler takes as further statements of a block, before the line that ends it. -/
def TakesAll (scope : Scope) (workspace : Workspace) (bound : Nat) (texts : List (List Char))
    (statements : List Statement) : Prop :=
  ∀ (opener : LogicalLine) (terminators : List String) (last : List Char) (count : Nat)
    (done : List Statement), Stands last → terminators.contains (keyOf (Text.trim last)) = true →
    (∀ word, terminators.contains word = true → blockWords.contains word = true) →
    texts.length < count →
      Takes scope workspace (texts ++ [last])
        (blockBody (line scope bound) opener terminators count done)
        (fun result => result.1 = done.reverse ++ statements ∧ IsLine last result.2)

theorem takesAll_nil : TakesAll scope workspace bound [] [] := by
  intro opener terminators last count done stands ends belongs enough
  obtain ⟨smaller, rfl⟩ := Nat.exists_eq_add_one_of_ne_zero (Nat.ne_of_gt enough)
  simpa using takes_terminator stands ends

theorem TakesAll.cons {first : List (List Char)} {statement : Statement}
    (takesFirst : TakesStatement scope workspace bound first statement)
    (takesOthers : TakesAll scope workspace bound texts statements) :
    TakesAll scope workspace bound (first ++ texts) (statement :: statements) := by
  intro opener terminators last count done stands ends belongs enough
  obtain ⟨_, _, lines, -⟩ := takesFirst.exists_first
  simp only [lines, List.length_append, List.length_cons] at enough
  obtain ⟨smaller, rfl⟩ : ∃ smaller, count = smaller + 1 := ⟨count - 1, by omega⟩
  have others := takesOthers opener terminators last smaller (statement :: done) stands ends belongs
    (by omega)
  rw [List.append_assoc]
  refine takesFirst.before belongs ?_
  simpa using others

theorem TakesAll.takesBody (takes : TakesAll scope workspace bound texts statements)
    (enough : texts.length < bound) : TakesBody scope workspace bound texts statements := by
  intro opener terminators last stands ends belongs
  exact .inBlock (takes opener terminators last bound [] stands ends belongs enough)

theorem toOption_eq_some {ε α : Type} {result : Except ε α} {value : α} :
    result.toOption = some value ↔ result = .ok value := by
  cases result <;> simp [Except.toOption]

theorem length_lines_pos (more : Alternatives) : 0 < more.lines.length := by
  cases more <;> simp [Alternatives.lines]

mutual

/-- The lines of an outline are taken as the statement that it stands for. -/
theorem takesStatement_outline {statement : Statement} (bound : Nat) :
    (outline : Outline) → outline.statement? scope workspace = some statement →
      outline.lines.length ≤ bound →
        TakesStatement scope workspace bound outline.lines statement
  | .simple text, meaning, enough => by
      rw [Outline.statement?] at meaning
      split at meaning
      · exact takesStatement_simple ‹_› meaning enough
      · cases meaning
  | .conditional condition body more, meaning, enough => by
      simp only [Outline.statement?, Option.bind_eq_bind, Option.bind_eq_some_iff,
        toOption_eq_some] at meaning
      obtain ⟨code, compiled, statements, meant, others, meantMore, made⟩ := meaning
      cases made
      -- The branches share the bound of the body, for they are compiled at the same depth.
      have least := length_lines_pos more
      simp only [Outline.lines, List.length_cons, List.length_append] at enough ⊢
      obtain ⟨smaller, rfl⟩ : ∃ smaller, bound = smaller + 1 := ⟨bound - 1, by omega⟩
      have takes := takesAll_outlines smaller body meant (by omega)
      have takesMore := takesBranches_alternatives smaller more meantMore (by omega)
      exact takesStatement_conditional compiled (takes.takesBody (by omega)) takesMore (by omega)
  | .whileLoop condition body, meaning, enough => by
      simp only [Outline.statement?, Option.bind_eq_bind, Option.bind_eq_some_iff,
        toOption_eq_some] at meaning
      obtain ⟨code, compiled, statements, meant, made⟩ := meaning
      cases made
      simp only [Outline.lines, List.length_cons, List.length_append, List.length_nil] at enough ⊢
      obtain ⟨smaller, rfl⟩ : ∃ smaller, bound = smaller + 1 := ⟨bound - 1, by omega⟩
      have takes := takesAll_outlines smaller body meant (by omega)
      exact takesStatement_whileLoop compiled (takes.takesBody (by omega))
  | .forLoop name items body, meaning, enough => by
      rw [Outline.statement?] at meaning
      split at meaning
      · rename_i bare
        simp only [Option.bind_eq_bind, Option.bind_eq_some_iff, toOption_eq_some] at meaning
        obtain ⟨code, compiled, statements, meant, made⟩ := meaning
        cases made
        simp only [Outline.lines, List.length_cons, List.length_append, List.length_nil] at enough ⊢
        obtain ⟨smaller, rfl⟩ : ∃ smaller, bound = smaller + 1 := ⟨bound - 1, by omega⟩
        have takes := takesAll_outlines smaller body meant (by omega)
        exact takesStatement_forLoop bare compiled (takes.takesBody (by omega))
      · cases meaning
  | .attempt body, meaning, enough => by
      simp only [Outline.statement?, Option.bind_eq_bind, Option.bind_eq_some_iff] at meaning
      obtain ⟨statements, meant, made⟩ := meaning
      cases made
      simp only [Outline.lines, List.length_cons, List.length_append, List.length_nil] at enough ⊢
      obtain ⟨smaller, rfl⟩ : ∃ smaller, bound = smaller + 1 := ⟨bound - 1, by omega⟩
      have takes := takesAll_outlines smaller body meant (by omega)
      exact takesStatement_attempt (takes.takesBody (by omega))
  | .attemptExcept body handler, meaning, enough => by
      simp only [Outline.statement?, Option.bind_eq_bind, Option.bind_eq_some_iff] at meaning
      obtain ⟨statements, meant, handlers, meantHandler, made⟩ := meaning
      cases made
      simp only [Outline.lines, List.length_cons, List.length_append, List.length_nil] at enough ⊢
      obtain ⟨smaller, rfl⟩ : ∃ smaller, bound = smaller + 1 := ⟨bound - 1, by omega⟩
      have takes := takesAll_outlines smaller body meant (by omega)
      have takesHandler := takesAll_outlines smaller handler meantHandler (by omega)
      exact takesStatement_attemptExcept (takes.takesBody (by omega)) (takesHandler.takesBody (by omega))
  | .procedure head body, meaning, enough => by
      simp only [Outline.statement?, Option.bind_eq_bind, Option.bind_eq_some_iff,
        toOption_eq_some] at meaning
      obtain ⟨signature, read, statements, meant, made⟩ := meaning
      cases made
      simp only [Outline.lines, List.length_cons, List.length_append, List.length_nil] at enough ⊢
      obtain ⟨smaller, rfl⟩ : ∃ smaller, bound = smaller + 1 := ⟨bound - 1, by omega⟩
      have takes := takesAll_outlines smaller body meant (by omega)
      exact takesStatement_procedure read (takes.takesBody (by omega))

theorem takesAll_outlines {statements : List Statement} (bound : Nat) :
    (outlines : List Outline) → statementsOfAll? scope workspace outlines = some statements →
      (linesOfAll outlines).length ≤ bound →
        TakesAll scope workspace bound (linesOfAll outlines) statements
  | [], meaning, enough => by
      cases meaning
      exact takesAll_nil
  | first :: others, meaning, enough => by
      simp only [statementsOfAll?, Option.bind_eq_bind, Option.bind_eq_some_iff] at meaning
      obtain ⟨statement, meantFirst, rest, meantOthers, made⟩ := meaning
      cases made
      simp only [linesOfAll, List.length_append] at enough ⊢
      have takesFirst := takesStatement_outline bound first meantFirst (by omega)
      have takesOthers := takesAll_outlines bound others meantOthers (by omega)
      exact .cons takesFirst takesOthers

theorem takesBranches_alternatives {branches : List (Code × List Statement)} (bound : Nat) :
    (more : Alternatives) → more.branches? scope workspace = some branches →
      more.lines.length ≤ bound →
        TakesBranches scope workspace bound more.lines branches
  | .done, meaning, enough => by
      cases meaning
      exact takesBranches_done
  | .otherwise body, meaning, enough => by
      simp only [Alternatives.branches?, Option.bind_eq_bind, Option.bind_eq_some_iff] at meaning
      obtain ⟨statements, meant, made⟩ := meaning
      cases made
      simp only [Alternatives.lines, List.length_cons, List.length_append, List.length_nil] at enough ⊢
      have takes := takesAll_outlines bound body meant (by omega)
      exact takesBranches_otherwise (takes.takesBody (by omega))
  | .elseIf condition body more, meaning, enough => by
      simp only [Alternatives.branches?, Option.bind_eq_bind, Option.bind_eq_some_iff,
        toOption_eq_some] at meaning
      obtain ⟨code, compiled, statements, meant, others, meantMore, made⟩ := meaning
      cases made
      have least := length_lines_pos more
      simp only [Alternatives.lines, List.length_cons, List.length_append] at enough ⊢
      have takes := takesAll_outlines bound body meant (by omega)
      have takesMore := takesBranches_alternatives bound more meantMore (by omega)
      exact takesBranches_elseIf compiled (takes.takesBody (by omega)) takesMore

end

theorem length_le_linesSize (texts : List (List Char)) : texts.length ≤ linesSize texts := by
  induction texts with
  | nil => exact Nat.zero_le _
  | cons text texts ih =>
      simp only [linesSize, List.length_cons] at ih ⊢
      omega

/-- An outline of more than one line begins with a word that the bound counts on. -/
theorem opening_of_outline (outline : Outline) :
    outline.lines.length = 1 ∨
      ∃ first others, outline.lines = first :: others ∧
        openingWords.contains (keyOf (Text.trim first)) = true := by
  cases outline with
  | simple text => exact Or.inl rfl
  | conditional condition body more => exact Or.inr ⟨_, _, rfl, by rw [trim_header rfl]; rfl⟩
  | whileLoop condition body => exact Or.inr ⟨_, _, rfl, by rw [trim_header rfl]; rfl⟩
  | forLoop name items body => exact Or.inr ⟨_, _, rfl, by rw [trim_header rfl]; rfl⟩
  | attempt body => exact Or.inr ⟨_, _, rfl, rfl⟩
  | attemptExcept body handler => exact Or.inr ⟨_, _, rfl, rfl⟩
  | procedure head body => exact Or.inr ⟨_, _, rfl, by rw [trim_header rfl]; rfl⟩

/-- The bound of a statement is never below the number of its lines. -/
theorem length_lines_le_boundOf (outline : Outline) {first : Line} {others rest : List Line}
    (rendered : (first :: others).map Line.text = outline.lines) (input : Input) :
    outline.lines.length ≤
      boundOf (LogicalLine.ofText (Text.trim first.text) first.number first.file)
        { input with queue := others ++ rest } := by
  rcases opening_of_outline outline with single | ⟨text, texts, lines, opening⟩
  · rw [single, boundOf]
    split <;> omega
  · rw [lines, List.map_cons] at rendered
    obtain ⟨isFirst, areOthers⟩ := List.cons.inj rendered
    have counted := length_le_linesSize ((others ++ rest).map Line.text)
    rw [boundOf, if_pos (by rw [← isFirst] at opening; exact opening), lines, ← areOthers]
    simp only [Input.unread, List.length_cons, List.length_map, List.length_append] at counted ⊢
    omega

/-- Block structure is compiled faithfully: from any input whose next lines are those of an outline, compiling gives the
statement that the outline stands for, and the lines after the outline stay unread. -/
theorem next_of_outline_lines (scope : Scope) (workspace : Workspace) (outline : Outline)
    (statement : Statement) (meaning : outline.statement? scope workspace = some statement)
    (input : Input) (lines rest : List Line) (queued : input.queue = lines ++ rest)
    (rendered : lines.map Line.text = outline.lines) :
    ∃ after, Workspace.Alike scope workspace after ∧
      next scope ⟨input, workspace⟩ =
        .ok (some statement) ⟨{ input with queue := rest }, after⟩ := by
  cases lines with
  | nil =>
      -- No outline is without lines.
      obtain ⟨_, _, nonempty, -⟩ := (takesStatement_outline _ outline meaning (Nat.le_refl _)).exists_first
      rw [nonempty] at rendered
      cases rendered
  | cons first others =>
      have enough := @length_lines_le_boundOf outline first others rest rendered input
      obtain ⟨text, texts, split, stands, -, takes⟩ :=
        (takesStatement_outline _ outline meaning enough).exists_first
      rw [split, List.map_cons] at rendered
      obtain ⟨rfl, areOthers⟩ := List.cons.inj rendered
      obtain ⟨_, after, rfl, alike, ran⟩ :=
        @takes first.number first.file { input with queue := others ++ rest } others rest workspace
          rfl areOthers (.refl workspace)
      refine ⟨after, alike, ?_⟩
      rw [List.cons_append] at queued
      rw [next_of_stands queued stands, bind_apply, ran]
      rfl

/-- A procedure with documentation around a conditional statement whose first branch holds an empty loop. -/
def countdown : Outline :=
  .procedure "f(n)".toList
    [.simple "'counts down'".toList,
      .conditional "n".toList [.whileLoop "n[0]".toList []]
        (.elseIf "not n".toList [] (.otherwise [.simple "x = n".toList]))]

/-- The statement that the outline of the procedure stands for. -/
def countdownStatement : Statement :=
  .procedure ⟨"f", ["n"], []⟩ (some "counts down")
    [.choose
      [(⟨[.load "n"], "n"⟩, [.loop ⟨[.load "n", .push (.int 0), .index 1], "n[0]"⟩ []]),
        (⟨[.load "n", .unary .not], "not n"⟩, []),
        (always, [.assign ⟨"x", []⟩ ⟨[.load "n"], "n"⟩])]]

theorem statement?_countdown :
    countdown.statement? ⟨0, 0, 0⟩ Workspace.empty = some countdownStatement := by
  cbv

theorem next_of_outline_lines_countdown :
    ∃ after, Workspace.Alike ⟨0, 0, 0⟩ Workspace.empty after ∧
      next ⟨0, 0, 0⟩
          ⟨{ queue := Input.numbered "f" 1 (countdown.lines ++ ["y = 2".toList]) }, Workspace.empty⟩ =
        .ok (some countdownStatement) ⟨{ queue := [⟨"y = 2".toList, 11, "f"⟩] }, after⟩ :=
  next_of_outline_lines ⟨0, 0, 0⟩ Workspace.empty countdown countdownStatement statement?_countdown
    { queue := Input.numbered "f" 1 (countdown.lines ++ ["y = 2".toList]) }
    (Input.numbered "f" 1 countdown.lines) [⟨"y = 2".toList, 11, "f"⟩] rfl rfl

end GroupScript.Compile
