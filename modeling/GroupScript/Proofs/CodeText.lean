import GroupScript.Proofs.TokenEnds
import GroupScript.Proofs.GrammarSoundness
import GroupScript.Statement.Parts

/-!
# Texts of expressions

The text of an expression closes every bracket that it opens.  A search that cannot end at a character of a token
therefore passes it without a trace, and the blanks at its ends do not count.
-/

namespace GroupScript

namespace Expr

theorem Joins.balance_eq_zero {level : ChainLevel} {marks : List Token} {joint : Joint}
    (joins : Joins level marks joint) : Token.balance marks = 0 := by
  cases joins <;> rfl

theorem Signs.turn_eq_zero {level : Level} {sign : Token} {op : UnaryOp} (signs : Signs level sign op) :
    sign.turn = 0 := by
  cases signs <;> rfl

theorem Constant.turn_eq_zero {token : Token} {value : Value} (constant : Constant token value) :
    token.turn = 0 := by
  cases constant <;> rfl

theorem DottedName.balance_eq_zero {tokens : List Token} {text : String}
    (dotted : DottedName tokens text) : Token.balance tokens = 0 := by
  induction dotted with
  | single text => rfl
  | member path name ih => simp [ih, Token.turn]

mutual

/-- The brackets of an expression are closed. -/
theorem Derives.balance_eq_zero {level : Level} {tokens : List Token} {expr : Expr} :
    Derives level tokens expr → Token.balance tokens = 0
  | .stronger _ derived => derived.balance_eq_zero
  | .joined joins _ derivedLeft derivedRight => by
      simp [joins.balance_eq_zero, derivedLeft.balance_eq_zero, derivedRight.balance_eq_zero]
  | .signed signs derived => by simp [signs.turn_eq_zero, derived.balance_eq_zero]
  | .raised derivedBase derivedExponent => by
      simp [derivedBase.balance_eq_zero, derivedExponent.balance_eq_zero, Token.turn]
  | .called derivedFunction derivedArguments => by
      simp [derivedFunction.balance_eq_zero, derivedArguments.balance_eq_zero, Token.turn]
  | .indexed derivedTarget derivedIndices _ => by
      simp [derivedTarget.balance_eq_zero, derivedIndices.balance_eq_zero, Token.turn]
  | .const constant => by simp [constant.turn_eq_zero]
  | .name dotted => dotted.balance_eq_zero
  | .list derivedItems => by simp [derivedItems.balance_eq_zero, Token.turn]
  | .emptyList => rfl
  | .enclosed derived => by simp [derived.balance_eq_zero, Token.turn]
  | .tuple derivedFirst derivedItems => by
      simp [derivedFirst.balance_eq_zero, derivedItems.balance_eq_zero, Token.turn]

theorem DerivesItems.balance_eq_zero {tokens : List Token} {items : List Expr} :
    DerivesItems tokens items → Token.balance tokens = 0
  | .nil => rfl
  | .last derived => derived.balance_eq_zero
  | .more derived derivedMore => by
      simp [derived.balance_eq_zero, derivedMore.balance_eq_zero, Token.turn]

theorem DerivesKeywords.balance_eq_zero {tokens : List Token} {arguments : List (Argument Expr)} :
    DerivesKeywords tokens arguments → Token.balance tokens = 0
  | .nil => rfl
  | .last _ derived => by simp [derived.balance_eq_zero, Token.turn]
  | .more _ derived derivedMore => by
      simp [derived.balance_eq_zero, derivedMore.balance_eq_zero, Token.turn]

theorem DerivesArguments.balance_eq_zero {tokens : List Token} {arguments : List (Argument Expr)} :
    DerivesArguments tokens arguments → Token.balance tokens = 0
  | .keywords derived => derived.balance_eq_zero
  | .last derived => derived.balance_eq_zero
  | .more derived derivedMore => by
      simp [derived.balance_eq_zero, derivedMore.balance_eq_zero, Token.turn]

end

/-- The source of an expression is only named in faults. -/
theorem ofTokens_source {tokens : List Token} {source other : List Char} {expr : Expr}
    (read : ofTokens tokens source = .ok expr) : ofTokens tokens other = .ok expr := by
  unfold ofTokens at read ⊢
  split at read
  · cases read
  · rename_i nonempty
    rw [if_neg nonempty]
    obtain ⟨⟨found, rest, fewer⟩, readWhole, finished⟩ := except_bind_eq_ok.mp read
    cases rest with
    | nil => exact except_bind_eq_ok.mpr ⟨_, readWhole, finished⟩
    | cons token rest => cases finished

theorem ofText_eq_ok {text : List Char} {expr : Expr} :
    ofText text = .ok expr ↔
      ∃ tokens, Token.ofText text = .ok tokens ∧ ofTokens tokens text = .ok expr :=
  except_bind_eq_ok

theorem code_trim (expr : Expr) (source : List Char) : expr.code (Text.trim source) = expr.code source := by
  simp only [code, Text.trim_trim]

/-- Blanks around an expression do not count. -/
theorem ofText_blanks_trim {text blanks : List Char} {expr : Expr}
    (blank : Text.isAllBlank blanks = true) (read : ofText text = .ok expr) :
    ofText (blanks ++ Text.trim text) = .ok expr := by
  obtain ⟨tokens, lexed, readTokens⟩ := ofText_eq_ok.mp read
  refine ofText_eq_ok.mpr ⟨tokens, ?_, ofTokens_source readTokens⟩
  rw [Token.ofText_blanks_append blank, Token.ofText_trim lexed]

theorem ofText_trim {text : List Char} {expr : Expr} (read : ofText text = .ok expr) :
    ofText (Text.trim text) = .ok expr :=
  @ofText_blanks_trim text [] expr rfl read

end Expr

/-- A text with tokens that close every bracket they open. -/
structure Balanced (text : List Char) : Prop where
  exists_tokens : ∃ token tokens, Token.ofText text = .ok (token :: tokens) ∧
    Token.balance (token :: tokens) = 0

theorem balanced_of_ofText {text : List Char} {expr : Expr} (read : Expr.ofText text = .ok expr) :
    Balanced text := by
  obtain ⟨tokens, lexed, readTokens⟩ := Expr.ofText_eq_ok.mp read
  have balance := (Expr.derives_of_ofTokens readTokens).balance_eq_zero
  cases tokens with
  | nil => cases readTokens
  | cons token tokens => exact ⟨token, tokens, lexed, balance⟩

namespace Balanced

variable {text tail : List Char}

/-- A balanced text is passed by a search that cannot end at a character of a token. -/
theorem search_append {test : Char → Int32 → Bool} (balanced : Balanced text)
    (silent : Scanner.Silent test) (depth : Int32) (unquoted : Unquoted tail) :
    Scanner.search test ⟨depth, none, false⟩ (text ++ tail) =
      Scanner.moved text.length (Scanner.search test ⟨depth, none, false⟩ tail) := by
  obtain ⟨token, tokens, lexed, balance⟩ := balanced.exists_tokens
  rw [Scanner.search_lexed silent lexed depth unquoted, balance, Scanner.add_ofInt_zero]

theorem trim_ne_nil (balanced : Balanced text) : Text.trim text ≠ [] := by
  intro empty
  obtain ⟨token, tokens, lexed, -⟩ := balanced.exists_tokens
  have lexedTrimmed := Token.ofText_trim lexed
  rw [empty, Token.ofText] at lexedTrimmed
  cases lexedTrimmed

theorem trimStart (balanced : Balanced text) : Balanced (Text.trimStart text) := by
  obtain ⟨blanks, blank, split⟩ := Text.exists_trimStart_eq text
  obtain ⟨token, tokens, lexed, balance⟩ := balanced.exists_tokens
  rw [split, Token.ofText_blanks_append blank] at lexed
  exact ⟨token, tokens, lexed, balance⟩

end Balanced

theorem ofSyntax_eq_ok {α : Type} {result : Except SyntaxFault α} {value : α} :
    ofSyntax result = .ok value ↔ result = .ok value := by
  cases result <;> simp [ofSyntax, Except.mapError]

theorem codeOf_eq_ok {text : List Char} {code : Code} :
    codeOf text = .ok code ↔ ∃ expr, Expr.ofText text = .ok expr ∧ expr.code text = .ok code := by
  rw [codeOf, ofSyntax_eq_ok]
  exact except_bind_eq_ok

theorem balanced_of_codeOf {text : List Char} {code : Code} (compiled : codeOf text = .ok code) :
    Balanced text := by
  obtain ⟨expr, read, -⟩ := codeOf_eq_ok.mp compiled
  exact balanced_of_ofText read

theorem codeOf_blanks_trim {text blanks : List Char} {code : Code}
    (blank : Text.isAllBlank blanks = true) (compiled : codeOf text = .ok code) :
    codeOf (blanks ++ Text.trim text) = .ok code := by
  obtain ⟨expr, read, made⟩ := codeOf_eq_ok.mp compiled
  refine codeOf_eq_ok.mpr ⟨expr, Expr.ofText_blanks_trim blank read, ?_⟩
  have trimmed : Text.trim (blanks ++ Text.trim text) = Text.trim text := by
    rw [Text.trim, Text.trimStart_blanks_append blank, ← Text.trim, Text.trim_trim]
  rw [← expr.code_trim, trimmed, expr.code_trim, made]

end GroupScript
