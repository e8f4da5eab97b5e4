import GroupScript.Proofs.LoopHead
import GroupScript.Proofs.WrittenValues

/-!
# Tokens and their spelling

Every token other than a floating-point number has a source form, from which it is read back: names, reserved words,
whole numbers and marks are spelled as they are shown, and texts are put in single quotes.  A gap of blanks ends
whatever token stands before it, so a list of tokens is read back from their source forms with a gap between each two.
The gaps cannot be left out: two stars side by side are one mark, and two quotes that meet may open a text.
-/

namespace GroupScript.Token

/-- The words that are tokens of their own and therefore no names. -/
def reservedWords : List String :=
  ["True", "False", "None", "and", "or", "not", "in"]

/-- A word that is read as a name. -/
structure IsName (text : String) : Prop where
  nonempty : text ≠ ""
  nameChars : text.toList.all Text.isNameChar = true
  noDigit : text.toList.head?.any Decimal.isDigit = false
  notReserved : text ∉ reservedWords

/-- The source form of a token.  Diagnostics show a text in double quotes; here it is in single ones, as in the quoted form
of values. -/
def source : Token → List Char
  | .string text => Text.singleQuoted text.toList
  | token => token.text.toList

/-- The tokens that are read back from their source form. -/
def Spellable : Token → Prop
  | .int value => 0 ≤ value.toInt
  | .float _ => False
  | .name text => IsName text
  | _ => True

theorem ofText_single {c : Char} {rest : List Char} {token : Token} (visible : Text.isBlank c = false)
    (read : readToken c rest = .ok (token, [])) : ofText (c :: rest) = .ok [token] := by
  rw [ofText_of_readToken visible read, ofText]
  rfl

theorem ofWord_of_not_reserved {text : String} (notReserved : text ∉ reservedWords) :
    ofWord text.toList = .name text := by
  unfold ofWord
  rw [String.ofList_toList]
  split
  case h_8 => rfl
  all_goals exact absurd (by decide) notReserved

theorem ofText_name {text : String} (isName : IsName text) : ofText text.toList = .ok [.name text] := by
  obtain ⟨nonempty, nameChars, noDigit, notReserved⟩ := isName
  rw [← ofWord_of_not_reserved notReserved]
  cases split : text.toList with
  | nil => exact absurd (String.toList_eq_nil_iff.mp split) nonempty
  | cons c word =>
      rw [split] at nameChars noDigit
      have nameChar : Text.isNameChar c = true := by simp_all
      exact (lexes_word (isBlank_of_isNameChar nameChar) (not_quoteMark_of_isNameChar nameChar)
        (by simpa using noDigit) nameChars).ofText_eq

/-- A token is the only one of its source form. -/
theorem ofText_source {token : Token} (spellable : token.Spellable) : ofText token.source = .ok [token] := by
  cases token with
  | int value =>
      obtain ⟨written, fits⟩ := Decimal.integerText_of_nonneg spellable
      have shown : source (.int value) = Decimal.digits value.toInt.natAbs := by
        change (String.ofList (Decimal.integerText value.toInt)).toList = _
        rw [String.toList_ofList, written]
      rw [shown]
      exact (lexes_digits fits).ofText_eq
  | float value => exact spellable.elim
  | string text =>
      have lexed := (lexes_singleQuoted text.toList).ofText_eq
      rwa [String.ofList_toList] at lexed
  | name text => exact ofText_name spellable
  | bool value => cases value <;> exact ofText_single rfl rfl
  | _ => exact ofText_single rfl rfl

/-- Source forms of tokens, each after a gap of its own. -/
def spell (pieces : List (List Char × Token)) : List Char :=
  pieces.flatMap fun piece => piece.1 ++ piece.2.source

/-- The gaps are blank, and only the one before the first token may be empty. -/
structure Gapped (pieces : List (List Char × Token)) : Prop where
  blank : ∀ piece ∈ pieces, Text.isAllBlank piece.1 = true
  apart : ∀ piece ∈ pieces.tail, piece.1 ≠ []

theorem Gapped.tail {piece : List Char × Token} {pieces : List (List Char × Token)}
    (gapped : Gapped (piece :: pieces)) : Gapped pieces where
  blank other member := gapped.blank other (List.mem_cons_of_mem _ member)
  apart other member := gapped.apart other (List.mem_of_mem_tail member)

/-- What follows a token does not go on with it. -/
theorem Gapped.parted {piece : List Char × Token} {pieces : List (List Char × Token)} {behind : List Char}
    (gapped : Gapped (piece :: pieces)) (blankBehind : Text.isAllBlank behind = true) :
    Parted (spell pieces ++ behind) := by
  cases pieces with
  | nil => exact parted_of_isAllBlank blankBehind
  | cons next pieces =>
      obtain ⟨c, gap, split⟩ := List.exists_cons_of_ne_nil (gapped.apart next (by simp))
      have blank := gapped.blank next (by simp)
      rw [split] at blank
      rintro d rest begins
      simp only [spell, List.flatMap_cons, split, List.cons_append, List.cons.injEq] at begins
      simp [endsToken, ← begins.1, (Text.isAllBlank_cons.mp blank).1]

/-- Tokens are read back from their source forms, whatever blanks stand between each two and at the ends. -/
theorem ofText_spell {pieces : List (List Char × Token)} {behind : List Char}
    (spellable : ∀ piece ∈ pieces, piece.2.Spellable) (gapped : Gapped pieces)
    (blankBehind : Text.isAllBlank behind = true) :
    ofText (spell pieces ++ behind) = .ok (pieces.map Prod.snd) := by
  induction pieces with
  | nil =>
      have ended := ofText_blanks_append blankBehind []
      rw [List.append_nil, ofText] at ended
      exact ended
  | cons piece pieces ih =>
      have first := ofText_source (spellable piece (by simp))
      have others := ih (fun other member => spellable other (by simp [member])) gapped.tail
      have joined : spell (piece :: pieces) ++ behind = piece.1 ++ (piece.2.source ++ (spell pieces ++ behind)) := by
        simp [spell]
      rw [joined, ofText_blanks_append (gapped.blank piece (by simp))]
      exact ofText_append (gapped.parted blankBehind) first others

/-- Two marks that would join, a name that begins like a reserved word, and a text of a quote, a backslash, a blank and a
line feed. -/
theorem ofText_spell_joining :
    Gapped [([], .star), ([' '], .star), (['\t'], .name "notes"), (['\n', ' '], .string "'\\　\n"),
      (['　'], .int 7)] ∧
    IsName "notes" ∧
    ofText ['*', ' ', '*', '\t', 'n', 'o', 't', 'e', 's', '\n', ' ', '\'', '\\', '\'', '\\', '\\', '　', '\\', 'n',
      '\'', '　', '7'] = .ok [.star, .star, .name "notes", .string "'\\　\n", .int 7] := by
  have isName : IsName "notes" := ⟨by decide, by decide, by decide, by decide⟩
  have gapped : Gapped [([], .star), ([' '], .star), (['\t'], .name "notes"), (['\n', ' '], .string "'\\　\n"),
      (['　'], .int 7)] :=
    ⟨by simp; decide, by simp⟩
  have spellable : ∀ piece ∈ [([], Token.star), ([' '], .star), (['\t'], .name "notes"),
      (['\n', ' '], .string "'\\　\n"), (['　'], .int 7)], piece.2.Spellable := by
    simp [Spellable, isName]
  have spelled : spell [([], .star), ([' '], .star), (['\t'], .name "notes"), (['\n', ' '], .string "'\\　\n"),
      (['　'], .int 7)] ++ [] = ['*', ' ', '*', '\t', 'n', 'o', 't', 'e', 's', '\n', ' ', '\'', '\\', '\'', '\\', '\\',
        '　', '\\', 'n', '\'', '　', '7'] := by
    decide +kernel
  have lexed := @ofText_spell _ [] spellable gapped rfl
  rw [spelled] at lexed
  exact ⟨gapped, isName, lexed⟩

end GroupScript.Token
