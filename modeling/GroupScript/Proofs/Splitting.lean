import GroupScript.Builtin.Run
import GroupScript.Proofs.Outcome

/-!
# Splitting and joining texts

A text is cut at the occurrences of a separator, which are looked for from left to right, each one behind the last.  A
separator may overlap itself, so a text may hold occurrences at which it is not cut; but no part between two cuts holds
one, since the cut would have been made there.  Joining the parts with the separator gives the text back.
-/

namespace GroupScript

namespace Text

/-- The parts of a text between occurrences of a separator, each of which is the first one behind the last: no occurrence
ends before it does. -/
inductive Cut (separator : List Char) : List Char → List (List Char) → Prop
  | last {text : List Char} (absent : ¬separator <:+: text) : Cut separator text [text]
  | next {part rest : List Char} {parts : List (List Char)} (first : ¬separator <:+: part ++ separator.dropLast)
      (others : Cut separator rest parts) : Cut separator (part ++ separator ++ rest) (part :: parts)

theorem startsWith_iff {start text : List Char} : startsWith start text = true ↔ start <+: text := by
  unfold startsWith
  fun_induction dropStart? start text with
  | case1 text => simp
  | case2 c start => simp
  | case3 c start text ih => simpa [List.prefix_cons_iff] using ih
  | case4 c start d text differ => simp [List.cons_prefix_cons, differ]

section Laws

variable {separator text : List Char} {parts : List (List Char)}

theorem Cut.ne_nil (cut : Cut separator text parts) : parts ≠ [] := by
  cases cut <;> simp

theorem Cut.joinWith_eq (cut : Cut separator text parts) : joinWith separator parts = text := by
  induction cut with
  | last absent => rfl
  | @next part rest parts first others ih =>
      cases parts with
      | nil => exact absurd rfl others.ne_nil
      | cons second parts => rw [joinWith, ih]

theorem Cut.not_infix_of_mem (cut : Cut separator text parts) : ∀ part ∈ parts, ¬separator <:+: part := by
  induction cut with
  | last absent => simpa using absent
  | next first others ih =>
      rw [List.forall_mem_cons]
      exact ⟨fun found => first (found.trans (List.prefix_append _ _).isInfix), ih⟩

/-- A character before a text belongs to its first part, unless the separator starts there. -/
theorem Cut.cons {c : Char} {part : List Char} (cut : Cut separator text (part :: parts))
    (elsewhere : ¬separator <+: c :: text) : Cut separator (c :: text) ((c :: part) :: parts) := by
  cases cut with
  | last absent =>
      apply Cut.last
      simp [List.infix_cons_iff, elsewhere, absent]
  | @next _ rest _ first others =>
      have shorter : c :: (part ++ separator.dropLast) <+: c :: (part ++ separator ++ rest) := by
        rw [List.append_assoc, List.cons_prefix_cons, List.prefix_append_right_inj]
        exact ⟨rfl, (List.dropLast_prefix separator).trans (List.prefix_append separator rest)⟩
      refine @Cut.next separator (c :: part) rest parts ?_ others
      rw [List.cons_append, List.infix_cons_iff, not_or]
      exact ⟨fun begins => elsewhere (begins.trans shorter), first⟩

/-- A separator is not found again before its own end. -/
theorem not_infix_dropLast (nonempty : separator ≠ []) : ¬separator <:+: separator.dropLast := by
  intro found
  have shorter := found.length_le
  have positive := List.length_pos_of_ne_nil nonempty
  rw [List.length_dropLast] at shorter
  omega

/-- Going through a text cuts it, behind the characters of a separator that are still to be passed over. -/
theorem cut_piecesFrom (nonempty : separator ≠ []) (passed : Nat) (text : List Char) :
    Cut separator (text.drop passed) (piecesFrom separator passed text) := by
  fun_induction piecesFrom separator passed text with
  | case1 passed =>
      rw [List.drop_nil]
      exact .last (by simpa using nonempty)
  | case2 passed c text ih => exact ih
  | case3 c text starts ih =>
      obtain ⟨rest, split⟩ := startsWith_iff.mp starts
      have behind : text.drop (separator.length - 1) = rest := by
        obtain ⟨d, more, rfl⟩ := List.exists_cons_of_ne_nil nonempty
        obtain ⟨-, rfl⟩ := List.cons_eq_cons.mp split
        simp
      rw [behind] at ih
      have cut := @Cut.next separator [] rest _ (by simpa using not_infix_dropLast nonempty) ih
      rwa [List.nil_append, split] at cut
  | case4 c text elsewhere empty ih =>
      rw [empty] at ih
      exact absurd rfl ih.ne_nil
  | case5 c text elsewhere part parts given ih =>
      rw [given, List.drop_zero] at ih
      exact ih.cons fun begins => elsewhere (startsWith_iff.mpr begins)

theorem cut_pieces (nonempty : separator ≠ []) (text : List Char) : Cut separator text (pieces separator text) :=
  cut_piecesFrom nonempty 0 text

end Laws

end Text

namespace Builtin

/-- Splitting gives a list of strings that is not empty and in which the separator does not occur, and joining them with the
separator gives the text back.  The text is cut at the first occurrence, then at the first one behind it, and so on. -/
theorem join_split (store : Store) {separator : String} (nonempty : separator ≠ "") (text : String) :
    ∃ parts : List String,
      runPure? store .split [.string separator, .string text] = some (.ok (ofStrings parts)) ∧
      parts ≠ [] ∧ (∀ part ∈ parts, ¬separator.toList <:+: part.toList) ∧
      Text.Cut separator.toList text.toList (parts.map String.toList) ∧
      runPure? store .join [.string separator, ofStrings parts] = some (.ok (.string text)) := by
  have cut : Text.Cut separator.toList text.toList (Text.pieces separator.toList text.toList) :=
    Text.cut_pieces (fun empty => nonempty (String.toList_eq_nil_iff.mp empty)) text.toList
  refine ⟨(Text.pieces separator.toList text.toList).map String.ofList, ?_, ?_, ?_, ?_, ?_⟩
  · have given : separator.isEmpty = false := by simpa using nonempty
    simp [runPure?, runSplit, given, splitText, ofStrings, Function.comp_def]
  · simpa using cut.ne_nil
  · simpa using cut.not_infix_of_mem
  · simpa [Function.comp_def] using cut
  · simp [runPure?, runJoin, ofStrings, Function.comp_def, Store.chars, cut.joinWith_eq]

/-- A separator that overlaps itself and stands at both ends of a text. -/
theorem join_split_overlapping :
    "aa" ≠ "" ∧
    runPure? {} .split [.string "aa", .string "aaabaaaa"] = some (.ok (ofStrings ["", "ab", "", ""])) ∧
    runPure? {} .join [.string "aa", ofStrings ["", "ab", "", ""]] = some (.ok (.string "aaabaaaa")) := by
  have nonempty : "aa" ≠ "" := by decide
  obtain ⟨parts, split, -, -, -, joined⟩ := join_split {} nonempty "aaabaaaa"
  have computed : runPure? {} .split [.string "aa", .string "aaabaaaa"] =
      some (.ok (ofStrings ["", "ab", "", ""])) := rfl
  rw [computed] at split
  have same : ofStrings ["", "ab", "", ""] = ofStrings parts := by injection split with split; injection split
  rw [← same] at joined
  exact ⟨nonempty, computed, joined⟩

end Builtin

end GroupScript
