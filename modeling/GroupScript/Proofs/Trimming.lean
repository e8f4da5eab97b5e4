import Mathlib
import GroupScript.Text.Blank
import GroupScript.Text.Word

/-!
# Trimming texts

What trimming takes away are blanks, and it takes away all of them at the two ends of a text.
-/

namespace GroupScript.Text

theorem ne_of_isBlank {c d : Char} (blank : isBlank c = true) (other : isBlank d = false) : c ≠ d := by
  rintro rfl
  rw [blank] at other
  cases other

/-- The code points of the blanks. -/
def blankCodes : List Nat :=
  [9, 10, 11, 12, 13, 0x20, 0x85, 0xa0, 0x1680, 0x2000, 0x2001, 0x2002, 0x2003, 0x2004, 0x2005,
    0x2006, 0x2007, 0x2008, 0x2009, 0x200a, 0x2028, 0x2029, 0x202f, 0x205f, 0x3000]

theorem mem_blankCodes {c : Char} (blank : isBlank c = true) : c.toNat ∈ blankCodes := by
  simp only [isBlank, Bool.or_eq_true, Bool.and_eq_true, decide_eq_true_eq, beq_iff_eq] at blank
  simp only [blankCodes, List.mem_cons, List.not_mem_nil, or_false]
  omega

theorem isNameChar_of_isBlank {c : Char} (blank : isBlank c = true) : isNameChar c = false := by
  have checked : ∀ code ∈ blankCodes, isNameChar (Char.ofNat code) = false := by decide +kernel
  rw [← Char.ofNat_toNat c]
  exact checked _ (mem_blankCodes blank)

theorem isAllBlank_cons {c : Char} {text : List Char} :
    isAllBlank (c :: text) = true ↔ isBlank c = true ∧ isAllBlank text = true := by
  simp [isAllBlank]

theorem exists_trimStart_eq (text : List Char) :
    ∃ blanks, isAllBlank blanks = true ∧ text = blanks ++ trimStart text :=
  ⟨text.takeWhile isBlank, List.all_takeWhile, List.takeWhile_append_dropWhile.symm⟩

theorem exists_trimEnd_eq (text : List Char) :
    ∃ blanks, isAllBlank blanks = true ∧ text = trimEnd text ++ blanks := by
  refine ⟨(text.reverse.takeWhile isBlank).reverse, ?_, ?_⟩
  · simp [isAllBlank]
  · rw [trimEnd, ← List.reverse_append, List.takeWhile_append_dropWhile, List.reverse_reverse]

theorem trimStart_of_head {c : Char} (visible : isBlank c = false) (text : List Char) :
    trimStart (c :: text) = c :: text := by
  simp [trimStart, visible]

theorem trimEnd_of_last {c : Char} (visible : isBlank c = false) (text : List Char) :
    trimEnd (text ++ [c]) = text ++ [c] := by
  simp [trimEnd, visible]

theorem trimStart_blanks_append {blanks : List Char} (blank : isAllBlank blanks = true)
    (text : List Char) : trimStart (blanks ++ text) = trimStart text := by
  induction blanks with
  | nil => rfl
  | cons c blanks ih =>
      obtain ⟨first, others⟩ := isAllBlank_cons.mp blank
      simpa [trimStart, first] using ih others

theorem trimStart_append_of_visible {c : Char} (visible : isBlank c = false) (text rest : List Char) :
    trimStart (text ++ c :: rest) = trimStart text ++ c :: rest := by
  induction text with
  | nil => exact trimStart_of_head visible rest
  | cons d text ih =>
      cases blank : isBlank d with
      | true => simpa [trimStart, blank] using ih
      | false => simp [trimStart, blank]

theorem trimEnd_append_of_visible {c : Char} (visible : isBlank c = false) (text rest : List Char) :
    trimEnd (text ++ c :: rest) = text ++ c :: trimEnd rest := by
  have reversed := trimStart_append_of_visible visible rest.reverse text.reverse
  simp only [trimStart] at reversed
  simp [trimEnd, reversed]

theorem visible_of_trimStart {text rest : List Char} {c : Char} (started : trimStart text = c :: rest) :
    isBlank c = false := by
  have visible := List.head?_dropWhile_not isBlank text
  rw [← trimStart, started] at visible
  simpa using visible

theorem trimStart_trimStart (text : List Char) : trimStart (trimStart text) = trimStart text := by
  cases started : trimStart text with
  | nil => rfl
  | cons c rest => exact trimStart_of_head (visible_of_trimStart started) rest

theorem trimEnd_trimEnd (text : List Char) : trimEnd (trimEnd text) = trimEnd text := by
  have reversed := trimStart_trimStart text.reverse
  simp only [trimStart] at reversed
  simp [trimEnd, reversed]

/-- A text that is not blank begins with a visible character, after some blanks. -/
theorem exists_trim_eq {text : List Char} (visible : trim text ≠ []) :
    ∃ c rest, isBlank c = false ∧ trimStart text = c :: rest ∧ trim text = c :: trimEnd rest := by
  cases started : trimStart text with
  | nil =>
      rw [trim, started] at visible
      exact absurd rfl visible
  | cons c rest =>
      have notBlank := visible_of_trimStart started
      refine ⟨c, rest, notBlank, rfl, ?_⟩
      rw [trim, started]
      exact trimEnd_append_of_visible notBlank [] rest

@[simp]
theorem trim_trim (text : List Char) : trim (trim text) = trim text := by
  by_cases empty : trim text = []
  · rw [empty]
    rfl
  · obtain ⟨c, rest, visible, -, trimmed⟩ := exists_trim_eq empty
    rw [trimmed, trim, trimStart_of_head visible]
    have trimmedAgain := trimEnd_append_of_visible visible [] (trimEnd rest)
    rwa [List.nil_append, trimEnd_trimEnd] at trimmedAgain

end GroupScript.Text
