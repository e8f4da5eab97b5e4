import GroupScript.Proofs.Consulting
import GroupScript.Proofs.GroupChange

/-!
# The segments of names

A dotted name is cut into its segments, and joining pieces gives back the text that they were cut from.  So the name that
the first segments of a name make up has these segments.
-/

namespace GroupScript

namespace Text

variable {separator : Char} {text : List Char}

theorem startsWith_singleton (separator c : Char) (text : List Char) :
    startsWith [separator] (c :: text) = decide (separator = c) := by
  unfold startsWith
  by_cases same : separator = c <;> simp [dropStart?, same]

theorem piecesFrom_ne_nil (separator : List Char) (passed : Nat) (text : List Char) :
    piecesFrom separator passed text ≠ [] := by
  fun_induction piecesFrom separator passed text <;> simp_all

theorem pieces_cons (separator c : Char) (text : List Char) :
    pieces [separator] (c :: text) =
      if separator = c then [] :: pieces [separator] text
      else (pieces [separator] text).modifyHead (c :: ·) := by
  simp only [pieces, piecesFrom, startsWith_singleton, decide_eq_true_eq]
  split
  · rfl
  · cases parts : piecesFrom [separator] 0 text with
    | nil => exact absurd parts (piecesFrom_ne_nil _ _ _)
    | cons first rest => rfl

theorem joinWith_modifyHead (c : Char) {first : List Char} {rest : List (List Char)} :
    joinWith [separator] ((first :: rest).modifyHead (c :: ·)) =
      c :: joinWith [separator] (first :: rest) := by
  cases rest <;> rfl

theorem exists_pieces (separator : Char) (text : List Char) :
    ∃ first rest, pieces [separator] text = first :: rest := by
  induction text with
  | nil => exact ⟨[], [], rfl⟩
  | cons c text ih =>
      obtain ⟨first, rest, parts⟩ := ih
      rw [pieces_cons, parts]
      split
      · exact ⟨[], first :: rest, rfl⟩
      · exact ⟨c :: first, rest, rfl⟩

/-- Joining the pieces of a text gives back the text. -/
theorem joinWith_pieces (separator : Char) (text : List Char) :
    joinWith [separator] (pieces [separator] text) = text := by
  induction text with
  | nil => rfl
  | cons c text ih =>
      obtain ⟨first, rest, parts⟩ := exists_pieces separator text
      rw [parts] at ih
      rw [pieces_cons, parts]
      split
      · rename_i same
        rw [joinWith, ih, same]
        rfl
      · rw [joinWith_modifyHead, ih]

theorem not_mem_of_mem_pieces {piece : List Char} (member : piece ∈ pieces [separator] text) :
    separator ∉ piece := by
  induction text generalizing piece with
  | nil =>
      rw [List.mem_singleton.mp member]
      exact List.not_mem_nil
  | cons c text ih =>
      obtain ⟨first, rest, parts⟩ := exists_pieces separator text
      rw [pieces_cons] at member
      rw [parts] at member ih
      split at member
      · rcases List.mem_cons.mp member with rfl | later
        · exact List.not_mem_nil
        · exact ih later
      · rename_i different
        rcases List.mem_cons.mp member with rfl | later
        · rw [List.mem_cons, not_or]
          exact ⟨different, ih List.mem_cons_self⟩
        · exact ih (List.mem_cons_of_mem first later)

theorem pieces_of_not_mem (clean : separator ∉ text) : pieces [separator] text = [text] := by
  induction text with
  | nil => rfl
  | cons c text ih =>
      rw [List.mem_cons, not_or] at clean
      rw [pieces_cons, if_neg clean.1, ih clean.2]
      rfl

theorem pieces_append {first : List Char} (clean : separator ∉ first) (text : List Char) :
    pieces [separator] (first ++ separator :: text) = first :: pieces [separator] text := by
  induction first with
  | nil => rw [List.nil_append, pieces_cons, if_pos rfl]
  | cons c first ih =>
      rw [List.mem_cons, not_or] at clean
      rw [List.cons_append, pieces_cons, if_neg clean.1, ih clean.2]
      rfl

/-- The pieces of joined pieces are the pieces. -/
theorem pieces_joinWith {first : List Char} {rest : List (List Char)}
    (clean : ∀ piece ∈ first :: rest, separator ∉ piece) :
    pieces [separator] (joinWith [separator] (first :: rest)) = first :: rest := by
  induction rest generalizing first with
  | nil => exact pieces_of_not_mem (clean first List.mem_cons_self)
  | cons second rest ih =>
      rw [joinWith, List.append_assoc, List.singleton_append, pieces_append (clean first List.mem_cons_self),
        ih fun piece member => clean piece (List.mem_cons_of_mem first member)]

end Text

/-- A name without dots is its only segment. -/
theorem segmentsOf_of_not_mem {name : String} (clean : '.' ∉ name.toList) : segmentsOf name = [name] := by
  rw [segmentsOf, Text.partsAt, Text.pieces_of_not_mem clean, List.map_singleton, String.ofList_toList]

/-- The first segments of a name are the segments of a name. -/
theorem segmentsOf_joinStrings {name first : String} {rest after : List String}
    (segments : segmentsOf name = first :: rest ++ after) :
    segmentsOf (Text.joinStrings "." (first :: rest)) = first :: rest := by
  have clean : ∀ piece ∈ first.toList :: rest.map String.toList, '.' ∉ piece := by
    intro piece member
    rw [← List.map_cons] at member
    obtain ⟨segment, inside, rfl⟩ := List.mem_map.mp member
    have cut : segment ∈ segmentsOf name := segments ▸ List.mem_append_left after inside
    obtain ⟨text, found, rfl⟩ := List.mem_map.mp cut
    rw [String.toList_ofList]
    exact Text.not_mem_of_mem_pieces found
  have plain : String.ofList ∘ String.toList = id := funext fun text => String.ofList_toList
  rw [segmentsOf, Text.partsAt, Text.joinStrings, String.toList_ofList]
  change (Text.pieces ['.'] (Text.joinWith ['.'] (first.toList :: rest.map String.toList))).map String.ofList = _
  rw [Text.pieces_joinWith clean, ← List.map_cons, List.map_map, plain, List.map_id]

theorem Store.member?_append (store : Store) (start : Value) (names : List String) (name : String) :
    store.member? start (names ++ [name]) = (store.member? start names).bind (store.member? · [name]) := by
  induction names generalizing start with
  | nil => rfl
  | cons first names ih =>
      cases start with
      | group id =>
          simp only [List.cons_append, Store.member?]
          cases (store.group id).get? first with
          | none => rfl
          | some value => exact ih value
      | _ => rfl

theorem Group.has_iff_get? (group : Group) (name : String) :
    group.has name = (group.get? name).isSome := by
  rw [has, get?, Dictionary.contains, Option.isSome_map]

namespace Workspace

variable {scope : Scope} {workspace after : Workspace} {name : String}

/-- Consulting twice in a row from a scope finds the same search path. -/
theorem lookupFirst_again {found : Option Value} (looked : lookupFirst scope name workspace = .ok found after) :
    lookupFirst scope name after = .ok found after := by
  rw [lookupFirst_apply] at looked ⊢
  split at looked
  · rename_i isRoot
    cases looked
    rw [if_pos isRoot]
  · rename_i notRoot
    cases looked
    rw [if_neg notRoot, refresh_refresh]
    simp only [group, refresh_store]

end Workspace

end GroupScript
