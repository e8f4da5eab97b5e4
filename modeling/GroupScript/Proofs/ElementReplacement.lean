import GroupScript.Proofs.Outcome

/-!
# Replacing elements of nested lists

A path of indices leads through nested lists.  Replacing the value at its end makes new lists along the path: indexing
them by the same path gives the new value, each has the length it had, and what lies beside the path is as it was.
-/

namespace GroupScript

/-- The place that an index denotes in a sequence: a number counts from the start, a negative one from the end. -/
def Denotes (length : Nat) (index : Value) (place : Nat) : Prop :=
  place < length ∧ ∃ i, index = .int i ∧ (place : Int) = if i.toInt < 0 then i.toInt + length else i.toInt

theorem position_eq_ok_iff {length place : Nat} {index : Value} :
    position length index = .ok place ↔ Denotes length index place := by
  constructor
  · intro found
    cases index with
    | int i =>
        simp only [position] at found
        generalize denoted : (if i.toInt < 0 then i.toInt + (length : Int) else i.toInt) = counted at found
        by_cases inside : 0 ≤ counted ∧ counted < length
        · rw [if_pos inside] at found
          cases found
          exact ⟨by omega, i, rfl, by omega⟩
        · rw [if_neg inside] at found
          cases found
    | _ => cases found
  · rintro ⟨inside, i, rfl, denoted⟩
    simp only [position, ← denoted]
    simp [inside]

namespace Value

theorem replaceAt_cons_eq_ok_iff {new old updated index : Value} {path : List Value} :
    replaceAt new (index :: path) old = .ok updated ↔
      ∃ items place element, old = .list items ∧ Denotes items.length index place ∧
        replaceAt new path (items.getD place .nil) = .ok element ∧ updated = .list (items.set place element) := by
  constructor
  · intro replaced
    cases old with
    | list items =>
        obtain ⟨place, found, replaced⟩ := except_bind_eq_ok.mp replaced
        obtain ⟨element, inside, replaced⟩ := except_bind_eq_ok.mp replaced
        cases replaced
        exact ⟨items, place, element, rfl, position_eq_ok_iff.mp found, inside, rfl⟩
    | _ => cases replaced
  · rintro ⟨items, place, element, rfl, denoted, inside, rfl⟩
    apply except_bind_eq_ok.mpr
    refine ⟨place, position_eq_ok_iff.mpr denoted, ?_⟩
    apply except_bind_eq_ok.mpr
    exact ⟨element, inside, rfl⟩

end Value

namespace Store

variable {store : Store} {new old updated : Value} {path : List Value}

theorem elementAt_list_cons {items : List Value} {index : Value} {place : Nat}
    (denoted : Denotes items.length index place) :
    store.elementAt (.list items) (index :: path) = store.elementAt (items.getD place .nil) path := by
  have found := position_eq_ok_iff.mpr denoted
  simp [elementAt, element, found, bind, Except.bind, pure, Except.pure]

/-- Indexing by the path that was replaced gives the new value. -/
theorem elementAt_of_replaceAt (replaced : Value.replaceAt new path old = .ok updated) :
    store.elementAt updated path = .ok new := by
  induction path generalizing old updated with
  | nil =>
      cases replaced
      rfl
  | cons index path ih =>
      obtain ⟨items, place, element, rfl, denoted, inside, rfl⟩ := Value.replaceAt_cons_eq_ok_iff.mp replaced
      have present : (items.set place element).getD place .nil = element := by
        simp [List.getD, denoted.1]
      rw [elementAt_list_cons (by simpa using denoted), present]
      exact ih inside

/-- Wherever a path of indices passes, two values have lists of the same length there, and these have the same elements
at all places but the one that the path goes on with. -/
def AgreesBeside (store : Store) (path : List Value) (old updated : Value) : Prop :=
  ∀ front index rest, path = front ++ index :: rest → ∃ items others place,
    store.elementAt old front = .ok (.list items) ∧ store.elementAt updated front = .ok (.list others) ∧
      others.length = items.length ∧ Denotes items.length index place ∧
        ∀ other, other ≠ place → others[other]? = items[other]?

theorem agreesBeside_of_replaceAt (replaced : Value.replaceAt new path old = .ok updated) :
    store.AgreesBeside path old updated := by
  intro front
  induction front generalizing path old updated with
  | nil =>
      rintro index rest rfl
      obtain ⟨items, place, element, rfl, denoted, -, rfl⟩ := Value.replaceAt_cons_eq_ok_iff.mp replaced
      refine ⟨items, items.set place element, place, rfl, rfl, by simp, denoted, ?_⟩
      intro other apart
      exact List.getElem?_set_ne apart.symm
  | cons first front ih =>
      rintro index rest rfl
      obtain ⟨items, place, element, rfl, denoted, inside, rfl⟩ := Value.replaceAt_cons_eq_ok_iff.mp replaced
      have present : (items.set place element).getD place .nil = element := by
        simp [List.getD, denoted.1]
      rw [elementAt_list_cons denoted, elementAt_list_cons (by simpa using denoted), present]
      exact ih inside index rest rfl

end Store

end GroupScript
