import GroupScript.Builtin.Run
import GroupScript.Proofs.Outcome

/-!
# Comparison of values

Whole numbers, texts and lists of such values, nested to any depth, have a partial order: two of them may be impossible to
compare, but where comparisons succeed they agree with each other and with equality.  Texts are compared as the lists of
their code points, and lists by the first items that differ, so the laws of lists come from those of their items.

The least and the greatest of several values are found by going through them once and keeping the best so far.  What
the loop keeps is better than everything before it and not worse than anything after it, and this makes it the first
value of its rank.
-/

namespace GroupScript

namespace Text

/-- The code points of a text. -/
def codePoints (text : String) : List Nat :=
  text.toList.map Char.toNat

theorem codePoints_inj {first second : String} : codePoints first = codePoints second ↔ first = second := by
  have injective : Function.Injective (List.map Char.toNat) :=
    List.map_injective_iff.mpr fun _ _ same => Char.toNat_inj.mp same
  rw [codePoints, codePoints, injective.eq_iff, String.toList_inj]

theorem compareChars_eq (first second : List Char) :
    compareChars first second = compare (first.map Char.toNat) (second.map Char.toNat) := by
  induction first generalizing second with
  | nil => cases second <;> rfl
  | cons c first ih =>
      cases second with
      | nil => rfl
      | cons d second =>
          rw [List.map_cons, List.map_cons, List.compare_cons_cons, compareChars, ih]
          cases compare c.toNat d.toNat <;> rfl

theorem compareStrings_eq (first second : String) :
    compareStrings first second = compare (codePoints first) (codePoints second) :=
  compareChars_eq _ _

end Text

namespace Value

/-- The values made of whole numbers, texts and lists. -/
inductive Sortable : Value → Prop
  | int (value : Int64) : Sortable (.int value)
  | string (text : String) : Sortable (.string text)
  | list {items : List Value} (each : ∀ item ∈ items, Sortable item) : Sortable (.list items)

/-- The outcomes of a comparison and of the comparison the other way around: both succeed and are opposite, or both
fail and name the same two kinds. -/
inductive Mirrored : Except EvaluationFault Ordering → Except EvaluationFault Ordering → Prop
  | ordered (ordering : Ordering) : Mirrored (.ok ordering) (.ok ordering.swap)
  | failed (left right : Kind) :
      Mirrored (.error (.notComparable left right)) (.error (.notComparable right left))

theorem Mirrored.eq_ok_iff {one other : Except EvaluationFault Ordering} (mirrored : Mirrored one other)
    {ordering : Ordering} : one = .ok ordering ↔ other = .ok ordering.swap := by
  cases mirrored with
  | ordered found => simp
  | failed left right => simp

/-! ### Leaves -/

@[simp]
theorem order_int (x y : Int64) : order (.int x) (.int y) = .ok (compare x.toInt y.toInt) := by
  simp [order, compareLeaves]

@[simp]
theorem order_string (x y : String) :
    order (.string x) (.string y) = .ok (compare (Text.codePoints x) (Text.codePoints y)) := by
  simp [order, compareLeaves, Text.compareStrings_eq]

@[simp]
theorem order_list (first second : List Value) : order (.list first) (.list second) = orderItems first second := by
  simp [order]

theorem mirrored_compare {α : Type} [Ord α] [Std.OrientedOrd α] (x y : α) :
    Mirrored (.ok (compare x y)) (.ok (compare y x)) := by
  rw [Std.OrientedOrd.eq_swap (a := y)]
  exact .ordered _

/-! ### Lists by their items -/

section Items

variable {a b : Value} {first second : List Value}

@[simp]
theorem orderItems_nil : orderItems [] [] = .ok .eq := by
  rw [orderItems]

@[simp]
theorem orderItems_nil_cons : orderItems [] (b :: second) = .ok .lt := by
  rw [orderItems]

@[simp]
theorem orderItems_cons_nil : orderItems (a :: first) [] = .ok .gt := by
  rw [orderItems]

theorem orderItems_cons_of_eq (same : a.order b = .ok .eq) :
    orderItems (a :: first) (b :: second) = orderItems first second := by
  rw [orderItems, same]
  rfl

/-- The first items decide if they do not count as equal. -/
theorem orderItems_cons_of_ne (differ : a.order b ≠ .ok .eq) :
    orderItems (a :: first) (b :: second) = a.order b := by
  rw [orderItems]
  cases compared : a.order b with
  | error fault => rfl
  | ok ordering =>
      cases ordering with
      | eq => exact absurd compared differ
      | lt => rfl
      | gt => rfl

theorem orderItems_cons_lt_iff :
    orderItems (a :: first) (b :: second) = .ok .lt ↔
      a.order b = .ok .lt ∨ a.order b = .ok .eq ∧ orderItems first second = .ok .lt := by
  by_cases same : a.order b = .ok .eq
  · simp [orderItems_cons_of_eq same, same]
  · simp [orderItems_cons_of_ne same, same]

theorem mirrored_orderItems (each : ∀ a ∈ first, ∀ b ∈ second, Mirrored (a.order b) (b.order a)) :
    Mirrored (orderItems first second) (orderItems second first) := by
  induction first generalizing second with
  | nil =>
      cases second with
      | nil => simpa using Mirrored.ordered .eq
      | cons b second => simpa using Mirrored.ordered .lt
  | cons a first ih =>
      cases second with
      | nil => simpa using Mirrored.ordered .gt
      | cons b second =>
          simp only [List.forall_mem_cons] at each
          obtain ⟨⟨heads, -⟩, others⟩ := each
          have tails := @ih second fun x member => (others x member).2
          by_cases same : a.order b = .ok .eq
          · rwa [orderItems_cons_of_eq same, orderItems_cons_of_eq (heads.eq_ok_iff.mp same)]
          · rwa [orderItems_cons_of_ne same, orderItems_cons_of_ne (heads.eq_ok_iff.not.mp same)]

theorem orderItems_eq_iff (each : ∀ a ∈ first, ∀ b ∈ second, (a.order b = .ok .eq ↔ a = b)) :
    orderItems first second = .ok .eq ↔ first = second := by
  induction first generalizing second with
  | nil => cases second <;> simp
  | cons a first ih =>
      cases second with
      | nil => simp
      | cons b second =>
          simp only [List.forall_mem_cons] at each
          obtain ⟨⟨heads, -⟩, others⟩ := each
          have tails := @ih second fun x member => (others x member).2
          by_cases same : a.order b = .ok .eq
          · rw [orderItems_cons_of_eq same, tails]
            simp [heads.mp same]
          · simp [orderItems_cons_of_ne same, same, heads.not.mp same]

theorem equalItems_iff (each : ∀ a ∈ first, ∀ b ∈ second, (a.equals b = true ↔ a = b)) :
    equalItems first second = true ↔ first = second := by
  induction first generalizing second with
  | nil => cases second <;> simp [equalItems]
  | cons a first ih =>
      cases second with
      | nil => simp [equalItems]
      | cons b second =>
          simp only [List.forall_mem_cons] at each
          obtain ⟨⟨heads, -⟩, others⟩ := each
          have tails := @ih second fun x member => (others x member).2
          simp [equalItems, heads, tails]

end Items

section Laws

variable {a b c : Value}

theorem Sortable.mirrored (first : a.Sortable) (second : b.Sortable) : Mirrored (a.order b) (b.order a) := by
  -- Of the nine pairs of kinds, the three with one kind twice can be compared.
  induction first generalizing b with
  | int x =>
      cases second with
      | int y => simpa using mirrored_compare x.toInt y.toInt
      | string y => exact .failed _ _
      | list each => exact .failed _ _
  | string x =>
      cases second with
      | int y => exact .failed _ _
      | string y => simpa using mirrored_compare (Text.codePoints x) (Text.codePoints y)
      | list each => exact .failed _ _
  | list each ih =>
      cases second with
      | int y => exact .failed _ _
      | string y => exact .failed _ _
      | list eachToo => simpa using mirrored_orderItems fun x member y memberToo => ih x member (eachToo y memberToo)

/-- Sortable values count as equal only if they are the same. -/
theorem Sortable.order_eq_iff (first : a.Sortable) (second : b.Sortable) : a.order b = .ok .eq ↔ a = b := by
  induction first generalizing b with
  | int x => cases second <;> simp [order, compareLeaves, toFloat?, Int64.toInt_inj]
  | string x => cases second <;> simp [order, compareLeaves, toFloat?, Text.compareStrings_eq, Text.codePoints_inj]
  | list each ih =>
      cases second with
      | int y => simp [order, compareLeaves, toFloat?]
      | string y => simp [order, compareLeaves, toFloat?]
      | list eachToo => simpa using orderItems_eq_iff fun x member y memberToo => ih x member (eachToo y memberToo)

theorem Sortable.equals_iff (first : a.Sortable) (second : b.Sortable) : a.equals b = true ↔ a = b := by
  induction first generalizing b with
  | int x => cases second <;> simp [equals, same]
  | string x => cases second <;> simp [equals, same]
  | list each ih =>
      cases second with
      | int y => simp [equals, same]
      | string y => simp [equals, same]
      | list eachToo =>
          simpa [equals] using equalItems_iff fun x member y memberToo => ih x member (eachToo y memberToo)

/-- Being less passes from items to lists: the first items that differ decide, and those before them are the same. -/
theorem orderItems_lt_trans {first second third : List Value} (sortable : ∀ a ∈ first, a.Sortable)
    (sortableSecond : ∀ b ∈ second, b.Sortable) (sortableThird : ∀ c ∈ third, c.Sortable)
    (each : ∀ a ∈ first, ∀ b ∈ second, ∀ c ∈ third,
      a.order b = .ok .lt → b.order c = .ok .lt → a.order c = .ok .lt)
    (less : orderItems first second = .ok .lt) (lessToo : orderItems second third = .ok .lt) :
    orderItems first third = .ok .lt := by
  induction first generalizing second third with
  | nil =>
      cases third with
      | nil => cases second <;> simp at lessToo
      | cons c third => simp
  | cons a first ih =>
      cases second with
      | nil => simp at less
      | cons b second =>
          cases third with
          | nil => simp at lessToo
          | cons c third =>
              simp only [List.forall_mem_cons] at sortable sortableSecond sortableThird
              rw [orderItems_cons_lt_iff] at less lessToo ⊢
              rcases less with below | ⟨same, below⟩
              · rcases lessToo with above | ⟨sameToo, -⟩
                · exact .inl (each a (by simp) b (by simp) c (by simp) below above)
                · obtain rfl := (sortableSecond.1.order_eq_iff sortableThird.1).mp sameToo
                  exact .inl below
              · obtain rfl := (sortable.1.order_eq_iff sortableSecond.1).mp same
                rcases lessToo with above | ⟨sameToo, above⟩
                · exact .inl above
                · refine .inr ⟨sameToo, ih sortable.2 sortableSecond.2 sortableThird.2 ?_ below above⟩
                  intro x member y memberSecond z memberThird
                  exact each x (by simp [member]) y (by simp [memberSecond]) z (by simp [memberThird])

theorem Sortable.order_lt_trans (first : a.Sortable) (second : b.Sortable) (third : c.Sortable)
    (less : a.order b = .ok .lt) (lessToo : b.order c = .ok .lt) : a.order c = .ok .lt := by
  induction first generalizing b c with
  | int x =>
      cases second with
      | int y =>
          cases third with
          | int z =>
              simp only [order_int, Except.ok.injEq] at less lessToo ⊢
              exact Std.TransCmp.lt_trans less lessToo
          | string z => cases lessToo
          | list each => cases lessToo
      | string y => cases less
      | list each => cases less
  | string x =>
      cases second with
      | int y => cases less
      | string y =>
          cases third with
          | int z => cases lessToo
          | string z =>
              simp only [order_string, Except.ok.injEq] at less lessToo ⊢
              exact Std.TransCmp.lt_trans less lessToo
          | list each => cases lessToo
      | list each => cases less
  | list sortable ih =>
      cases second with
      | int y => cases less
      | string y => cases less
      | list sortableSecond =>
          cases third with
          | int z => cases lessToo
          | string z => cases lessToo
          | list sortableThird =>
              rw [order_list] at less lessToo ⊢
              apply orderItems_lt_trans sortable sortableSecond sortableThird _ less lessToo
              intro x member y memberSecond z memberThird
              exact ih x member (sortableSecond y memberSecond) (sortableThird z memberThird)

theorem Sortable.order_gt_iff (first : a.Sortable) (second : b.Sortable) : a.order b = .ok .gt ↔ b.order a = .ok .lt :=
  (first.mirrored second).eq_ok_iff

theorem Sortable.order_lt_asymm (first : a.Sortable) (second : b.Sortable) (less : a.order b = .ok .lt) :
    b.order a ≠ .ok .lt := by
  have greater := (first.mirrored second).eq_ok_iff.mp less
  simp [greater]

/-- If one value is less than another, a third one that can be compared with the greater is greater than the one or less
than the other. -/
theorem Sortable.order_lt_cotrans (first : a.Sortable) (second : b.Sortable) (third : c.Sortable)
    (comparable : ∃ ordering, b.order c = .ok ordering) (less : a.order b = .ok .lt) :
    a.order c = .ok .lt ∨ c.order b = .ok .lt := by
  obtain ⟨ordering, compared⟩ := comparable
  cases ordering with
  | lt => exact .inl (first.order_lt_trans second third less compared)
  | eq =>
      obtain rfl := (second.order_eq_iff third).mp compared
      exact .inl less
  | gt => exact .inr ((second.order_gt_iff third).mp compared)

end Laws

end Value

/-- A binary operator holds of two values: it gives true. -/
def Store.Affirms (store : Store) (op : BinaryOp) (a b : Value) : Prop :=
  store.binary op a b = .ok (.bool true)

namespace Builtin

/-! ### The first of the best -/

/-- An item that no item is better than, and the first such item. -/
def FirstBest (better : Value → Value → Prop) (items : List Value) (best : Value) : Prop :=
  ∃ before after, items = before ++ best :: after ∧ (∀ item ∈ items, ¬better item best) ∧
    ∀ item ∈ before, ∃ other ∈ items, better other item

/-- An item that is better than all before it and not surpassed by one after it. -/
def Leads (better : Value → Value → Prop) (items : List Value) (best : Value) : Prop :=
  ∃ before after, items = before ++ best :: after ∧ (∀ item ∈ before, better best item) ∧
    ∀ item ∈ after, ¬better item best

/-- A relation that sorts some items into ranks: of two items in the relation, a third one cannot be on the wrong side
of both. -/
structure Ranks (better : Value → Value → Prop) (items : List Value) : Prop where
  asymm : ∀ a ∈ items, ∀ b ∈ items, better a b → ¬better b a
  cotrans : ∀ a ∈ items, ∀ b ∈ items, ∀ c ∈ items, better a b → better a c ∨ better c b

section Loop

variable {better : Value → Value → Prop} {store : Store} {op : BinaryOp} {done rest items : List Value}
  {best item : Value}

theorem Ranks.of_subset (ranks : Ranks better items) (subset : done ⊆ items) : Ranks better done where
  asymm a first b second := ranks.asymm a (subset first) b (subset second)
  cotrans a first b second c third := ranks.cotrans a (subset first) b (subset second) c (subset third)

theorem leads_single (better : Value → Value → Prop) (best : Value) : Leads better [best] best :=
  ⟨[], [], rfl, by simp, by simp⟩

theorem Leads.mem (leads : Leads better done best) : best ∈ done := by
  obtain ⟨before, after, rfl, -, -⟩ := leads
  simp

theorem Leads.keep (leads : Leads better done best) (worse : ¬better item best) :
    Leads better (done ++ [item]) best := by
  obtain ⟨before, after, rfl, ahead, behind⟩ := leads
  refine ⟨before, after ++ [item], by simp, ahead, ?_⟩
  simpa [or_imp, forall_and, worse] using behind

/-- An item better than the best so far is better than everything so far. -/
theorem Leads.replace (ranks : Ranks better (done ++ [item])) (leads : Leads better done best)
    (surpasses : better item best) : Leads better (done ++ [item]) item := by
  have member := leads.mem
  obtain ⟨before, after, split, ahead, behind⟩ := leads
  refine ⟨done, [], rfl, ?_, by simp⟩
  intro other otherMember
  have sides := ranks.cotrans item (by simp) best (by simp [member]) other (by simp [otherMember]) surpasses
  refine sides.resolve_right fun better => ?_
  rw [split, List.mem_append, List.mem_cons] at otherMember
  rcases otherMember with earlier | rfl | later
  · exact ranks.asymm best (by simp [member]) other (by simp [split, earlier]) (ahead other earlier) better
  · exact ranks.asymm other (by simp [member]) other (by simp [member]) better better
  · exact behind other later better

/-- The loop keeps the item that leads. -/
theorem exists_extreme_eq (ranks : Ranks (store.Affirms op) (done ++ rest))
    (decided : ∀ a ∈ done ++ rest, ∀ b ∈ done ++ rest, ∃ answer, store.binary op a b = .ok (.bool answer))
    (leads : Leads (store.Affirms op) done best) :
    ∃ found, extreme store op best rest = .ok found ∧ Leads (store.Affirms op) (done ++ rest) found := by
  induction rest generalizing done best with
  | nil => exact ⟨best, rfl, by simpa using leads⟩
  | cons item rest ih =>
      obtain ⟨answer, answered⟩ := decided item (by simp) best (by simp [leads.mem])
      have step : extreme store op best (item :: rest) =
          extreme store op (if answer then item else best) rest := by
        rw [extreme, answered]
        rfl
      have next : Leads (store.Affirms op) (done ++ [item]) (if answer then item else best) := by
        cases answer with
        | true => exact leads.replace (ranks.of_subset (by simp)) answered
        | false =>
            apply leads.keep
            simp [Store.Affirms, answered]
      rw [step, List.append_cons]
      rw [List.append_cons] at ranks decided
      exact ih ranks decided next

theorem Leads.firstBest (ranks : Ranks better items) (leads : Leads better items best) :
    FirstBest better items best := by
  have member := leads.mem
  obtain ⟨before, after, split, ahead, behind⟩ := leads
  have earlierMember {item : Value} (earlier : item ∈ before) : item ∈ items := by simp [split, earlier]
  refine ⟨before, after, split, ?_, fun item earlier => ⟨best, member, ahead item earlier⟩⟩
  intro item itemMember surpasses
  rw [split, List.mem_append, List.mem_cons] at itemMember
  rcases itemMember with earlier | rfl | later
  · exact ranks.asymm item (earlierMember earlier) best member surpasses (ahead item earlier)
  · exact ranks.asymm item member item member surpasses surpasses
  · exact behind item later surpasses

theorem exists_runExtreme_eq (function : Builtin) {arguments : List Value} (some : operands arguments ≠ [])
    (ranks : Ranks (store.Affirms op) (operands arguments))
    (decided : ∀ a ∈ operands arguments, ∀ b ∈ operands arguments, ∃ answer, store.binary op a b = .ok (.bool answer)) :
    ∃ found, runExtreme store function op arguments = .ok found ∧
      FirstBest (store.Affirms op) (operands arguments) found := by
  unfold runExtreme
  cases given : operands arguments with
  | nil => exact absurd given some
  | cons first rest =>
      rw [given] at ranks decided
      obtain ⟨found, ran, leads⟩ := @exists_extreme_eq store op [first] rest first ranks decided (leads_single _ first)
      exact ⟨found, ran, leads.firstBest ranks⟩

end Loop

section Operators

variable {store : Store} {a b : Value} {items : List Value}

theorem affirms_of_asked {compared : Except EvaluationFault Ordering} {wanted : Ordering} :
    (return Value.bool ((← compared) == wanted) : Except EvaluationFault Value) = .ok (.bool true) ↔
      compared = .ok wanted := by
  cases compared with
  | error fault => simp [bind, Except.bind]
  | ok ordering => simp [bind, Except.bind, pure, Except.pure]

theorem affirms_lt_iff : store.Affirms .lt a b ↔ a.order b = .ok .lt :=
  affirms_of_asked

theorem affirms_gt_iff : store.Affirms .gt a b ↔ a.order b = .ok .gt :=
  affirms_of_asked

/-- Values that can all be compared with each other. -/
def Comparable (items : List Value) : Prop :=
  ∀ a ∈ items, ∀ b ∈ items, ∃ ordering, a.order b = .ok ordering

theorem ranks_lt (sortable : ∀ item ∈ items, item.Sortable) (comparable : Comparable items) :
    Ranks (store.Affirms .lt) items where
  asymm a first b second := by
    simpa only [affirms_lt_iff] using (sortable a first).order_lt_asymm (sortable b second)
  cotrans a first b second c third := by
    simpa only [affirms_lt_iff] using
      (sortable a first).order_lt_cotrans (sortable b second) (sortable c third) (comparable b second c third)

/-- Being greater ranks the items the other way around. -/
theorem ranks_gt (sortable : ∀ item ∈ items, item.Sortable) (comparable : Comparable items) :
    Ranks (store.Affirms .gt) items := by
  have less := @ranks_lt store items sortable comparable
  have turned {a b : Value} (first : a ∈ items) (second : b ∈ items) :
      store.Affirms .gt a b ↔ store.Affirms .lt b a := by
    rw [affirms_gt_iff, affirms_lt_iff, (sortable a first).order_gt_iff (sortable b second)]
  constructor
  · intro a first b second
    rw [turned first second, turned second first]
    exact less.asymm b second a first
  · intro a first b second c third greater
    rw [turned first third, turned third second]
    exact (less.cotrans b second a first c third ((turned first second).mp greater)).symm

theorem Comparable.decided (comparable : Comparable items) {op : BinaryOp} (among : op ∈ [BinaryOp.lt, .gt]) :
    ∀ a ∈ items, ∀ b ∈ items, ∃ answer, store.binary op a b = .ok (.bool answer) := by
  intro a first b second
  obtain ⟨ordering, compared⟩ := comparable a first b second
  simp only [List.mem_cons, List.not_mem_nil, or_false] at among
  rcases among with rfl | rfl
  · exact ⟨ordering == .lt, by rw [Store.binary, compared]; rfl⟩
  · exact ⟨ordering == .gt, by rw [Store.binary, compared]; rfl⟩

end Operators

/-- Comparison of whole numbers, texts and lists is a consistent order: the two ways of comparing two values both fail or
give opposite answers, two values compare as equal just if they are equal for the language, and being less is
transitive, where the comparison that follows cannot fail.  So of values that can be compared with each other, the least is
the first one that none is less than, and the greatest the first one that none is greater than. -/
theorem comparison_consistent (store : Store) :
    (∀ a b : Value, a.Sortable → b.Sortable →
      Value.Mirrored (a.order b) (b.order a) ∧ (a.order b = .ok .eq ↔ a.equals b = true)) ∧
    (∀ a b c : Value, a.Sortable → b.Sortable → c.Sortable →
      store.Affirms .lt a b → store.Affirms .lt b c → store.Affirms .lt a c) ∧
    ∀ arguments : List Value, operands arguments ≠ [] → (∀ item ∈ operands arguments, item.Sortable) →
      Comparable (operands arguments) →
        (∃ least, runPure? store .min arguments = some (.ok least) ∧
          FirstBest (store.Affirms .lt) (operands arguments) least) ∧
        ∃ greatest, runPure? store .max arguments = some (.ok greatest) ∧
          FirstBest (store.Affirms .gt) (operands arguments) greatest := by
  refine ⟨?_, ?_, ?_⟩
  · intro a b first second
    exact ⟨first.mirrored second, by rw [first.order_eq_iff second, first.equals_iff second]⟩
  · intro a b c first second third
    simpa only [affirms_lt_iff] using first.order_lt_trans second third
  · intro arguments given sortable comparable
    obtain ⟨least, ranLeast, isLeast⟩ := exists_runExtreme_eq .min given (ranks_lt sortable comparable)
      (comparable.decided (by simp))
    obtain ⟨greatest, ranGreatest, isGreatest⟩ := exists_runExtreme_eq .max given (ranks_gt sortable comparable)
      (comparable.decided (by simp))
    exact ⟨⟨least, congrArg some ranLeast, isLeast⟩, greatest, congrArg some ranGreatest, isGreatest⟩

/-- Three lists that differ in their first or second items, and a fourth that has no order with them. -/
theorem comparison_consistent_nested :
    (Value.Mirrored (Value.order (.list [.int 1, .string "b"]) (.list [.int 1, .int 2]))
      (Value.order (.list [.int 1, .int 2]) (.list [.int 1, .string "b"]))) ∧
    ({} : Store).Affirms .lt (.list [.int 1]) (.list [.int 2]) ∧
    (∀ item ∈ [Value.list [.int 2], .list [.int 1, .string "b"], .list [.int 1, .string "a"]], item.Sortable) ∧
    Comparable [.list [.int 2], .list [.int 1, .string "b"], .list [.int 1, .string "a"]] ∧
    ∃ least, runPure? {} .min [.list [.list [.int 2], .list [.int 1, .string "b"], .list [.int 1, .string "a"]]] =
        some (.ok least) ∧
      FirstBest (({} : Store).Affirms .lt)
        [.list [.int 2], .list [.int 1, .string "b"], .list [.int 1, .string "a"]] least := by
  obtain ⟨pairs, chains, choices⟩ := comparison_consistent {}
  have number (n : Int64) : Value.Sortable (.list [.int n]) := .list (by simp [Value.Sortable.int])
  have mixed (n : Int64) (text : String) : Value.Sortable (.list [.int n, .string text]) :=
    .list (by simp [Value.Sortable.int, Value.Sortable.string])
  have numbers : Value.Sortable (.list [.int 1, .int 2]) := .list (by simp [Value.Sortable.int])
  have sortable : ∀ item ∈ [Value.list [.int 2], .list [.int 1, .string "b"], .list [.int 1, .string "a"]],
      item.Sortable := by
    simp [number, mixed]
  have comparable : Comparable [.list [.int 2], .list [.int 1, .string "b"], .list [.int 1, .string "a"]] := by
    intro a first b second
    simp only [List.mem_cons, List.not_mem_nil, or_false] at first second
    rcases first with rfl | rfl | rfl <;> rcases second with rfl | rfl | rfl <;> exact ⟨_, rfl⟩
  refine ⟨(pairs _ _ (mixed 1 "b") numbers).1, ?_, sortable, comparable, ?_⟩
  · exact chains (.list [.int 1]) (.list [.int 1, .string "b"]) (.list [.int 2]) (number 1) (mixed 1 "b") (number 2)
      rfl rfl
  · exact (choices [.list [.list [.int 2], .list [.int 1, .string "b"], .list [.int 1, .string "a"]]] (by simp [operands])
      sortable comparable).1

end Builtin

end GroupScript
