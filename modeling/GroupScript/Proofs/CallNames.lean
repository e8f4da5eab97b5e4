import GroupScript.Interpreter.Call
import GroupScript.Proofs.GroupChange

/-!
# Names of calls

The group of a call hangs in the root under a name that the surroundings make up, by the number of the call.  Nothing is
known of these names.  Where a call must not hide what the root has, it is assumed that the names made up during a run are
fresh.
-/

namespace GroupScript

/-- The names of the calls with numbers in a range are fresh: a group has no member of such a name, and calls with
different numbers have different names, whatever procedures they call. -/
structure Environment.FreshCalls (environment : Environment) (first last : Nat) (group : Group) : Prop where
  unbound : ∀ number, first ≤ number → number < last → ∀ procedure,
    group.has (environment.callName procedure number) = false
  distinct : ∀ number later, first ≤ number → number < later → later < last → ∀ procedure other,
    environment.callName procedure number ≠ environment.callName other later

namespace Environment.FreshCalls

variable {environment : Environment} {first next last : Nat} {group : Group}

theorem of_le (none : last ≤ first) : environment.FreshCalls first last group where
  unbound := by
    intro number atLeast below
    omega
  distinct := by
    intro number later atLeast before below
    omega

theorem later (fresh : environment.FreshCalls first last group) (atLeast : first ≤ next) :
    environment.FreshCalls next last group where
  unbound := fun number reached => fresh.unbound number (Nat.le_trans atLeast reached)
  distinct := fun number later reached => fresh.distinct number later (Nat.le_trans atLeast reached)

/-- While the first call of a range is hung in the group, the names of the others are fresh. -/
theorem entered (fresh : environment.FreshCalls first last group) (procedure : String) (value : Value) :
    environment.FreshCalls (first + 1) last (group.set (environment.callName procedure first) value) where
  unbound := by
    intro number reached below other
    have absent := fresh.unbound number (Nat.le_of_succ_le reached) below other
    have different := fresh.distinct first number (Nat.le_refl first) reached below procedure other
    simpa [Group.has, Group.set, Dictionary.contains, Dictionary.get?_put, different] using absent
  distinct := (fresh.later (Nat.le_succ first)).distinct

end Environment.FreshCalls

theorem Dictionary.mem_of_find {α : Type} {name : String} {entry : α} {entries : List (String × α)}
    (found : Dictionary.find name entries = some entry) : (name, entry) ∈ entries := by
  induction entries with
  | nil => cases found
  | cons first rest ih =>
      obtain ⟨key, kept⟩ := first
      rw [find] at found
      split at found
      · rename_i same
        cases found
        rw [same]
        exact List.mem_cons_self
      · exact List.mem_cons_of_mem _ (ih found)

theorem isReserved_callName (environment : Environment) (procedure : String) (number : Nat) :
    isReserved (environment.callName procedure number) = true := by
  simp only [isReserved, Environment.callName, String.toList_append, List.append_assoc]
  rfl

/-- The digits of a number are what stands behind the last underscore. -/
theorem eq_of_counted_callName {procedure other : String} {number later : Nat}
    (same : reservedStart ++ procedure ++ "_" ++ toString number = reservedStart ++ other ++ "_" ++ toString later) :
    number = later := by
  have digits (n : Nat) : ∀ c ∈ (toString n).toList.reverse, (c != '_') = true := by
    intro c member
    rw [List.mem_reverse, Nat.toString_eq_repr, Nat.repr, String.toList_ofList] at member
    have digit := Nat.isDigit_of_mem_toDigits (by decide) (by decide) member
    rw [bne_iff_ne]
    rintro rfl
    cases digit
  have ending (start : String) (n : Nat) :
      (reservedStart ++ start ++ "_" ++ toString n).toList.reverse.takeWhile (· != '_') =
        (toString n).toList.reverse := by
    rw [String.toList_append, List.reverse_append, List.takeWhile_append_of_pos (digits n), String.toList_append,
      List.reverse_append]
    exact List.append_nil _
  have reversed : (toString number).toList.reverse = (toString later).toList.reverse := by
    rw [← ending procedure number, same, ending]
  exact Nat.repr_inj.mp (String.toList_injective (List.reverse_injective reversed))

/-- Names that end in the number of the call are fresh in a group without reserved names. -/
theorem Environment.freshCalls_of_counted {environment : Environment} {group : Group}
    (counted : environment.callId = toString)
    (plain : (group.members.entries.all fun entry => !isReserved entry.1) = true) (first last : Nat) :
    environment.FreshCalls first last group where
  unbound := by
    intro number _ _ procedure
    by_contra bound
    rw [Bool.not_eq_false, Group.has, Dictionary.contains, Option.isSome_iff_exists] at bound
    obtain ⟨member, found⟩ := bound
    have free := List.all_eq_true.mp plain _ (Dictionary.mem_of_find found)
    rw [isReserved_callName] at free
    cases free
  distinct := by
    intro number later _ before _ procedure other same
    rw [callName, callName, counted] at same
    exact Nat.ne_of_lt before (eq_of_counted_callName same)

/-- The workspace in which a call has been entered. -/
def Workspace.inCall (workspace : Workspace) (group : Group) (name : String) : Workspace :=
  { (workspace.newGroup group).2.setMember workspace.root name (.group workspace.size) with
    calls := workspace.calls + 1, nextScope := workspace.nextScope + 1 }

/-- The scope in which the body of a call runs. -/
def Workspace.callScope (workspace : Workspace) : Scope :=
  ⟨workspace.nextScope, workspace.size, workspace.size⟩

/-- Entering a call makes a group, hangs it in the root under the name that is made up, and gives out a scope. -/
theorem enterCall_eq (environment : Environment) (procedure : Procedure) (group : Group) (workspace : Workspace) :
    Interpreter.enterCall environment procedure group workspace =
      .ok (environment.callName procedure.name workspace.calls, workspace.callScope)
        (workspace.inCall group (environment.callName procedure.name workspace.calls)) :=
  rfl

end GroupScript
