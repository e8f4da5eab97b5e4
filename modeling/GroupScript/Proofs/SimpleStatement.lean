import GroupScript.Proofs.Outcome
import GroupScript.Statement.Compile

/-!
# Simple statements

Compiling a simple statement reads no further line, and of the workspace it only sees the values of names.  The
statement is therefore the same at any other place, and in any workspace that differs in nothing but the search path
kept.
-/

namespace GroupScript

namespace Workspace

/-- Two workspaces in which names have the same values in a scope. -/
def Alike (scope : Scope) (first second : Workspace) : Prop :=
  first.refresh scope = second.refresh scope

variable {scope : Scope} {first second third : Workspace}

theorem Alike.refl (workspace : Workspace) : Alike scope workspace workspace :=
  rfl

theorem Alike.symm (alike : Alike scope first second) : Alike scope second first :=
  Eq.symm alike

theorem Alike.trans (before : Alike scope first second) (after : Alike scope second third) :
    Alike scope first third :=
  Eq.trans before after

theorem refresh_refresh (workspace : Workspace) (scope : Scope) :
    (workspace.refresh scope).refresh scope = workspace.refresh scope := by
  by_cases fresh : workspace.cache.version = workspace.version ∧ workspace.cache.scope = scope.id
  · simp only [refresh, if_pos fresh]
  · simp only [refresh, if_neg fresh]
    simp

theorem alike_refresh (workspace : Workspace) : Alike scope workspace (workspace.refresh scope) :=
  (refresh_refresh workspace scope).symm

@[simp]
theorem refresh_root (workspace : Workspace) (scope : Scope) :
    (workspace.refresh scope).root = workspace.root := by
  unfold refresh
  split <;> rfl

@[simp]
theorem refresh_store (workspace : Workspace) (scope : Scope) :
    (workspace.refresh scope).store = workspace.store := by
  unfold refresh
  split <;> rfl

theorem Alike.root_eq (alike : Alike scope first second) : first.root = second.root := by
  rw [← refresh_root first scope, alike, refresh_root]

theorem Alike.store_eq (alike : Alike scope first second) : first.store = second.store := by
  rw [← refresh_store first scope, alike, refresh_store]

/-- In workspaces that are alike, the first segment of a name leads to the same value. -/
theorem Alike.lookupFirst (alike : Alike scope first second) (name : String) :
    ∃ found afterFirst afterSecond,
      lookupFirst scope name first = .ok found afterFirst ∧
      lookupFirst scope name second = .ok found afterSecond ∧
      Alike scope first afterFirst ∧ Alike scope second afterSecond := by
  by_cases isRoot : name = rootName
  · have looked (workspace : Workspace) :
        Workspace.lookupFirst scope name workspace = .ok (some (.group workspace.root)) workspace := by
      rw [Workspace.lookupFirst, if_pos isRoot]
      rfl
    refine ⟨_, first, second, looked first, ?_, .refl first, .refl second⟩
    rw [looked second, alike.root_eq]
  · have looked (workspace : Workspace) :
        Workspace.lookupFirst scope name workspace =
          .ok ((workspace.refresh scope).cache.groups.findSome? fun id =>
            ((workspace.refresh scope).group id).get? name) (workspace.refresh scope) := by
      rw [Workspace.lookupFirst, if_neg isRoot]
      rfl
    refine ⟨_, _, second.refresh scope, looked first, ?_, alike_refresh first, alike_refresh second⟩
    rw [looked second, alike]

/-- A name is resolved from where its first segment leads. -/
theorem resolve_of_lookupFirst {name : String} {workspace after : Workspace} {found : Option Value}
    (looked : lookupFirst scope ((segmentsOf name).headD "") workspace = .ok found after) :
    resolve scope name workspace =
      match found.bind fun value => after.store.member? value (segmentsOf name).tail with
      | some value => .ok value after
      | none => .error (Error.unbound name) after := by
  change EStateM.bind (lookupFirst scope ((segmentsOf name).headD "")) _ workspace = _
  rw [EStateM.bind, looked]
  change EStateM.bind get _ after = _
  rw [EStateM.bind]
  change (match found.bind fun value => after.store.member? value (segmentsOf name).tail with
    | some value => pure value
    | none => throw (Error.unbound name) : Access Value) after = _
  cases found.bind fun value => after.store.member? value (segmentsOf name).tail with
  | some value => rfl
  | none => rfl

end Workspace

namespace Compile

open Workspace (Alike)

variable {scope : Scope}

theorem valueOf?_of_lookupFirst {name : String} {input : Input} {workspace after : Workspace}
    {found : Option Value}
    (looked : Workspace.lookupFirst scope ((segmentsOf name).headD "") workspace = .ok found after) :
    valueOf? scope name ⟨input, workspace⟩ =
      .ok (found.bind fun value => after.store.member? value (segmentsOf name).tail) ⟨input, after⟩ := by
  have resolved := Workspace.resolve_of_lookupFirst looked
  simp only [valueOf?, modifyGet, MonadStateOf.modifyGet, EStateM.modifyGet, resolved]
  cases found.bind fun value => after.store.member? value (segmentsOf name).tail with
  | some value => rfl
  | none => rfl

/-- In workspaces that are alike, a name has the same value. -/
theorem valueOf?_alike {first second : Workspace} (alike : Alike scope first second)
    (name : String) (input other : Input) :
    ∃ value afterFirst afterSecond,
      valueOf? scope name ⟨input, first⟩ = .ok value ⟨input, afterFirst⟩ ∧
      valueOf? scope name ⟨other, second⟩ = .ok value ⟨other, afterSecond⟩ ∧
      Alike scope first afterFirst ∧ Alike scope second afterSecond := by
  obtain ⟨found, afterFirst, afterSecond, lookedFirst, lookedSecond, keptFirst, keptSecond⟩ :=
    alike.lookupFirst ((segmentsOf name).headD "")
  have sameStore : afterFirst.store = afterSecond.store :=
    (keptFirst.symm.trans (alike.trans keptSecond)).store_eq
  refine ⟨_, afterFirst, afterSecond, valueOf?_of_lookupFirst lookedFirst, ?_, keptFirst, keptSecond⟩
  rw [sameStore]
  exact valueOf?_of_lookupFirst lookedSecond

/-- Whenever the first step succeeds, the second one does too, from any input, which it leaves as it is, and from any
workspace that is alike. -/
def Echoes {α : Type} (scope : Scope) (first second : Compile α) : Prop :=
  ∀ ⦃input other firstSpace secondSpace value desk⦄, Alike scope firstSpace secondSpace →
    first ⟨input, firstSpace⟩ = .ok value desk →
      ∃ after, second ⟨other, secondSpace⟩ = .ok value ⟨other, after⟩ ∧
        Alike scope desk.workspace after ∧ Alike scope secondSpace after

namespace Echoes

variable {α β : Type}

theorem pure (value : α) : Echoes scope (Pure.pure value) (Pure.pure value) := by
  intro input other firstSpace secondSpace result desk alike finished
  cases finished
  exact ⟨secondSpace, rfl, alike, .refl secondSpace⟩

theorem ofResult {first second : PartResult α}
    (keeps : ∀ value, first = .ok value → second = .ok value) :
    Echoes scope (GroupScript.ofResult first) (GroupScript.ofResult second) := by
  intro input other firstSpace secondSpace value desk alike finished
  cases first with
  | error error => cases finished
  | ok result =>
      cases finished
      rw [keeps value rfl]
      exact ⟨secondSpace, rfl, alike, .refl secondSpace⟩

theorem malformed (line : LogicalLine) (fault : StatementFault) (second : Compile α) :
    Echoes scope (GroupScript.ofResult (GroupScript.malformed line fault)) second := by
  intro input other firstSpace secondSpace value desk alike finished
  cases finished

theorem bind {first second : Compile α} {firstNext secondNext : α → Compile β}
    (echoes : Echoes scope first second)
    (continues : ∀ value, Echoes scope (firstNext value) (secondNext value)) :
    Echoes scope (first >>= firstNext) (second >>= secondNext) := by
  intro input other firstSpace secondSpace result desk alike finished
  obtain ⟨value, ⟨between, betweenSpace⟩, firstRun, nextRun⟩ := bind_eq_ok finished
  obtain ⟨middle, secondRun, alikeBetween, kept⟩ := @echoes _ other _ _ _ _ alike firstRun
  obtain ⟨after, lastRun, alikeAfter, keptAfter⟩ := @continues value _ other _ _ _ _ alikeBetween nextRun
  refine ⟨after, ?_, alikeAfter, kept.trans keptAfter⟩
  rw [bind_apply, secondRun]
  exact lastRun

theorem ite {firstTest secondTest : Prop} [Decidable firstTest] [Decidable secondTest]
    {firstYes firstNo secondYes secondNo : Compile α} (same : firstTest ↔ secondTest)
    (yes : Echoes scope firstYes secondYes) (no : Echoes scope firstNo secondNo) :
    Echoes scope (if firstTest then firstYes else firstNo)
      (if secondTest then secondYes else secondNo) := by
  by_cases holds : firstTest
  · rw [if_pos holds, if_pos (same.mp holds)]
    exact yes
  · rw [if_neg holds, if_neg (holds ∘ same.mpr)]
    exact no

theorem valueOf? (name : String) :
    Echoes scope (Compile.valueOf? scope name) (Compile.valueOf? scope name) := by
  intro input other firstSpace secondSpace value desk alike finished
  obtain ⟨found, afterFirst, afterSecond, firstRun, secondRun, keptFirst, keptSecond⟩ :=
    valueOf?_alike alike name input other
  rw [firstRun] at finished
  cases finished
  exact ⟨afterSecond, secondRun, keptFirst.symm.trans (alike.trans keptSecond), keptSecond⟩

theorem commandCall? (text : List Char) :
    Echoes scope (Compile.commandCall? scope text) (Compile.commandCall? scope text) := by
  unfold Compile.commandCall?
  refine ite Iff.rfl (pure none) (bind (valueOf? _) fun value => ?_)
  cases value with
  | none => exact pure none
  | some value => exact ite Iff.rfl (pure none) (pure _)

end Echoes

end Compile

/-- A logical line at another place. -/
def LogicalLine.placed (line : LogicalLine) (number : Nat) (file : String) : LogicalLine :=
  { line with number, file }

namespace LogicalLine

variable (line : LogicalLine) (number : Nat) (file : String)

@[simp]
theorem text_placed : (line.placed number file).text = line.text :=
  rfl

@[simp]
theorem key_placed : (line.placed number file).key = line.key :=
  rfl

@[simp]
theorem rest_placed : (line.placed number file).rest = line.rest :=
  rfl

theorem namesToDelete_placed {rest : List Char} {names : List String}
    (read : line.namesToDelete rest = .ok names) :
    (line.placed number file).namesToDelete rest = .ok names := by
  unfold namesToDelete at read ⊢
  simp only at read ⊢
  split at read
  · cases read
  · rename_i visible
    rw [if_neg visible]
    obtain ⟨expr, parsed, taken⟩ := except_bind_eq_ok.mp read
    refine except_bind_eq_ok.mpr ⟨expr, parsed, ?_⟩
    split at taken
    · split at taken
      · exact taken
      · cases taken
    · cases taken

theorem target_placed {text : List Char} {target : Target} (read : line.target text = .ok target) :
    (line.placed number file).target text = .ok target := by
  unfold LogicalLine.target at read ⊢
  split at read
  · cases read
  · split at read
    · cases read
    · exact read

theorem importStatement_placed {rest : List Char} {statement : Statement}
    (read : line.importStatement rest = .ok statement) :
    (line.placed number file).importStatement rest = .ok statement := by
  unfold importStatement at read ⊢
  simp only at read ⊢
  split at read
  · rename_i items found
    rw [key_placed, found]
    exact read
  · cases read

end LogicalLine

namespace Compile

variable {scope : Scope} (text : LogicalLine) (number : Nat) (file : String)

theorem echoes_bare (rest : List Char) (statement : Statement) :
    Echoes scope (bare text rest statement) (bare (text.placed number file) rest statement) := by
  unfold bare
  exact .ite Iff.rfl (.pure statement) (.malformed text _ _)

theorem echoes_simple : Echoes scope (simple scope text) (simple scope (text.placed number file)) := by
  unfold simple
  refine .bind (.commandCall? text.text) fun call => ?_
  cases call with
  | some call =>
      simp only
      split
      · exact .pure _
      · exact .malformed text _ _
  | none =>
      simp only [LogicalLine.text_placed]
      cases Source.findAssign text.text with
      | none => exact .bind (.ofResult fun _ => id) fun _ => .pure _
      | some position =>
          refine .ite Iff.rfl (.malformed text _ _) ?_
          refine .bind (.ofResult fun _ => text.target_placed number file) fun _ => ?_
          exact .bind (.ofResult fun _ => id) fun _ => .pure _

/-- A line that begins no block compiles to the same at any place and for any bound. -/
theorem echoes_lineWith (bound other : Nat) (inner otherInner : Inner)
    (flat : openingWords.contains text.key = false) :
    Echoes scope (lineWith bound inner scope text)
      (lineWith other otherInner scope (text.placed number file)) := by
  -- The words that begin a block are excluded, so nothing is to be shown of their compilation.
  have block {word : String} {α : Type} {first second : Compile α} (opens : text.key = word)
      (opening : openingWords.contains word = true) : Echoes scope first second := by
    rw [opens, opening] at flat
    cases flat
  unfold lineWith
  simp only [LogicalLine.key_placed, LogicalLine.rest_placed]
  split
  case h_1 opens => exact block opens (by decide)
  case h_2 opens => exact block opens (by decide)
  case h_3 opens => exact block opens (by decide)
  case h_4 opens => exact block opens (by decide)
  case h_5 opens => exact block opens (by decide)
  case h_6 => exact .bind (.ofResult fun _ => text.namesToDelete_placed number file) fun _ => .pure _
  case h_7 => exact .bind (.ofResult fun _ => id) fun _ => .pure _
  case h_8 => exact .bind (.ofResult fun _ => id) fun _ => .pure _
  case h_9 => exact echoes_bare text number file _ _
  case h_10 => exact echoes_bare text number file _ _
  case h_11 =>
    refine .ite Iff.rfl (.ofResult fun _ => text.importStatement_placed number file) ?_
    exact .ite Iff.rfl (.malformed text _ _) (echoes_simple text number file)

end Compile

end GroupScript
