import GroupScript.Proofs.Coherence
import GroupScript.Proofs.Execution
import GroupScript.Proofs.ProcedureCalls

/-!
# Realms

A realm is a set of groups, procedures and defined variables, under rules that say which native functions may be called
and which statements may stand in procedures.  It governs a workspace if nothing leads out of it: the members of its
groups, the constants and defaults of its procedures and the constants of its defined variables belong to it.  Whatever
does not exist yet belongs to the realm.
-/

namespace GroupScript

open Guarantee (FitAll)

/-! ### Statements that stay local -/

/-- Whether a statement itself binds names without dots only, deletes nothing and imports nothing. -/
def Statement.isLocal : Statement → Bool
  | .assign target _ => LogicalLine.isSimpleName target.name
  | .define name _ => LogicalLine.isSimpleName name
  | .procedure signature _ _ => LogicalLine.isSimpleName signature.name
  | .delete _ => false
  | .importModules _ => false
  | _ => true

/-- Nothing in a body, at any depth, reaches out of the group in which the body runs. -/
def LocalOnly (body : List Statement) : Prop :=
  ∀ statement ∈ body, ∀ inner : Statement, inner.Within statement → inner.isLocal = true

/-- A value that stands as a constant in the code of a statement, at any depth. -/
def Statement.Mentions (statement : Statement) (value : Value) : Prop :=
  ∃ inner : Statement, inner.Within statement ∧ ∃ code ∈ inner.codes, Instr.push value ∈ code.instrs

/-- A value that a procedure brings along: a default or a constant of its body. -/
def Procedure.Brings (procedure : Procedure) (value : Value) : Prop :=
  value ∈ procedure.defaults.map Prod.snd ∨ ∃ statement ∈ procedure.body, statement.Mentions value

/-! ### What belongs to a realm -/

/-- The native functions that may be called, and what a statement itself may be. -/
structure Rules where
  natives : Native → Prop
  statements : Statement → Prop

/-- Only harmless native functions are called, and statements stay local. -/
def Rules.isolated : Rules where
  natives := fun function => function.isHarmless = true
  statements := fun statement => statement.isLocal = true

/-- A set of groups, procedures and defined variables under rules. -/
structure Realm (rules : Rules) where
  groups : Set GroupId
  procedures : Set ProcedureId
  definitions : Set DefinitionId

namespace Realm

variable {rules : Rules}

/-- A value belongs to a realm if all that it refers to does, and native functions follow the rules. -/
inductive Fits (realm : Realm rules) : Value → Prop
  | plain {value : Value} : value.isPlain = true → Fits realm value
  | list {items : List Value} : (∀ item ∈ items, Fits realm item) → Fits realm (.list items)
  | group {id : GroupId} : id ∈ realm.groups → Fits realm (.group id)
  | procedure {id : ProcedureId} : id ∈ realm.procedures → Fits realm (.procedure id)
  | native {function : Native} : rules.natives function → Fits realm (.native function)
  | defined {id : DefinitionId} : id ∈ realm.definitions → Fits realm (.defined id)

/-- A statement that follows the rules and whose constants belong to a realm. -/
def Admits (realm : Realm rules) (statement : Statement) : Prop :=
  ∀ inner : Statement, inner.Within statement →
    rules.statements inner ∧ ∀ code ∈ inner.codes, code.Fits realm.Fits

/-- A procedure whose defaults and statements belong to a realm. -/
structure AdmitsProcedure (realm : Realm rules) (procedure : Procedure) : Prop where
  defaults : FitAll realm.Fits (procedure.defaults.map Prod.snd)
  body : ∀ statement ∈ procedure.body, realm.Admits statement

/-- Nothing in a workspace leads out of a realm. -/
structure Governs (realm : Realm rules) (workspace : Workspace) : Prop where
  rooted : workspace.root < workspace.size
  root : workspace.root ∈ realm.groups
  modules : ∀ entry ∈ workspace.modules.entries, entry.2.group ∈ realm.groups
  cached : ∀ id ∈ workspace.cache.groups, id ∈ realm.groups
  members : ∀ id ∈ realm.groups, ∀ name value, (workspace.group id).get? name = some value → realm.Fits value
  procedures : ∀ id ∈ realm.procedures, realm.AdmitsProcedure (workspace.store.procedure id)
  definitions : ∀ id ∈ realm.definitions, (workspace.store.definition id).Fits realm.Fits
  newGroups : ∀ id, workspace.size ≤ id → id ∈ realm.groups
  newProcedures : ∀ id, workspace.store.procedures.size ≤ id → id ∈ realm.procedures
  newDefinitions : ∀ id, workspace.store.definitions.size ≤ id → id ∈ realm.definitions

variable {realm : Realm rules} {workspace after : Workspace} {scope : Scope}

theorem hereditary (realm : Realm rules) : Value.Hereditary realm.Fits where
  plain := .plain
  list := by
    intro items
    constructor
    · intro fits
      cases fits with
      | plain isPlain => cases isPlain
      | list all => exact all
    · exact .list

theorem admits_part {statement part : Statement} (admits : realm.Admits statement) (inside : part ∈ statement.parts) :
    realm.Admits part :=
  fun inner within => admits inner (.part inside within)

theorem admits_body {signature : Signature} {doc : Option String} {body : List Statement}
    (admits : realm.Admits (.procedure signature doc body)) : ∀ statement ∈ body, realm.Admits statement :=
  fun _ member inner within => admits inner (.body member within)

/-! ### What a governed workspace goes through -/

namespace Governs

theorem fits_group {id : GroupId} (fits : realm.Fits (.group id)) : id ∈ realm.groups := by
  cases fits with
  | plain isPlain => cases isPlain
  | group member => exact member

/-- What is beside the groups, the procedures and the defined variables does not matter. -/
theorem aside (governs : realm.Governs workspace) (output : String) (log : Array LogEntry)
    (nextScope calls depth : Nat) : realm.Governs { workspace with output, log, nextScope, calls, depth } :=
  ⟨governs.rooted, governs.root, governs.modules, governs.cached, governs.members, governs.procedures,
    governs.definitions, governs.newGroups, governs.newProcedures, governs.newDefinitions⟩

/-- One group changes, and its members belong to the realm afterwards. -/
theorem modifyGroup (governs : realm.Governs workspace) (id : GroupId) (change : Group → Group)
    (fits : ∀ name value, (change (workspace.group id)).get? name = some value → realm.Fits value) :
    realm.Governs (workspace.modifyGroup id change) where
  rooted := by
    rw [Workspace.size_modifyGroup]
    exact governs.rooted
  root := governs.root
  modules := governs.modules
  cached := governs.cached
  members := by
    intro other member name value found
    by_cases same : id = other
    · subst same
      by_cases present : id < workspace.size
      · rw [Workspace.group_modifyGroup workspace id id change present, if_pos rfl] at found
        exact fits name value found
      · rw [Workspace.modifyGroup_of_size_le change (Nat.le_of_not_lt present)] at found
        exact governs.members id member name value found
    · rw [Workspace.group_modifyGroup_of_ne change same] at found
      exact governs.members other member name value found
  procedures := governs.procedures
  definitions := governs.definitions
  newGroups := by
    intro other absent
    rw [Workspace.size_modifyGroup] at absent
    exact governs.newGroups other absent
  newProcedures := governs.newProcedures
  newDefinitions := governs.newDefinitions

theorem setMember (governs : realm.Governs workspace) {id : GroupId} {value : Value} (name : String)
    (inside : id ∈ realm.groups) (fits : realm.Fits value) :
    realm.Governs (workspace.setMember id name value) := by
  refine governs.modifyGroup id _ fun other found bound => ?_
  rw [Group.get?_set] at bound
  split at bound
  · cases bound
    exact fits
  · exact governs.members id inside other found bound

theorem remove (governs : realm.Governs workspace) {id : GroupId} (name : String) (inside : id ∈ realm.groups) :
    realm.Governs (workspace.modifyGroup id (·.remove name)) := by
  refine governs.modifyGroup id _ fun other found bound => ?_
  rw [Group.get?_remove] at bound
  split at bound
  · cases bound
  · exact governs.members id inside other found bound

theorem newGroup (governs : realm.Governs workspace) {group : Group}
    (fits : ∀ name value, group.get? name = some value → realm.Fits value) :
    realm.Governs (workspace.newGroup group).2 where
  rooted := Nat.lt_of_lt_of_le governs.rooted (workspace.size_le_newGroup group)
  root := governs.root
  modules := governs.modules
  cached := governs.cached
  members := by
    intro id member name value found
    rw [Workspace.group_newGroup] at found
    split at found
    · exact fits name value found
    · exact governs.members id member name value found
  procedures := governs.procedures
  definitions := governs.definitions
  newGroups := fun id absent => governs.newGroups id (Nat.le_trans (workspace.size_le_newGroup group) absent)
  newProcedures := governs.newProcedures
  newDefinitions := governs.newDefinitions

theorem newProcedure (governs : realm.Governs workspace) {procedure : Procedure}
    (admits : realm.AdmitsProcedure procedure) :
    realm.Governs { workspace with store := (workspace.store.newProcedure procedure).2 } where
  rooted := governs.rooted
  root := governs.root
  modules := governs.modules
  cached := governs.cached
  members := governs.members
  procedures := by
    intro id member
    have old := governs.procedures id member
    simp only [Store.procedure, Store.newProcedure, Array.getD_eq_getD_getElem?, Array.getElem?_push] at old ⊢
    split
    · exact admits
    · exact old
  definitions := governs.definitions
  newGroups := governs.newGroups
  newProcedures := by
    intro id absent
    simp only [Store.newProcedure, Array.size_push] at absent
    exact governs.newProcedures id (Nat.le_of_succ_le absent)
  newDefinitions := governs.newDefinitions

theorem newDefinition (governs : realm.Governs workspace) {code : Code} (fits : code.Fits realm.Fits) :
    realm.Governs { workspace with store := (workspace.store.newDefinition code).2 } where
  rooted := governs.rooted
  root := governs.root
  modules := governs.modules
  cached := governs.cached
  members := governs.members
  procedures := governs.procedures
  definitions := by
    intro id member
    have old := governs.definitions id member
    simp only [Store.definition, Store.newDefinition, Array.getD_eq_getD_getElem?, Array.getElem?_push] at old ⊢
    split
    · exact fits
    · exact old
  newGroups := governs.newGroups
  newProcedures := governs.newProcedures
  newDefinitions := by
    intro id absent
    simp only [Store.newDefinition, Array.size_push] at absent
    exact governs.newDefinitions id (Nat.le_of_succ_le absent)

theorem inBody (governs : realm.Governs workspace) {group : Group} (name : String)
    (fits : ∀ name value, group.get? name = some value → realm.Fits value) :
    realm.Governs (workspace.inBody group name) := by
  have filled := governs.newGroup fits
  have made : workspace.size ∈ realm.groups := governs.newGroups _ (Nat.le_refl _)
  exact (filled.setMember name filled.root (.group made)).aside _ _ (workspace.nextScope + 1) (workspace.calls + 1)
    (workspace.depth + 1)

theorem afterCall (governs : realm.Governs workspace) (name output : String) (log : Array LogEntry) :
    realm.Governs (workspace.afterCall name output log) :=
  (governs.aside output log _ _ (workspace.depth - 1)).remove name governs.root

theorem moduleGroup? (governs : realm.Governs workspace) {name : String} {id : GroupId}
    (found : workspace.moduleGroup? name = some id) : id ∈ realm.groups := by
  obtain ⟨loaded, kept, rfl⟩ := Option.map_eq_some_iff.mp found
  exact governs.modules (name, loaded) (Dictionary.mem_of_find kept)

theorem searchGroup? (governs : realm.Governs workspace) {name : String} {id : GroupId}
    (found : workspace.searchGroup? name = some id) : id ∈ realm.groups := by
  unfold Workspace.searchGroup? at found
  split at found
  · rename_i registered
    cases found
    exact governs.moduleGroup? registered
  · obtain ⟨entry, listed, bound⟩ := List.exists_of_findSome?_eq_some found
    obtain ⟨value, member, isGroup⟩ := Option.bind_eq_some_iff.mp bound
    have inside := governs.modules entry (List.mem_mergeSort.mp listed)
    have fits := governs.members _ inside name value member
    cases value with
    | group other =>
        cases isGroup
        exact fits_group fits
    | _ => cases isGroup

theorem searchPath (governs : realm.Governs workspace) (localGroup : scope.localGroup ∈ realm.groups)
    (moduleGroup : scope.moduleGroup ∈ realm.groups) : ∀ id ∈ workspace.searchPath scope, id ∈ realm.groups := by
  intro id member
  simp only [Workspace.searchPath, Workspace.mem_distinct, List.mem_append, List.mem_cons, List.not_mem_nil,
    or_false, List.mem_filterMap] at member
  rcases member with ((rfl | rfl) | ⟨name, -, found⟩) | rfl
  · exact localGroup
  · exact moduleGroup
  · exact governs.searchGroup? found
  · exact governs.root

theorem consulted (governs : realm.Governs workspace) (localGroup : scope.localGroup ∈ realm.groups)
    (moduleGroup : scope.moduleGroup ∈ realm.groups) (consulted : workspace.Consulted scope after) :
    realm.Governs after := by
  obtain ⟨cache, output, log, rfl, source⟩ := consulted
  have cached : ∀ id ∈ cache.groups, id ∈ realm.groups := by
    rcases source with rfl | rfl
    · exact governs.cached
    · exact governs.searchPath localGroup moduleGroup
  exact ⟨governs.rooted, governs.root, governs.modules, cached, governs.members, governs.procedures,
    governs.definitions, governs.newGroups, governs.newProcedures, governs.newDefinitions⟩

end Governs

/-- A scope whose groups belong to a realm. -/
structure Covers (realm : Realm rules) (scope : Scope) : Prop where
  localGroup : scope.localGroup ∈ realm.groups
  moduleGroup : scope.moduleGroup ∈ realm.groups

/-- A guarantee that nothing leads out of a realm carries what belongs to the realm. -/
theorem carries {guarantee : Guarantee Workspace}
    (governs : ∀ {state}, guarantee.holds state → realm.Governs state) : guarantee.Carries realm.Fits where
  plain := realm.hereditary.plain
  list := realm.hereditary.list
  root := fun holds => .group (governs holds).root
  member := fun holds fits found => (governs holds).members _ (Governs.fits_group fits) _ _ found
  code := by
    intro state id holds fits
    cases fits with
    | plain isPlain => cases isPlain
    | defined inside => exact (governs holds).definitions id inside

theorem Covers.searched (covers : realm.Covers scope) (governs : realm.Governs workspace) :
    ∀ id ∈ (workspace.refresh scope).cache.groups, realm.Fits (.group id) := by
  intro id member
  have consulted := Workspace.consulted_refresh scope workspace
  exact .group ((governs.consulted covers.localGroup covers.moduleGroup consulted).cached id member)

end Realm

/-! ### The realm of a call -/

/-- The values that can be come by in a workspace, starting from the root, the modules, the search path kept and some
given values. -/
inductive Held (workspace : Workspace) (given : Value → Prop) : Value → Prop
  | given {value : Value} : given value → Held workspace given value
  | root : Held workspace given (.group workspace.root)
  | module {name : String} {loaded : LoadedModule} :
      (name, loaded) ∈ workspace.modules.entries → Held workspace given (.group loaded.group)
  | searched {id : GroupId} : id ∈ workspace.cache.groups → Held workspace given (.group id)
  | member {id : GroupId} {name : String} {value : Value} :
      Held workspace given (.group id) → (workspace.group id).get? name = some value → Held workspace given value
  | item {items : List Value} {value : Value} :
      Held workspace given (.list items) → value ∈ items → Held workspace given value
  | brought {id : ProcedureId} {value : Value} :
      Held workspace given (.procedure id) → (workspace.store.procedure id).Brings value →
      Held workspace given value
  | defined {id : DefinitionId} {value : Value} :
      Held workspace given (.defined id) → Instr.push value ∈ (workspace.store.definition id).instrs →
      Held workspace given value

/-- A value that is no procedure and no native function that breaks rules. -/
def Rules.Tames (rules : Rules) (workspace : Workspace) : Value → Prop
  | .procedure id => ∀ statement ∈ (workspace.store.procedure id).body, ∀ inner : Statement,
      inner.Within statement → rules.statements inner
  | .native function => rules.natives function
  | _ => True

/-- The realm of the values that can be come by, under rules. -/
def Rules.realm (rules : Rules) (workspace : Workspace) (given : Value → Prop) : Realm rules where
  groups := { id | Held workspace given (.group id) ∨ workspace.size ≤ id }
  procedures := { id | Held workspace given (.procedure id) ∨ workspace.store.procedures.size ≤ id }
  definitions := { id | Held workspace given (.defined id) ∨ workspace.store.definitions.size ≤ id }

section OfRules

variable {rules : Rules} {workspace : Workspace} {given : Value → Prop}
  (tame : ∀ value, Held workspace given value → rules.Tames workspace value)

include tame

theorem fits_of_held (value : Value) (held : Held workspace given value) :
    (rules.realm workspace given).Fits value := by
  match value, held with
  | .list items, held =>
      exact .list fun item member => fits_of_held item (.item held member)
  | .group id, held => exact .group (.inl held)
  | .procedure id, held => exact .procedure (.inl held)
  | .defined id, held => exact .defined (.inl held)
  | .native function, held => exact .native (tame _ held)
  | .nil, _ | .bool _, _ | .int _, _ | .float _, _ | .string _, _ => exact .plain rfl
termination_by sizeOf value
decreasing_by
  have := List.sizeOf_lt_of_mem member
  simp +arith
  omega

theorem admitsProcedure_of_brings {procedure : Procedure}
    (follows : ∀ statement ∈ procedure.body, ∀ inner : Statement, inner.Within statement → rules.statements inner)
    (brings : ∀ value, procedure.Brings value → Held workspace given value) :
    (rules.realm workspace given).AdmitsProcedure procedure where
  defaults := fun value member => fits_of_held tame value (brings value (.inl member))
  body := by
    intro statement member inner within
    refine ⟨follows statement member inner within, fun code held value pushed => ?_⟩
    exact fits_of_held tame value (brings value (.inr ⟨statement, member, inner, within, code, held, pushed⟩))

/-- If all values that can be come by follow the rules, then their realm governs the workspace. -/
theorem governs_realm (rooted : workspace.root < workspace.size) :
    (rules.realm workspace given).Governs workspace where
  rooted := rooted
  root := .inl .root
  modules := fun _ member => .inl (.module member)
  cached := fun _ member => .inl (.searched member)
  members := by
    rintro id (held | absent) name value found
    · exact fits_of_held tame value (.member held found)
    · rw [Workspace.group_of_size_le absent] at found
      cases found
  procedures := by
    rintro id (held | absent)
    · exact admitsProcedure_of_brings tame (tame _ held) fun value => .brought held
    · have empty : workspace.store.procedure id = default := by
        simp only [Store.procedure, Array.getD_eq_getD_getElem?, Array.getElem?_eq_none absent, Option.getD_none]
      rw [empty]
      constructor
      · intro value member
        cases member
      · intro statement member
        cases member
  definitions := by
    rintro id (held | absent) value pushed
    · exact fits_of_held tame value (.defined held pushed)
    · have empty : workspace.store.definition id = default := by
        simp only [Store.definition, Array.getD_eq_getD_getElem?, Array.getElem?_eq_none absent, Option.getD_none]
      rw [empty] at pushed
      cases pushed
  newGroups := fun _ absent => .inr absent
  newProcedures := fun _ absent => .inr absent
  newDefinitions := fun _ absent => .inr absent

end OfRules

end GroupScript
