import GroupScript.Statement
import GroupScript.Store.Group

/-!
# The store

The store keeps everything that has an identity: groups, procedures and defined variables.  Each is kept
under a number, and new ones take the next free number, so that nothing is ever moved or forgotten.
-/

namespace GroupScript

/-- A procedure: its defaults are values, evaluated when it was defined. -/
structure Procedure where
  name : String
  params : List String
  defaults : List (String × Value)
  doc : Option String
  body : List Statement
  deriving Inhabited

/-- The things with an identity. -/
structure Store where
  groups : Array Group := #[]
  procedures : Array Procedure := #[]
  definitions : Array Code := #[]
  deriving Inhabited

namespace Store

/-- The group kept under a number. -/
def group (store : Store) (id : GroupId) : Group :=
  store.groups.getD id {}

/-- The procedure kept under a number. -/
def procedure (store : Store) (id : ProcedureId) : Procedure :=
  store.procedures.getD id default

/-- The code of the defined variable kept under a number. -/
def definition (store : Store) (id : DefinitionId) : Code :=
  store.definitions.getD id default

/-- Changes one group. -/
def modifyGroup (store : Store) (id : GroupId) (change : Group → Group) : Store :=
  { store with groups := store.groups.modify id change }

/-- Keeps a new group and gives its number. -/
def newGroup (store : Store) (group : Group) : GroupId × Store :=
  (store.groups.size, { store with groups := store.groups.push group })

/-- Keeps a new procedure and gives its number. -/
def newProcedure (store : Store) (procedure : Procedure) : ProcedureId × Store :=
  (store.procedures.size, { store with procedures := store.procedures.push procedure })

/-- Keeps the code of a new defined variable and gives its number. -/
def newDefinition (store : Store) (code : Code) : DefinitionId × Store :=
  (store.definitions.size, { store with definitions := store.definitions.push code })

/-- What an array has at its indices another one has there too. -/
def Continues {α : Type} (earlier later : Array α) : Prop :=
  ∀ index < earlier.size, later[index]? = earlier[index]?

theorem Continues.size_le {α : Type} {earlier later : Array α} (continues : Continues earlier later) :
    earlier.size ≤ later.size := by
  apply Nat.le_of_not_lt
  intro shorter
  have missing := continues later.size shorter
  simp [shorter] at missing

theorem Continues.trans {α : Type} {first second third : Array α} (earlier : Continues first second)
    (later : Continues second third) : Continues first third := by
  intro index present
  rw [later index (Nat.lt_of_lt_of_le present earlier.size_le), earlier index present]

theorem continues_push {α : Type} (items : Array α) (item : α) : Continues items (items.push item) := by
  intro index present
  rw [Array.getElem?_push, if_neg (Nat.ne_of_lt present)]

/-- A store that has only grown: what was kept under a number is still kept under it, as it was. -/
structure Extends (earlier later : Store) : Prop where
  groups : Continues earlier.groups later.groups
  procedures : Continues earlier.procedures later.procedures
  definitions : Continues earlier.definitions later.definitions

theorem Extends.refl (store : Store) : store.Extends store :=
  ⟨fun _ _ => rfl, fun _ _ => rfl, fun _ _ => rfl⟩

theorem Extends.trans {first second third : Store} (earlier : first.Extends second) (later : second.Extends third) :
    first.Extends third :=
  ⟨earlier.groups.trans later.groups, earlier.procedures.trans later.procedures,
    earlier.definitions.trans later.definitions⟩

theorem extends_newGroup (store : Store) (group : Group) : store.Extends (store.newGroup group).2 :=
  ⟨continues_push _ _, fun _ _ => rfl, fun _ _ => rfl⟩

theorem extends_newProcedure (store : Store) (procedure : Procedure) :
    store.Extends (store.newProcedure procedure).2 :=
  ⟨fun _ _ => rfl, continues_push _ _, fun _ _ => rfl⟩

theorem extends_newDefinition (store : Store) (code : Code) : store.Extends (store.newDefinition code).2 :=
  ⟨fun _ _ => rfl, fun _ _ => rfl, continues_push _ _⟩

end Store

end GroupScript
