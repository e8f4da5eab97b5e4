import GroupScript.Workspace.Search

/-!
# Resolving and binding names

A dotted name is a path: its first segment is searched along the search path, and each further segment is a
member of the group found so far.  Binding a dotted name creates the groups on its path that do not exist.
-/

namespace GroupScript

/-- The segments of a dotted name; there is always at least one. -/
def segmentsOf (name : String) : List String :=
  Text.partsAt '.' name

/-- A place where a value is bound: a member of a group. -/
structure Slot where
  group : GroupId
  name : String
  deriving DecidableEq, Repr, Inhabited

/-- The value reached from another by a path of member names. -/
def Store.member? (store : Store) : Value → List String → Option Value
  | value, [] => some value
  | .group id, segment :: rest => do
      let value ← (store.group id).get? segment
      store.member? value rest
  | _, _ :: _ => none

namespace Workspace

/-- The value of a name. -/
def resolve (scope : Scope) (name : String) : Access Value := do
  let segments := segmentsOf name
  let first ← lookupFirst scope (segments.headD "")
  let store := (← get).store
  match first.bind fun value => store.member? value segments.tail with
  | some value => return value
  | none => throw (Error.unbound name)

/-- What a missing segment of a path is bound to: a new group, or nothing if the segment is the last one. -/
def newMember (isLast : Bool) : Access Value := do
  if isLast then return .nil
  else
    let (id, workspace) := (← get).newGroup {}
    set workspace
    return .group id

/-- Follows a path of member names and binds the ones that are missing.  `walked` lists the segments before. -/
def walkCreating (name : String) : (walked : List String) → Value → List String → Access Value
  | _, value, [] => return value
  | walked, value, segment :: rest => do
      match value with
      | .group id =>
          match ((← get).group id).get? segment with
          | some next => walkCreating name (walked ++ [segment]) next rest
          | none => do
              let next ← newMember rest.isEmpty
              modify (·.setMember id segment next)
              walkCreating name (walked ++ [segment]) next rest
      | _ => throw (.invalidTarget (.cannotCreate name (Text.joinStrings "." walked)))

/-- The value of a name.  What is missing on its path is created, in the local group if the first segment is not
found at all. -/
def resolveCreating (scope : Scope) (name : String) : Access Value := do
  let segments := segmentsOf name
  let first := segments.headD ""
  match ← lookupFirst scope first with
  | some value => walkCreating name [first] value segments.tail
  | none => do
      let value ← newMember segments.tail.isEmpty
      modify (·.setMember scope.localGroup first value)
      walkCreating name [first] value segments.tail

/-- The group that a name leads to. -/
def resolveGroup (scope : Scope) (name : String) : Access GroupId := do
  match ← resolve scope name with
  | .group id => return id
  | value => throw (.invalidTarget (.notGroup name value.kind))

/-- Follows a path of group names from a group and creates the groups that are missing. -/
def traverse : GroupId → List String → Access GroupId
  | id, [] => return id
  | id, segment :: rest => do
      match ((← get).group id).get? segment with
      | some (.group next) => traverse next rest
      | some value => throw (.invalidTarget (.notGroup segment value.kind))
      | none => do
          let (next, workspace) := (← get).newGroup {}
          set (workspace.setMember id segment (.group next))
          traverse next rest

/-- The group that the first segment of a path to bind in leads to. -/
def bindingHead (scope : Scope) (name first : String) : Access GroupId := do
  match ← lookupFirst scope first with
  | some (.group id) => return id
  | some value => throw (.invalidTarget (.cannotBind name first value.kind))
  | none => do
      let (id, workspace) := (← get).newGroup {}
      set (workspace.setMember scope.localGroup first (.group id))
      return id

/-- The slot that binding a name uses.  A name without dots is bound in the given group, or else locally; the path of
a dotted name starts from the given group, or else from where its first segment is found. -/
def bindingSlot (scope : Scope) (name : String) (group : Option GroupId) : Access Slot := do
  let segments := segmentsOf name
  let child := segments.getLastD ""
  if child.isEmpty then throw (.invalidTarget (.invalidName name))
  match segments.dropLast, group with
  | [], some id => return ⟨id, child⟩
  | [], none => return ⟨scope.localGroup, child⟩
  | parents, some id => return ⟨← traverse id parents, child⟩
  | first :: rest, none => do
      let head ← bindingHead scope name first
      return ⟨← traverse head rest, child⟩

/-- Fails if a slot holds a constant. -/
def requireAssignable (slot : Slot) (name : String) : Access Unit := do
  if ((← get).group slot.group).isConstant slot.name then
    throw (.invalidTarget (.constantAssigned name))

/-- Binds a name to a value, unless it is a constant. -/
def bind (scope : Scope) (name : String) (value : Value) (group : Option GroupId) : Access Unit := do
  let slot ← bindingSlot scope name group
  requireAssignable slot name
  modify (·.setMember slot.group slot.name value)

/-- The slot in which a name is bound. -/
def owner (scope : Scope) (name : String) : Access Slot := do
  let segments := segmentsOf name
  match segments.dropLast with
  | [] => do
      let groups ← searchGroups scope
      let workspace ← get
      match groups.find? fun id => (workspace.group id).has name with
      | some id => return ⟨id, name⟩
      | none => throw (Error.unbound name)
  | parents => return ⟨← resolveGroup scope (Text.joinStrings "." parents), segments.getLastD ""⟩

/-- Deletes a name that is bound neither to a group nor to a constant. -/
def delete (scope : Scope) (name : String) : Access Unit := do
  match ← resolve scope name with
  | .group _ => throw (.invalidTarget (.groupDeleted name))
  | _ => do
      let slot ← owner scope name
      if ((← get).group slot.group).isConstant slot.name then
        throw (.invalidTarget (.constantDeleted name))
      modify (·.modifyGroup slot.group (·.remove slot.name))

/-- Deletes a name that is bound to a group.  A protected group is kept, and the refusal is reported. -/
def deleteGroup (scope : Scope) (name : String) : Access Unit := do
  let id ← resolveGroup scope name
  if ((← get).group id).isProtected then
    modify fun workspace =>
      (workspace.warn ("refused to delete protected group " ++ name)).write
        ("cannot delete group '" ++ name ++ "'\n")
  else do
    let slot ← owner scope name
    modify (·.modifyGroup slot.group (·.remove slot.name))

/-- Binds a group under a name, in the group of another name or locally. -/
def placeGroup (scope : Scope) (name : String) (id : GroupId) (parent : Option String) :
    Access Unit := do
  match parent with
  | none => bind scope name (.group id) none
  | some parent => bind scope name (.group id) (some (← resolveGroup scope parent))

end Workspace

end GroupScript
