import GroupScript.Store.Dictionary
import GroupScript.Text.Pieces
import GroupScript.Value.Basic

/-!
# Groups

A group holds named members.  A member can be constant, which forbids scripts to bind it again or to delete
it, and a group can be protected, which forbids scripts to delete the group.  Names that begin with two
underscores are reserved: they are never listed or counted.
-/

namespace GroupScript

/-- A member of a group. -/
structure Member where
  value : Value
  constant : Bool := false
  deriving Inhabited

/-- A group of named members. -/
structure Group where
  members : Dictionary Member := {}
  isProtected : Bool := false
  deriving Inhabited

/-- What reserved names begin with. -/
def reservedStart : String := "__"

/-- Whether a name is reserved. -/
def isReserved (name : String) : Bool :=
  Text.startsWith reservedStart.toList name.toList

namespace Group

/-- The value of a member. -/
def get? (group : Group) (name : String) : Option Value :=
  (group.members.get? name).map Member.value

/-- Whether a group has a member of this name. -/
def has (group : Group) (name : String) : Bool :=
  group.members.contains name

/-- Whether a member of this name exists and is constant. -/
def isConstant (group : Group) (name : String) : Bool :=
  match group.members.get? name with
  | some member => member.constant
  | none => false

/-- Binds a name to a value.  A constant stays a constant. -/
def set (group : Group) (name : String) (value : Value) : Group :=
  { group with members := group.members.put name ⟨value, group.isConstant name⟩ }

/-- Binds a name to a value as a constant. -/
def setConstant (group : Group) (name : String) (value : Value) : Group :=
  { group with members := group.members.put name ⟨value, true⟩ }

/-- Removes a member. -/
def remove (group : Group) (name : String) : Group :=
  { group with members := group.members.erase name }

/-- The members that are not reserved, in the order of their names. -/
def visible (group : Group) : List (String × Member) :=
  group.members.sorted.filter fun item => !isReserved item.1

/-- The names that are not reserved, in order. -/
def names (group : Group) : List String :=
  group.visible.map Prod.fst

/-- The names of the members that are groups, in order. -/
def subgroupNames (group : Group) : List String :=
  (group.visible.filter fun item => item.2.value.kind == .group).map Prod.fst

/-- The number of members that are not reserved. -/
def size (group : Group) : Nat :=
  group.names.length

end Group

end GroupScript
