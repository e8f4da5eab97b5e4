import GroupScript.Store.Show
import GroupScript.Value.Arithmetic

/-!
# Indexing and operators

Lists and texts are indexed by whole numbers, negative ones counting from the end, and groups by the names
of their members.  Assigning to an element makes a new list in which that element is replaced.
-/

namespace GroupScript

/-- The position that an index denotes in a sequence of some length. -/
def position (length : Nat) (index : Value) : Except Error Nat :=
  match index with
  | .int i =>
      let place := if i.toInt < 0 then i.toInt + length else i.toInt
      if 0 ≤ place ∧ place < length then .ok place.toNat
      else .error (.evaluationFailure (.indexOutOfRange i.toInt length))
  | index => .error (.invalidTarget (.indexNotInteger index.kind))

namespace Value

/-- Replaces the element at the end of a path of indices, which must lead through lists. -/
def replaceAt (new : Value) : List Value → Value → Except Error Value
  | [], _ => .ok new
  | index :: path, .list items => do
      let place ← position items.length index
      let element ← replaceAt new path (items.getD place .nil)
      return .list (items.set place element)
  | _ :: _, value => .error (.invalidTarget (.notAssignableInto value.kind))

end Value

namespace Store

/-- The element of a value at an index. -/
def element (store : Store) (target index : Value) : Except Error Value :=
  match target with
  | .list items => do
      let place ← position items.length index
      return items.getD place .nil
  | .string text => do
      let place ← position text.toList.length index
      return .string (String.ofList ((text.toList.drop place).take 1))
  | .group id => do
      let name ← index.asString
      match (store.group id).get? name with
      | some value => return value
      | none => throw (Error.unbound name)
  | target => .error (.invalidTarget (.notIndexable target.kind))

/-- The element at the end of a path of indices. -/
def elementAt (store : Store) : (target : Value) → (indices : List Value) → Except Error Value
  | target, [] => .ok target
  | target, index :: indices => do
      let next ← store.element target index
      store.elementAt next indices

/-- Whether a list has an equal item, a text a part, or a group a member of a name. -/
def holds (store : Store) (container item : Value) : Except EvaluationFault Bool :=
  match container, item with
  | .list items, item => .ok (items.any fun other => other.equals item)
  | .string text, .string part => .ok (Text.occursIn part.toList text.toList)
  | .group id, .string name => .ok ((store.group id).has name)
  | container, _ => .error (.noMembership container.kind)

/-- The binary operators. -/
def binary (store : Store) (op : BinaryOp) (a b : Value) : Except EvaluationFault Value :=
  match op with
  | .eq => .ok (.bool (a.equals b))
  | .ne => .ok (.bool (!a.equals b))
  | .lt => return .bool ((← a.order b) == .lt)
  | .le => return .bool ((← a.order b) != .gt)
  | .gt => return .bool ((← a.order b) == .gt)
  | .ge => return .bool ((← a.order b) != .lt)
  | .isIn => return .bool (← store.holds b a)
  | .notIn => return .bool (!(← store.holds b a))
  | op => Value.arith op a b

end Store

end GroupScript
