/-!
# Documents

Settings are written as a document.  What settings can tell apart is kept of it: truth values, natural numbers, texts,
arrays, and objects with their fields in the order written; every other number is only known to be one.  A text need
not denote a string.
-/

namespace GroupScript

/-- A document. -/
inductive Document
  | null
  | bool (value : Bool)
  | natural (value : Nat)
  | otherNumber
  | string (value : Option String)
  | array (items : List Document)
  | object (fields : List (Option String × Document))
  deriving Inhabited

end GroupScript
