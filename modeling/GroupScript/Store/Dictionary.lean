import GroupScript.Text.Order

/-!
# Dictionaries

A dictionary maps names to entries.  Putting an entry under a name replaces the entry it had, or adds the
name at the end; erasing removes the name.  Names are listed in the order of their code points.
-/

namespace GroupScript

/-- A finite map from names to entries. -/
structure Dictionary (α : Type) where
  entries : List (String × α) := []
  deriving Inhabited

namespace Dictionary

variable {α : Type}

/-- The first entry under a name in a list. -/
def find (name : String) : List (String × α) → Option α
  | [] => none
  | (key, entry) :: rest => if key = name then some entry else find name rest

/-- Replaces the first entry under a name in a list, or adds one at its end. -/
def replace (name : String) (entry : α) : List (String × α) → List (String × α)
  | [] => [(name, entry)]
  | (key, old) :: rest =>
      if key = name then (key, entry) :: rest else (key, old) :: replace name entry rest

/-- The entry under a name. -/
def get? (dictionary : Dictionary α) (name : String) : Option α :=
  find name dictionary.entries

/-- Whether a name has an entry. -/
def contains (dictionary : Dictionary α) (name : String) : Bool :=
  (dictionary.get? name).isSome

/-- The dictionary with an entry put under a name. -/
def put (dictionary : Dictionary α) (name : String) (entry : α) : Dictionary α :=
  ⟨replace name entry dictionary.entries⟩

/-- The dictionary without a name. -/
def erase (dictionary : Dictionary α) (name : String) : Dictionary α :=
  ⟨dictionary.entries.filter fun item => item.1 ≠ name⟩

/-- The names and entries, in the order of the names. -/
def sorted (dictionary : Dictionary α) : List (String × α) :=
  dictionary.entries.mergeSort fun first second =>
    Text.compareStrings first.1 second.1 != .gt

@[simp]
theorem find_replace (name other : String) (entry : α) (entries : List (String × α)) :
    find other (replace name entry entries) =
      if name = other then some entry else find other entries := by
  induction entries with
  | nil => simp [replace, find]
  | cons head rest ih =>
      obtain ⟨key, old⟩ := head
      by_cases same : key = name
      · subst same
        by_cases equal : key = other <;> simp [replace, find, equal]
      · by_cases equal : key = other
        · subst equal
          have : ¬name = key := fun h => same h.symm
          simp [replace, find, same, this]
        · simp [replace, find, same, equal, ih]

@[simp]
theorem find_filter (name other : String) (entries : List (String × α)) :
    find other (entries.filter fun item => item.1 ≠ name) =
      if name = other then none else find other entries := by
  induction entries with
  | nil => simp [find]
  | cons head rest ih =>
      obtain ⟨key, old⟩ := head
      by_cases same : key = name
      · subst same
        by_cases equal : key = other <;> simp_all [find]
      · by_cases equal : key = other
        · subst equal
          have : ¬name = key := fun h => same h.symm
          simp [find, same, this]
        · simp_all [find]

/-- Putting an entry under a name changes what is under that name and nothing else. -/
theorem get?_put (dictionary : Dictionary α) (name other : String) (entry : α) :
    (dictionary.put name entry).get? other =
      if name = other then some entry else dictionary.get? other := by
  simp [put, get?]

/-- Erasing a name takes away what is under that name and nothing else. -/
theorem get?_erase (dictionary : Dictionary α) (name other : String) :
    (dictionary.erase name).get? other = if name = other then none else dictionary.get? other := by
  simp only [erase, get?, find_filter]

end Dictionary

end GroupScript
