import GroupScript.CommandLine.Cluster

/-!
# Backspaces

A line that is read without an editor may hold backspaces.  Each takes back the cluster before it.  The size of a
cluster is kept in a single byte, so that of a cluster of 256 bytes or more only the remainder is taken back.
-/

namespace GroupScript.CommandLine

/-- The cluster that takes back the one before it. -/
def backspace : List Char := [Char.ofNat 8]

/-- The size of some characters in bytes. -/
def byteSize : List Char → Nat
  | [] => 0
  | c :: rest => c.utf8Size + byteSize rest

/-- Drops characters up to a number of bytes. -/
def dropBytes : Nat → List Char → List Char
  | _, [] => []
  | size, c :: rest => if c.utf8Size ≤ size then dropBytes (size - c.utf8Size) rest else c :: rest

/-- A line after its backspaces have taken effect.  The first list holds the characters kept so far, the last one
first, and the second one the sizes of the clusters that can be taken back. -/
def takeBack : List Char → List Nat → List (List Char) → List Char
  | kept, _, [] => kept.reverse
  | kept, sizes, cluster :: rest =>
      if cluster = backspace then takeBack (dropBytes (sizes.headD 0) kept) (sizes.drop 1) rest
      else takeBack (cluster.reverse ++ kept) (byteSize cluster % 256 :: sizes) rest

/-- A line after its backspaces have taken effect. -/
def eraseBackspaces (text : List Char) : List Char :=
  takeBack [] [] (clusters text)

theorem length_dropBytes_le (size : Nat) (text : List Char) :
    (dropBytes size text).length ≤ text.length := by
  fun_induction dropBytes size text <;> grind

theorem length_takeBack_le (kept : List Char) (sizes : List Nat) (clusters : List (List Char)) :
    (takeBack kept sizes clusters).length ≤ kept.length + clusters.flatten.length := by
  induction clusters generalizing kept sizes with
  | nil => simp [takeBack]
  | cons cluster rest ih =>
      have shorter := length_dropBytes_le (sizes.headD 0) kept
      unfold takeBack
      split
      · have := ih (dropBytes (sizes.headD 0) kept) (sizes.drop 1)
        simp only [List.flatten_cons, List.length_append]
        omega
      · have := ih (cluster.reverse ++ kept) (byteSize cluster % 256 :: sizes)
        simp only [List.flatten_cons, List.length_append, List.length_reverse] at this ⊢
        omega

/-- Taking back never makes a line longer. -/
theorem length_eraseBackspaces_le (text : List Char) :
    (eraseBackspaces text).length ≤ text.length := by
  simpa [eraseBackspaces] using length_takeBack_le [] [] (clusters text)

end GroupScript.CommandLine
