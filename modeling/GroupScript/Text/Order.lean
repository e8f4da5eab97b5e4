/-!
# The order of texts

Texts are compared character by character, by code point; a text that starts another comes before it.
-/

namespace GroupScript.Text

/-- Compares two texts by the code points of their characters. -/
def compareChars : List Char → List Char → Ordering
  | [], [] => .eq
  | [], _ :: _ => .lt
  | _ :: _, [] => .gt
  | c :: first, d :: second =>
      match compare c.toNat d.toNat with
      | .eq => compareChars first second
      | order => order

/-- Compares two strings by the code points of their characters. -/
def compareStrings (first second : String) : Ordering :=
  compareChars first.toList second.toList

end GroupScript.Text
