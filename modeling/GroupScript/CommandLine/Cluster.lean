import GroupScript.CommandLine.ClusterClass

/-!
# Clusters

A text is divided into clusters, the units that a reader takes for one character.  Whether two neighbours belong
together depends on their classes and, for pictographs, conjuncts and flags, on what stands before them in the cluster.
No character is lost: the clusters of a text, one after the other, are the text.
-/

namespace GroupScript.CommandLine

/-- What is remembered of the characters of a cluster so far. -/
structure ClusterState where
  last : ClusterClass
  /-- Whether a pictograph stands before the marks at the end. -/
  picture : Bool
  /-- Whether such a pictograph is followed by a joiner. -/
  joined : Bool
  /-- Whether a consonant stands before the marks at the end. -/
  consonant : Bool
  /-- Whether a linker is among the marks after such a consonant. -/
  linked : Bool
  /-- Whether the number of regional letters at the end is odd. -/
  oddRegional : Bool
  deriving DecidableEq, Repr, Inhabited

namespace ClusterState

/-- The state after the first character of a cluster. -/
def ofChar (c : Char) : ClusterState where
  last := classOf c.toNat
  picture := isPicture c
  joined := false
  consonant := isConsonant c
  linked := false
  oddRegional := classOf c.toNat == .regional

/-- Whether a character is a mark that may stand inside a conjunct.  The sign that forbids joining may not. -/
def isConjunctMark (c : Char) : Bool :=
  c.toNat != 0x200c && (classOf c.toNat == .extend || classOf c.toNat == .joiner || isLinker c)

/-- The state after a further character of the same cluster. -/
def advance (state : ClusterState) (c : Char) : ClusterState :=
  let kind := classOf c.toNat
  { last := kind
    picture := isPicture c || (state.picture && kind == .extend)
    joined := state.picture && kind == .joiner
    consonant := isConsonant c || (state.consonant && isConjunctMark c)
    linked := state.consonant && !isConsonant c && isConjunctMark c && (state.linked || isLinker c)
    oddRegional := kind == .regional && !state.oddRegional }

/-- Whether two parts of a syllable belong together. -/
def isSyllable : ClusterClass → ClusterClass → Bool
  | .leading, .leading | .leading, .vowel | .leading, .openSyllable | .leading, .closedSyllable => true
  | .openSyllable, .vowel | .openSyllable, .trailing | .vowel, .vowel | .vowel, .trailing => true
  | .closedSyllable, .trailing | .trailing, .trailing => true
  | _, _ => false

/-- Whether a class stands alone, but for a carriage return before a line feed. -/
def standsAlone (kind : ClusterClass) : Bool :=
  kind == .control || kind == .carriageReturn || kind == .lineFeed

/-- Whether a character continues a cluster. -/
def continues (state : ClusterState) (c : Char) : Bool :=
  let kind := classOf c.toNat
  if state.last == .carriageReturn && kind == .lineFeed then true
  else if standsAlone state.last || standsAlone kind then false
  else
    isSyllable state.last kind || kind == .extend || kind == .joiner || kind == .spacing ||
      state.last == .prepended || (state.linked && isConsonant c) ||
      (state.joined && isPicture c) || (state.oddRegional && kind == .regional)

end ClusterState

/-- The clusters of a text that goes on from a cluster, whose characters are given with the last one first. -/
def clustersFrom (state : ClusterState) (current : List Char) : List Char → List (List Char)
  | [] => [current.reverse]
  | c :: rest =>
      if state.continues c then clustersFrom (state.advance c) (c :: current) rest
      else current.reverse :: clustersFrom (.ofChar c) [c] rest

/-- The clusters of a text. -/
def clusters : List Char → List (List Char)
  | [] => []
  | c :: rest => clustersFrom (.ofChar c) [c] rest

theorem flatten_clustersFrom (state : ClusterState) (current text : List Char) :
    (clustersFrom state current text).flatten = current.reverse ++ text := by
  induction text generalizing state current with
  | nil => simp [clustersFrom]
  | cons c rest ih =>
      unfold clustersFrom
      split <;> simp [ih]

/-- The clusters of a text, one after the other, are the text. -/
@[simp]
theorem flatten_clusters (text : List Char) : (clusters text).flatten = text := by
  cases text with
  | nil => rfl
  | cons c rest => simp [clusters, flatten_clustersFrom]

end GroupScript.CommandLine
