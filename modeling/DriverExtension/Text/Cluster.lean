import DriverExtension.Text.Clustering

namespace DriverExtension.Text

/-!
# Grapheme clusters

A terminal draws a text cluster by cluster: a character with its marks, a syllable of conjoining
letters, a conjunct of consonants, a pair of regional indicators, a chain of joined pictographs.
`clusters` cuts a text into them.
-/

/-- What a character contributes to the boundaries around it. -/
inductive ClusterClass where
  | carriageReturn | lineFeed | control | extender | nonJoiner | joiner | linker | regional
  | prepended | spacing | leading | vowel | trailing | leadingVowel | leadingVowelTrailing
  | pictograph | conjunct | other
deriving DecidableEq, Repr

/-- U+200D, which joins two pictographs. -/
def zeroWidthJoiner : Char := '\u200d'

/-- U+200C, which keeps two letters apart. -/
def zeroWidthNonJoiner : Char := '\u200c'

/-- The class of a character. -/
def ClusterClass.ofChar (c : Char) : ClusterClass :=
  let n := c.toNat
  if c = '\r' then .carriageReturn
  else if c = '\n' then .lineFeed
  else if n < 0x7f then (if n < 0x20 then .control else .other)
  else if c = zeroWidthJoiner then .joiner
  else if c = zeroWidthNonJoiner then .nonJoiner
  else if conjunctLinkers.contains c then .linker
  else if extendingMarks.contains c then .extender
  else if breakers.contains c then .control
  else if 0x1f1e6 ≤ n && n ≤ 0x1f1ff then .regional
  else if prependedMarks.contains c then .prepended
  else if spacingMarks.contains c then .spacing
  else if (0x1100 ≤ n && n ≤ 0x115f) || (0xa960 ≤ n && n ≤ 0xa97c) then .leading
  else if (0x1160 ≤ n && n ≤ 0x11a7) || (0xd7b0 ≤ n && n ≤ 0xd7c6) then .vowel
  else if (0x11a8 ≤ n && n ≤ 0x11ff) || (0xd7cb ≤ n && n ≤ 0xd7fb) then .trailing
  else if 0xac00 ≤ n && n ≤ 0xd7a3 then
    (if (n - 0xac00) % 28 = 0 then .leadingVowel else .leadingVowelTrailing)
  else if pictographs.contains c then .pictograph
  else if conjunctLetters.contains c then .conjunct
  else .other

/-- Whether characters of the class only add to what is before them. -/
def ClusterClass.extends : ClusterClass → Bool
  | .extender | .nonJoiner | .joiner | .linker => true
  | _ => false

/-- How far a conjunct has come. -/
inductive Conjunct where
  | none
  /-- A consonant and marks. -/
  | opened
  /-- A consonant and marks, one of them a linker. -/
  | linked
deriving DecidableEq, Repr

/-- The conjunct after one more character. -/
def Conjunct.next (conjunct : Conjunct) : ClusterClass → Conjunct
  | .conjunct => .opened
  | .linker => if conjunct = .none then .none else .linked
  | .extender | .joiner => conjunct
  | _ => .none

/-- What is known of the cluster that is being read. -/
structure ClusterState where
  /-- The class of its last character. -/
  last : ClusterClass
  /-- Whether its regional indicators are odd in number. -/
  oddRegional : Bool
  /-- Whether it ends in a pictograph and extenders. -/
  afterPictograph : Bool
  /-- Whether it ends in a pictograph, extenders and a joiner. -/
  afterJoined : Bool
  /-- The conjunct that it ends in. -/
  conjunct : Conjunct
deriving DecidableEq, Repr

/-- The state after a first character. -/
def ClusterState.start (k : ClusterClass) : ClusterState :=
  ⟨k, k = .regional, k = .pictograph, false, Conjunct.none.next k⟩

/-- The state after one more character of the same cluster. -/
def ClusterState.extend (st : ClusterState) (k : ClusterClass) : ClusterState where
  last := k
  oddRegional := k = .regional && !st.oddRegional
  afterPictograph := k = .pictograph || (k.extends && k ≠ .joiner && st.afterPictograph)
  afterJoined := k = .joiner && st.afterPictograph
  conjunct := st.conjunct.next k

/-- Whether a character of class `k` belongs to the cluster. -/
def ClusterState.continues (st : ClusterState) (k : ClusterClass) : Bool :=
  match st.last, k with
  | .carriageReturn, .lineFeed => true
  | .carriageReturn, _ | .lineFeed, _ | .control, _ => false
  | _, .carriageReturn | _, .lineFeed | _, .control => false
  | .leading, .leading | .leading, .vowel => true
  | .leading, .leadingVowel | .leading, .leadingVowelTrailing => true
  | .leadingVowel, .vowel | .leadingVowel, .trailing | .vowel, .vowel | .vowel, .trailing => true
  | .leadingVowelTrailing, .trailing | .trailing, .trailing => true
  | _, .extender | _, .nonJoiner | _, .joiner | _, .linker | _, .spacing => true
  | .prepended, _ => true
  | _, .conjunct => st.conjunct = .linked
  | _, .pictograph => st.afterJoined
  | .regional, .regional => st.oddRegional
  | _, _ => false

/-- The clusters of a text that goes on with `rest` after `current`, which is given backwards. -/
def clustersFrom (st : ClusterState) (current : List Char) : List Char → List (List Char)
  | [] => [current.reverse]
  | c :: rest =>
    let k := ClusterClass.ofChar c
    if st.continues k then clustersFrom (st.extend k) (c :: current) rest
    else current.reverse :: clustersFrom (.start k) [c] rest

/-- The clusters of a text, in order. -/
def clusters : List Char → List (List Char)
  | [] => []
  | c :: rest => clustersFrom (.start (.ofChar c)) [c] rest

end DriverExtension.Text
