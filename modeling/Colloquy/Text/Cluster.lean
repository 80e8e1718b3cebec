import Colloquy.Text.Width

/-!
# Character clusters

Text is drawn cluster by cluster: a character with the marks that combine with it, pictographs tied
by joiners, flag letters in pairs, and the parts of a syllable block are one cluster each. A
control character is a cluster of its own.
-/

namespace Colloquy.Text

/-- A cluster of characters. -/
abbrev Cluster := List Char

/-- The parts of a syllable block. -/
inductive SyllablePart where
  | leading
  | vowel
  | trailing
  | light
  | heavy
  deriving DecidableEq, Repr

/-- The part of a syllable block that a character is. -/
def syllablePart? (character : Char) : Option SyllablePart :=
  let code := character.toNat
  if (0x1100 ≤ code && code ≤ 0x115f) || (0xa960 ≤ code && code ≤ 0xa97c) then some .leading
  else if (0x1160 ≤ code && code ≤ 0x11a7) || (0xd7b0 ≤ code && code ≤ 0xd7c6) then some .vowel
  else if (0x11a8 ≤ code && code ≤ 0x11ff) || (0xd7cb ≤ code && code ≤ 0xd7fb) then some .trailing
  else if 0xac00 ≤ code && code ≤ 0xd7a3 then
    some (if (code - 0xac00) % 28 = 0 then .light else .heavy)
  else none

/-- Whether two parts stay in one syllable block. -/
def SyllablePart.joins : SyllablePart → SyllablePart → Bool
  | leading, leading | leading, vowel | leading, light | leading, heavy => true
  | light, vowel | light, trailing | vowel, vowel | vowel, trailing => true
  | heavy, trailing | trailing, trailing => true
  | _, _ => false

/-- A character that starts and ends a cluster by itself. -/
def isolates (character : Char) : Bool :=
  isControl character || character.toNat = 0x2028 || character.toNat = 0x2029 ||
    (isFormat character && character ≠ joiner && character.toNat ≠ 0x200c &&
      character.toNat < 0xe0020)

/-- A character that always goes on with the cluster before it. -/
def isContinuation (character : Char) : Bool :=
  isMark character || character = joiner || character.toNat = 0x200c ||
    (0x1f3fb ≤ character.toNat && character.toNat ≤ 0x1f3ff) ||
    (0xe0020 ≤ character.toNat && character.toNat ≤ 0xe007f)

/-- An unfinished cluster: its characters, last one first, whether it is a single flag letter, and
whether it is a pictograph with its marks, possibly with a joiner at the end. -/
structure OpenCluster where
  characters : List Char
  last : Char
  flagOpen : Bool
  image : Bool
  joined : Bool

/-- Start a cluster. -/
def OpenCluster.start (character : Char) : OpenCluster :=
  ⟨[character], character, isFlagLetter character, isPictograph character, false⟩

/-- Whether a character goes on with a cluster. -/
def OpenCluster.takes (cluster : OpenCluster) (character : Char) : Bool :=
  if cluster.last = '\r' && character = '\n' then true
  else if isolates cluster.last || isolates character then false
  else if isContinuation character then true
  else if cluster.joined && isPictograph character then true
  else if cluster.flagOpen && isFlagLetter character then true
  else
    match syllablePart? cluster.last, syllablePart? character with
    | some before, some after => before.joins after
    | _, _ => false

/-- Put a character at the end of a cluster. -/
def OpenCluster.add (cluster : OpenCluster) (character : Char) : OpenCluster :=
  let image := (cluster.image && isContinuation character) || isPictograph character
  { characters := character :: cluster.characters
    last := character
    flagOpen := false
    image := image
    joined := cluster.image && character = joiner }

/-- Cut text into clusters; the open cluster comes first. -/
def clustersFrom : OpenCluster → List Char → List Cluster
  | cluster, [] => [cluster.characters.reverse]
  | cluster, character :: rest =>
      if cluster.takes character then clustersFrom (cluster.add character) rest
      else cluster.characters.reverse :: clustersFrom (OpenCluster.start character) rest

/-- Cut text into clusters. -/
def clusters : List Char → List Cluster
  | [] => []
  | character :: rest => clustersFrom (OpenCluster.start character) rest

/-- The columns of a cluster. -/
def Cluster.width (cluster : Cluster) : Nat :=
  columns cluster

/-- The columns of several clusters. -/
def totalWidth : List Cluster → Nat
  | [] => 0
  | cluster :: rest => cluster.width + totalWidth rest

/-- Whether a cluster can be drawn: no part of it is a control character. -/
def Cluster.isDrawable (cluster : Cluster) : Bool :=
  cluster.all fun character => !isControl character

end Colloquy.Text
