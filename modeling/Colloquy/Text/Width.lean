import Colloquy.Text.Property

/-!
# Display width

How many terminal columns text takes. A character alone takes none, one or two columns. In running
text, pictographs and flags tied by a joiner are one image and take the columns of one of them, and
a control character counts as one column. Running text is measured from its end, since what a
character takes hangs on what follows.
-/

namespace Colloquy.Text

/-- The columns of a character that stands alone. -/
def charWidth (character : Char) : Nat :=
  if character.toNat < 0x7f then (if character.toNat < 0x20 then 0 else 1)
  else if isControl character then 0
  else if isMark character || isFormat character then 0
  else if 0x1160 ≤ character.toNat && character.toNat ≤ 0x11ff then 0
  else if isWide character then 2
  else 1

/-- A pictograph that is drawn as an image of two columns. -/
def isImage (character : Char) : Bool :=
  isWide character && isPictograph character

/-- What text starts with, as far as the columns of a character before it hang on that. -/
inductive Start where
  | plain
  | lineFeed
  /-- A flag letter and no other. -/
  | letter
  /-- Two flag letters or more. -/
  | letters
  | image
  /-- A joiner and an image. -/
  | joiner
  /-- A flag letter, a joiner and an image. -/
  | joinedLetter
  /-- An even number of flag letters, a joiner and an image. -/
  | joinedPairs
  /-- An odd number of flag letters, a joiner and an image; three at least. -/
  | joinedTriple
  deriving DecidableEq, Repr

/-- The columns of text with a flag letter put before it. Letters pair up from their end. The pair
before a joiner is part of the image and takes no columns, so every second letter takes back what
the one after it took. -/
def Start.putLetter (start : Start) (columns : Nat) : Nat × Start :=
  match start with
  | .letter | .letters => (columns + 1, .letters)
  | .joiner => (columns + 1, .joinedLetter)
  | .joinedLetter | .joinedTriple => (columns - 1, .joinedPairs)
  | .joinedPairs => (columns + 3, .joinedTriple)
  | .plain | .lineFeed | .image => (columns + 1, .letter)

/-- Whether text starts with something that a joiner ties to an image before it. -/
def Start.isJoinable (start : Start) : Bool :=
  match start with
  | .image | .letters | .joinedPairs | .joinedTriple => true
  | .plain | .lineFeed | .letter | .joiner | .joinedLetter => false

/-- The columns of text with a character put before it. A line break of two characters takes one
column. -/
def Start.put (start : Start) (character : Char) (columns : Nat) : Nat × Start :=
  if character = '\n' then (columns + 1, .lineFeed)
  else if isControl character then
    (if character = '\r' ∧ start = .lineFeed then columns else columns + 1, .plain)
  else if character = Text.joiner then (columns, if start.isJoinable then .joiner else .plain)
  else if isFlagLetter character then start.putLetter columns
  else if isImage character then (if start = .joiner then columns else columns + 2, .image)
  else (columns + charWidth character, .plain)

/-- The columns of running text, and what it starts with. -/
def measure : List Char → Nat × Start
  | [] => (0, .plain)
  | character :: rest =>
      let (columns, start) := measure rest
      start.put character columns

/-- The columns of running text. -/
def columns (text : List Char) : Nat :=
  (measure text).1

/-- The columns of a string. -/
def width (text : String) : Nat :=
  columns text.toList

end Colloquy.Text
