/-!
# Scanning TOML

The small pieces of a TOML document: blanks, comments, line ends, and characters that may stand in
text. A scanner takes what it wants from the front of the text and gives the rest, or refuses the
document.
-/

namespace Colloquy.Toml

/-- Take something from the front of the text. -/
abbrev Scan (α : Type) := List Char → Option (α × List Char)

/-- A character that may stand in text and comments: a tab, or anything but a control character. -/
def isPrintable (character : Char) : Bool :=
  character = '\t' || (0x20 ≤ character.toNat && character.toNat ≠ 0x7f)

/-- A space or a tab. -/
def isBlankCharacter (character : Char) : Bool :=
  character = ' ' || character = '\t'

/-- The text behind blanks. -/
def skipBlanks (text : List Char) : List Char :=
  text.dropWhile isBlankCharacter

/-- The text behind a character that must come next. -/
def expect (character : Char) : List Char → Option (List Char)
  | [] => none
  | first :: rest => if first = character then some rest else none

/-- The text behind a line feed, perhaps with a carriage return before it. -/
def skipNewline? : List Char → Option (List Char)
  | '\n' :: rest => some rest
  | '\r' :: '\n' :: rest => some rest
  | _ => none

/-- The text behind a line feed that may or may not come next. -/
def skipNewline (text : List Char) : List Char :=
  (skipNewline? text).getD text

/-- The text behind a comment, if one comes next. -/
def skipComment : List Char → List Char
  | '#' :: rest => rest.dropWhile isPrintable
  | text => text

/-- The text behind the end of a line: blanks, perhaps a comment, and a line feed or the end. -/
def lineEnd? (text : List Char) : Option (List Char) :=
  let rest := skipComment (skipBlanks text)
  if rest.isEmpty then some [] else skipNewline? rest

/-- The text behind blanks, line feeds and comments, which end with their lines. -/
def skipGaps : Bool → List Char → Option (List Char)
  | _, [] => some []
  | _, '\n' :: rest => skipGaps false rest
  | _, '\r' :: '\n' :: rest => skipGaps false rest
  | true, character :: rest => if isPrintable character then skipGaps true rest else none
  | false, character :: rest =>
      if isBlankCharacter character then skipGaps false rest
      else if character = '#' then skipGaps true rest
      else some (character :: rest)

end Colloquy.Toml
