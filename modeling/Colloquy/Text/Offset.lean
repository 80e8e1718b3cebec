import Colloquy.Text.Wrap

/-!
# Byte offsets

A caret is a byte offset into text in UTF-8. An offset splits the text unless it lies inside a
character or beyond the end; what stands before and after it decides where the caret moves.
-/

namespace Colloquy.Text

/-- The bytes of characters. -/
def byteLength (characters : List Char) : Nat :=
  Wrap.byteLength characters

/-- Split text at a byte offset. The part before the offset is gathered last character first. -/
def splitFrom? : List Char → Nat → List Char → Option (List Char × List Char)
  | before, 0, after => some (before.reverse, after)
  | _, _ + 1, [] => none
  | before, offset + 1, character :: rest =>
      if character.utf8Size ≤ offset + 1 then
        splitFrom? (character :: before) (offset + 1 - character.utf8Size) rest
      else none

/-- The characters before and after a byte offset, if it lies between characters. -/
def split? (text : List Char) (offset : Nat) : Option (List Char × List Char) :=
  splitFrom? [] offset text

/-- The offset of the character before the caret. -/
def previousBoundary (before : List Char) : Nat :=
  byteLength before.dropLast

/-- The offset after the character at the caret. -/
def nextBoundary (before after : List Char) : Nat :=
  byteLength before + byteLength (after.take 1)

/-- The offset of the start of the caret's line. -/
def lineStart (before : List Char) : Nat :=
  byteLength (before.reverse.dropWhile (· ≠ '\n'))

/-- The offset of the end of the caret's line. -/
def lineEnd (before after : List Char) : Nat :=
  byteLength before + byteLength (after.takeWhile (· ≠ '\n'))

end Colloquy.Text
