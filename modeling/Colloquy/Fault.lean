/-!
# Faults

The few things that stop the program in its tracks instead of being reported to the reader.
-/

namespace Colloquy

/-- What stops the program. -/
inductive Fault where
  /-- A vote would take a score beyond 64 bits. -/
  | scoreOverflow
  /-- A caret stands inside a character. -/
  | caretInsideCharacter
  /-- A position or size would exceed the 16 bits of screen coordinates. -/
  | coordinateOverflow
  deriving DecidableEq, Repr

/-- The number of values of a screen coordinate. -/
def coordinateCount : Nat := 65536

/-- A coordinate, if 16 bits hold it. -/
def coordinate (value : Nat) : Except Fault Nat :=
  if value < coordinateCount then .ok value else .error .coordinateOverflow

/-- A count cut down to the 16 bits of a coordinate. -/
def wrapCoordinate (value : Nat) : Nat :=
  value % coordinateCount

end Colloquy
