import Colloquy.Screen.Grid

/-!
# Scroll bars

A vertical bar with an arrow at both ends and a thumb on the track between them, which shows the
part that is visible of something longer.
-/

namespace Colloquy.Screen

/-- A quotient rounded to the nearest number, halves upwards. -/
def roundQuotient (numerator denominator : Nat) : Nat :=
  (2 * numerator + denominator) / (2 * denominator)

/-- A scroll bar: the rows that are hidden, the rows scrolled past, and the rows shown. -/
structure Scrollbar where
  hidden : Nat
  position : Nat
  shown : Nat
  deriving DecidableEq, Repr

namespace Scrollbar

/-- Where the thumb starts on a track and how long it is. Its length is the same at every position,
and it does not leave the track. -/
def thumb (bar : Scrollbar) (track : Nat) : Nat × Nat :=
  let last := bar.hidden - 1
  let reach := last + bar.shown
  let length := max (min (roundQuotient (bar.shown * track) reach) track) 1
  (min (roundQuotient (min bar.position last * track) reach) (track - length), length)

/-- The symbol at a row of a bar of the given height. -/
def symbol (bar : Scrollbar) (height row : Nat) : String :=
  let (first, length) := bar.thumb (height - 2)
  if row = 0 then "▲"
  else if row = height - 1 then "▼"
  else if first ≤ row - 1 && row - 1 < first + length then "█"
  else "║"

end Scrollbar

namespace Grid

/-- Draw a scroll bar in the last column of a rectangle, if it has room for a track. -/
def drawScrollbar (grid : Grid) (area : Area) (bar : Scrollbar) : Grid :=
  if bar.hidden = 0 || area.height ≤ 2 then grid
  else
    (List.range area.height).foldl
      (fun grid row =>
        grid.modify (area.right - 1) (area.y + row) fun cell =>
          cell.put (bar.symbol area.height row) Style.plain)
      grid

/-- Copy a part of another grid, from its left edge and a row on, into a rectangle. -/
def copyRows (grid source : Grid) (area : Area) (start : Nat) : Grid :=
  (List.range (min area.height (source.height - start))).foldl
    (fun grid row =>
      (List.range (min area.width source.width)).foldl
        (fun grid column =>
          let cell := source.cell column (start + row)
          grid.modify (area.x + column) (area.y + row) fun _ => cell)
        grid)
    grid

end Grid

end Colloquy.Screen
