import Colloquy.Page.Input
import Colloquy.Page.Layout

/-!
# Thread pane

The part of the page that shows a discussion: which comment is selected, how far the canvas is
scrolled, and what was laid out when the pane was last drawn. Clicks and moves of the selection are
answered from that layout, so they always fit what the reader sees.
-/

namespace Colloquy

/-- The state of the pane. -/
structure Pane where
  /-- The first row of the canvas that is shown. -/
  offset : Nat := 0
  /-- The height of the pane when comments were last drawn in it. -/
  pageHeight : Option Nat := none
  selected : Option CommentId := none
  /-- The layout that was last drawn. -/
  slots : List Slot := []
  /-- Where the pane was last drawn. -/
  area : Screen.Area := ⟨0, 0, 0, 0⟩
  /-- Where the caret was last drawn, if it was. -/
  caret : Option (Nat × Nat) := none
  deriving Repr, Inhabited

namespace Pane

/-- The height of the canvas. -/
def contentHeight (pane : Pane) : Nat := canvasHeight pane.slots

/-- The slots of comments. -/
def commentSlots (pane : Pane) : List Slot := pane.slots.filter Slot.isComment

/-- The slot of the selected comment, if it is shown. -/
def selection? (pane : Pane) : Option Slot := do
  let id ← pane.selected
  pane.commentSlots.find? fun slot => slot.id == id

/-- Select the first comment if the selected one is not shown. -/
def repairSelection (pane : Pane) : Pane :=
  if pane.selection?.isSome then pane
  else { pane with selected := pane.commentSlots.head?.map Slot.id }

/-- Scroll until the selected comment is shown, or as much as fits from its top. -/
def reveal (pane : Pane) : Pane :=
  match pane.selection? with
  | none => pane
  | some slot =>
      if slot.top < pane.offset then { pane with offset := slot.top }
      else if pane.offset + pane.area.height < slot.bottom then
        { pane with offset := min (slot.bottom - pane.area.height) slot.top }
      else pane

/-- Select a comment if there is one, and show it. -/
def select (pane : Pane) (slot : Option Slot) : Pane :=
  match slot with
  | some slot => { pane with selected := some slot.id }.reveal
  | none => pane

/-- Select the next comment below, or the first one if none is selected. -/
def selectBelow (pane : Pane) : Pane :=
  pane.select <|
    match pane.selection? with
    | some current => pane.commentSlots.find? fun slot => current.top < slot.top
    | none => pane.commentSlots.head?

/-- Select the next comment above, or the first one if none is selected. -/
def selectAbove (pane : Pane) : Pane :=
  pane.select <|
    match pane.selection? with
    | some current => pane.commentSlots.reverse.find? fun slot => slot.top < current.top
    | none => pane.commentSlots.head?

/-- Scroll back to the last row of the canvas if beyond it. -/
def limitOffset (pane : Pane) : Pane :=
  { pane with offset := min pane.offset (pane.contentHeight - pane.area.height) }

/-- A row further down, if coordinates reach that far. -/
def further (offset rows : Nat) : Nat :=
  min (offset + rows) (coordinateCount - 1)

/-- The height of a page; one row before anything is drawn. -/
def page (pane : Pane) : Nat := pane.pageHeight.getD 1

/-- Scroll, if the event says so. A page overlaps the one before by a row. -/
def scroll (pane : Pane) : InputEvent → Pane
  | .scrollUp => { pane with offset := pane.offset - 1 }
  | .scrollDown => { pane with offset := further pane.offset 1 }.limitOffset
  | .pageUp => { pane with offset := further pane.offset 1 - pane.page }
  | .pageDown => { pane with offset := further pane.offset pane.page - 1 }.limitOffset
  | _ => pane

/-- The width of the canvas; the last column is left to the scroll bar. -/
def contentWidth (area : Screen.Area) : Nat := area.width - 1

/-- What a click at a position of the screen means. -/
def hit? (pane : Pane) (column row : Nat) : Option Hit :=
  if pane.area.contains column row then
    hitAt? pane.slots (contentWidth pane.area) (column - pane.area.x)
      (row - pane.area.y + pane.offset)
  else none

/-- Lay out rows in an area. The selection moves to a comment that is shown, and the scroll position
back onto the canvas. -/
def place (pane : Pane) (area : Screen.Area) (view : View) (rows : List Row) :
    Except Fault Pane := do
  let slots ← view.layout (contentWidth area) rows
  let _ ← coordinate (canvasHeight slots)
  return ({ pane with area, slots, caret := none } : Pane).repairSelection.limitOffset

end Pane

end Colloquy
