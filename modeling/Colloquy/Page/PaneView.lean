import Colloquy.Page.Pane
import Colloquy.Screen.Scrollbar

/-!
# Drawing the thread pane

The rows are drawn on a canvas as high as all of them together, and the part that the scroll
position selects is copied into the pane. A scroll bar stands beside it if the canvas is higher than
the pane. The caret is placed if the reply that has the keyboard is open and the caret's row is
shown.
-/

namespace Colloquy

/-- The reply that has the keyboard: the comment it belongs to and the caret's byte offset. -/
abbrev Focus := Option (CommentId × Nat)

/-- The caret of the reply below a comment, if it has the keyboard. -/
def Focus.caret? (focus : Focus) (id : CommentId) : Option Nat :=
  (focus.filter fun focused => focused.1 == id).map Prod.snd

namespace Pane

open Screen

/-- Draw one row in its slot of the canvas. -/
def drawRow (pane : Pane) (view : View) (focus : Focus) (canvas : Grid) (row : Row) (slot : Slot) :
    Grid :=
  let field : Area := ⟨0, slot.top, canvas.width, slot.height⟩
  match row.kind with
  | .full | .folded => row.draw canvas field (pane.selected == some slot.id)
  | .openReply =>
      match view.openReply? slot.id with
      | none => canvas
      | some openReply =>
          let x := row.boxColumn canvas.width
          ReplyPanel.draw (row.drawLines canvas field false)
            { field with x, width := canvas.width - x } openReply row.comment.author
            (focus.caret? slot.id).isSome

/-- Draw all rows in their slots. -/
def drawRows (pane : Pane) (view : View) (focus : Focus) (rows : List Row) (canvas : Grid) :
    Grid :=
  (rows.zip pane.slots).foldl
    (fun canvas placed => pane.drawRow view focus canvas placed.1 placed.2) canvas

/-- Where the caret of a row stands on the screen, if it has one and it is shown. -/
def rowCaret? (pane : Pane) (view : View) (focus : Focus) (row : Row) (slot : Slot) :
    Except Fault (Option (Nat × Nat)) :=
  if row.kind = .openReply then
    match view.openReply? slot.id, focus.caret? slot.id with
    | some openReply, some caret => do
        let width := contentWidth pane.area
        let x := row.boxColumn width
        let (column, line) ← ReplyPanel.caretPosition openReply.content caret (width - x)
        let y := slot.top + line
        return if pane.offset ≤ y && y < pane.offset + pane.area.height then
          some (pane.area.x + x + column, pane.area.y + y - pane.offset)
        else none
    | _, _ => .ok none
  else .ok none

/-- Where the caret stands on the screen, if any row shows it. -/
def findCaret (pane : Pane) (view : View) (focus : Focus) (rows : List Row) :
    Except Fault (Option (Nat × Nat)) :=
  (rows.zip pane.slots).foldlM
    (fun found placed => do
      let caret ← pane.rowCaret? view focus placed.1 placed.2
      return caret.or found)
    none

/-- What an empty pane says. -/
def placeholder (loading : Bool) : String :=
  if loading then "Loading comments..." else "No comments yet."

/-- Draw what an empty pane says in the middle of it. -/
def drawPlaceholder (grid : Grid) (area : Area) (loading : Bool) : Grid :=
  grid.drawParagraph { area with y := area.y + area.height / 2, height := 1 } (placeholder loading)
    (Style.colored .darkGray) .center .cut

/-- Draw the pane in an area. -/
def draw (pane : Pane) (grid : Grid) (area : Area) (view : View) (rows : List Row) (focus : Focus)
    (loading : Bool) : Except Fault (Pane × Grid) := do
  let placed ← pane.place area view rows
  if rows.isEmpty then
    return (placed, drawPlaceholder grid area loading)
  else
    let total := placed.contentHeight
    let canvas := placed.drawRows view focus rows (Grid.blank (contentWidth area) total)
    let caret ← placed.findCaret view focus rows
    let shown := grid.copyRows canvas { area with width := contentWidth area } placed.offset
    let bar : Scrollbar := ⟨total - area.height, placed.offset, area.height⟩
    return ({ placed with caret, pageHeight := some area.height }, shown.drawScrollbar area bar)

end Pane

end Colloquy
