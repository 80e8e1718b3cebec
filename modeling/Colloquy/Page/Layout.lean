import Colloquy.Page.DrawnComment
import Colloquy.Page.ReplyPanel

/-!
# Layout

Where every row of a discussion stands on the canvas that is scrolled: one slot below the other from
the top. A point of the canvas belongs to one slot, and what a click there means is decided from the
slot and the slots above it.
-/

namespace Colloquy

/-- Where a row stands on the canvas. -/
structure Slot where
  id : CommentId
  kind : RowKind
  depth : Nat
  top : Nat
  height : Nat
  score : Int64
  deriving DecidableEq, Repr, Inhabited

namespace Slot

/-- The row of the canvas below the slot. -/
def bottom (slot : Slot) : Nat := slot.top + slot.height

/-- Whether the slot shows a comment and not a reply under way. -/
def isComment (slot : Slot) : Bool := slot.kind != .openReply

end Slot

/-- The first column of a reply box. -/
def Row.boxColumn (row : Row) (width : Nat) : Nat := textColumn row.depth width

/-- The height of a row on a canvas of the given width. -/
def View.rowHeight (view : View) (width : Nat) (row : Row) : Except Fault Nat :=
  match row.kind with
  | .openReply =>
      let content := ((view.openReply? row.id).map OpenReply.content).getD ""
      ReplyPanel.height content (width - row.boxColumn width)
  | .full | .folded => row.height width

/-- Give every row a slot, the first one at the given row of the canvas. Coordinates stop at the
greatest one there is. -/
def View.slotsFrom (view : View) (width : Nat) : Nat → List Row → Except Fault (List Slot)
  | _, [] => .ok []
  | top, row :: rest => do
      let height ← view.rowHeight width row
      let below ← view.slotsFrom width (min (top + height) (coordinateCount - 1)) rest
      return ⟨row.id, row.kind, row.depth, top, height, row.score⟩ :: below

/-- The slots of rows on a canvas of the given width. -/
def View.layout (view : View) (width : Nat) (rows : List Row) : Except Fault (List Slot) :=
  view.slotsFrom width 0 rows

/-- The height of a canvas. -/
def canvasHeight (slots : List Slot) : Nat :=
  (slots.getLast?.map Slot.bottom).getD 0

/-- What a click means. -/
inductive Hit where
  /-- On the thread line of a comment. -/
  | threadLine (id : CommentId)
  /-- On a folded comment. -/
  | unfold (id : CommentId)
  | vote (id : CommentId) (vote : Vote)
  | reply (id : CommentId)
  /-- In the box of a reply to a comment. -/
  | openReply (id : CommentId)
  /-- Elsewhere on a comment. -/
  | comment (id : CommentId)
  deriving DecidableEq, Repr, Inhabited

/-- Find the slot at a row of the canvas. The slots above it come with it, nearest first and the
slot itself in front; those that are given are above the ones to search. -/
def slotAtFrom? (y : Nat) : List Slot → List Slot → Option (Slot × List Slot)
  | _, [] => none
  | above, slot :: below =>
      if slot.bottom ≤ y then slotAtFrom? y (slot :: above) below
      else if y < slot.top then none
      else some (slot, slot :: above)

/-- The slot at a row of the canvas, with itself and the slots above it, nearest first. -/
def slotAt? (slots : List Slot) (y : Nat) : Option (Slot × List Slot) :=
  slotAtFrom? y [] slots

/-- The comment whose thread line runs through a slot at a level, found from the slot and those
above it. -/
def lineOwner? (upwards : List Slot) (level : Nat) : Option CommentId :=
  (upwards.find? fun slot => slot.kind == .full && slot.depth == level).map Slot.id

namespace Slot

/-- What a click on the bar means, in columns from its start. -/
def barHit? (slot : Slot) (column : Nat) : Option Hit :=
  let bar := Controls.ofScore slot.score
  if column = bar.upvote then some (.vote slot.id .up)
  else if column = bar.downvote then some (.vote slot.id .down)
  else if bar.reply ≤ column && column < Text.width bar.text then some (.reply slot.id)
  else none

/-- What a click on a slot beside the thread lines of the ancestors means, by the row within the
slot and the column of the canvas. -/
def ownHit (slot : Slot) (levels line x : Nat) : Hit :=
  match slot.kind with
  | .folded => .unfold slot.id
  | .openReply => if x / threadIndent = levels then .threadLine slot.id else .openReply slot.id
  | .full =>
      if line = 0 then .comment slot.id
      else if x / threadIndent = levels then .threadLine slot.id
      else if line = slot.height - 1 then
        (slot.barHit? (x - (levels + 1) * threadIndent)).getD (.comment slot.id)
      else .comment slot.id

end Slot

/-- What a click at a point of a canvas of the given width means. -/
def hitAt? (slots : List Slot) (width x y : Nat) : Option Hit := do
  let (slot, upwards) ← slotAt? slots y
  let levels := lineLevels slot.depth width
  let column := x / threadIndent
  if column < levels then
    (lineOwner? upwards (slot.depth - levels + column)).map .threadLine
  else some (slot.ownHit levels (y - slot.top) x)

end Colloquy
