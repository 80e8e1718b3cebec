import Colloquy.Proofs.Page.CaretBox
import Colloquy.Proofs.Page.Scrolling

/-!
# Tilings of the canvas

The slots of a layout tile the canvas from its first row on, and a pane is then asked for nothing that
has no coordinate. Both hold exactly of rows whose lines together are fewer than the coordinates. The
tops of the slots are kept to coordinates, but nothing keeps their bottoms there: a reply that is long
enough stops the program.
-/

namespace Colloquy

/-- Slots stand one below the other, the first one at a line of the canvas. -/
def TilesFrom : Nat → List Slot → Prop
  | _, [] => True
  | line, slot :: below => slot.top = line ∧ TilesFrom slot.bottom below

namespace View

variable (view : View) (width : Nat)

theorem tilesFrom_stack (line : Nat) (rows : List Row) :
    TilesFrom line (view.stack width line rows) := by
  induction rows generalizing line with
  | nil => exact trivial
  | cons row rest ih => exact ⟨rfl, ih _⟩

theorem height_pos_of_mem_stack {line : Nat} {rows : List Row} {slot : Slot}
    (member : slot ∈ view.stack width line rows) : 0 < slot.height := by
  induction rows generalizing line with
  | nil => contradiction
  | cons row rest ih =>
      rcases List.mem_cons.mp member with rfl | below
      · exact view.lineCount_pos width row
      · exact ih below

end View

namespace Pane

variable {pane placed : Pane}

/-- Everything that is computed for a pane between two drawings is a coordinate. -/
structure HasRoom (pane : Pane) : Prop where
  /-- The canvas ends at a coordinate. -/
  canvas : pane.contentHeight < coordinateCount
  /-- Every slot ends at a coordinate, and it has a last row. -/
  slots : ∀ slot ∈ pane.slots, slot.bottom < coordinateCount ∧ 0 < slot.height
  /-- The text of a slot starts in the pane, if the pane has room for a single thread line. -/
  columns : ∀ slot ∈ pane.slots,
    textColumn slot.depth (contentWidth pane.area) ≤ max (contentWidth pane.area) threadIndent
  /-- The pane ends with the canvas, unless it is the higher one of the two. -/
  viewport : pane.offset + pane.area.height ≤ max pane.contentHeight pane.area.height
  /-- A position in the pane is a line of the canvas, unless the pane is the higher one. -/
  points : ∀ column row, pane.area.contains column row →
    row - pane.area.y + pane.offset < max pane.contentHeight pane.area.height

/-- What becomes of a pane that was placed, as its selection moves and its scroll position is put
right. -/
inductive Browsed (placed : Pane) : Pane → Prop where
  | unmoved : Browsed placed placed
  | limited {pane : Pane} (earlier : Browsed placed pane) : Browsed placed pane.limitOffset
  | lowered {pane : Pane} (earlier : Browsed placed pane) : Browsed placed pane.selectBelow
  | raised {pane : Pane} (earlier : Browsed placed pane) : Browsed placed pane.selectAbove

theorem Browsed.exists_eq (browsed : Browsed placed pane) :
    ∃ selected offset, pane = { placed with selected, offset } := by
  induction browsed with
  | unmoved => exact ⟨placed.selected, placed.offset, rfl⟩
  | limited _ ih =>
      obtain ⟨selected, offset, rfl⟩ := ih
      exact ⟨selected, _, rfl⟩
  | lowered _ ih =>
      obtain ⟨selected, offset, rfl⟩ := ih
      rw [selectBelow_eq]
      exact exists_select { placed with selected, offset } _
  | raised _ ih =>
      obtain ⟨selected, offset, rfl⟩ := ih
      rw [selectAbove_eq]
      exact exists_select { placed with selected, offset } _

theorem Browsed.encloses (browsed : Browsed placed pane) (encloses : placed.Encloses) :
    pane.Encloses := by
  obtain ⟨selected, offset, rfl⟩ := browsed.exists_eq
  exact encloses

theorem Browsed.inBounds (browsed : Browsed placed pane) (encloses : placed.Encloses)
    (bounded : placed.InBounds) : pane.InBounds := by
  induction browsed with
  | unmoved => exact bounded
  | limited => exact inBounds_limitOffset _
  | lowered earlier ih => exact ih.select (earlier.encloses encloses) _
  | raised earlier ih => exact ih.select (earlier.encloses encloses) _

theorem textColumn_le (depth width : Nat) : textColumn depth width ≤ max width threadIndent := by
  simp only [textColumn, lineLevels, threadIndent]
  omega

/-- A pane that shows a part of a canvas of coordinates has room. -/
theorem hasRoom_of_encloses (canvas : pane.contentHeight < coordinateCount)
    (encloses : pane.Encloses) (bounded : pane.InBounds)
    (filled : ∀ slot ∈ pane.slots, 0 < slot.height) : pane.HasRoom := by
  have start : pane.offset ≤ pane.contentHeight - pane.area.height := bounded
  refine ⟨canvas, ?_, fun slot _ => textColumn_le _ _, by omega, ?_⟩
  · intro slot member
    exact ⟨Nat.lt_of_le_of_lt (encloses slot member) canvas, filled slot member⟩
  · intro column row inside
    have last : pane.area.bottom = pane.area.y + pane.area.height := rfl
    simp only [Screen.Area.contains, Bool.and_eq_true, decide_eq_true_eq] at inside
    omega

/-- Rows are placed exactly if all their lines together are fewer than the coordinates. Their slots
then tile the canvas from its first row to its last, and whatever the pane is asked for next, there
are coordinates for it. -/
theorem place_tiles_or_overflows (pane : Pane) (area : Screen.Area) (view : View)
    (rows : List Row) :
    (view.totalLines (contentWidth area) rows < coordinateCount →
      ∃ placed, pane.place area view rows = .ok placed ∧
        placed.slots = view.stack (contentWidth area) 0 rows ∧ TilesFrom 0 placed.slots ∧
        placed.contentHeight = view.totalLines (contentWidth area) rows ∧
        ∀ browsed, Browsed placed browsed → browsed.slots = placed.slots ∧ browsed.HasRoom) ∧
    (coordinateCount ≤ view.totalLines (contentWidth area) rows →
      pane.place area view rows = .error .coordinateOverflow) := by
  refine ⟨fun fits => ?_, pane.place_eq_error⟩
  obtain ⟨placed, laid, placedIn, stacked⟩ := pane.exists_place fits
  have high : placed.contentHeight = view.totalLines (contentWidth area) rows := by
    rw [contentHeight, stacked, view.canvasHeight_stack]
  refine ⟨placed, laid, stacked, ?_, high, fun browsed moved => ?_⟩
  · rw [stacked]
    exact view.tilesFrom_stack _ 0 rows
  · have encloses := encloses_of_place laid
    obtain ⟨selected, offset, same⟩ := moved.exists_eq
    have unchanged : browsed.slots = placed.slots := by rw [same]
    have canvas : browsed.contentHeight < coordinateCount := by
      rw [contentHeight, unchanged, ← contentHeight, high]
      exact fits
    have filled : ∀ slot ∈ browsed.slots, 0 < slot.height := by
      intro slot member
      rw [unchanged, stacked] at member
      exact view.height_pos_of_mem_stack _ member
    exact ⟨unchanged, hasRoom_of_encloses canvas (moved.encloses encloses)
      (moved.inBounds encloses (inBounds_of_place laid)) filled⟩

/-! ## A long reply -/

/-- A comment that takes three lines. -/
def remark : Comment := ⟨1, "ada", "One", "", 0, false⟩

/-- The comment is answered by nothing but line feeds. -/
def lineFeedsBelow (count : Nat) : View :=
  let reply : OpenReply := { parent := 1, content := String.ofList (List.replicate count '\n') }
  ({} : View).put 1 { NodeState.mount remark with openReply := some reply }

theorem rows_lineFeedsBelow (count : Nat) :
    (lineFeedsBelow count).rows ⟨[⟨remark, []⟩]⟩ =
      [⟨remark, 0, .full, 0⟩, ⟨remark, 0, .openReply, 0⟩] := rfl

theorem lineCount_lineFeedsBelow {count : Nat} (fits : count + 1 < coordinateCount) :
    (lineFeedsBelow count).lineCount 19 ⟨remark, 0, .full, 0⟩ = 3 ∧
      (lineFeedsBelow count).lineCount 19 ⟨remark, 0, .openReply, 0⟩ = count + 3 := by
  constructor
  · have body : (⟨remark, 0, .full, 0⟩ : Row).wrappedBody 19 = ["One"] := by decide +kernel
    rw [View.lineCount, body]
    rfl
  · have text : (String.ofList (List.replicate count '\n')).toList = List.replicate count '\n' :=
      String.toList_ofList
    have lines : (Text.Wrap.wrap 15 (List.replicate count '\n')).length = count + 1 := by
      rw [Text.Wrap.wrap_lineFeeds, List.length_replicate]
    change ReplyPanel.lineCount (String.ofList (List.replicate count '\n')).toList 15 + 2 = count + 3
    rw [text, ReplyPanel.lineCount_eq_length (by decide) (by omega), lines]

/-- The comment and the reply below it have room as rows of their own, but not together. -/
theorem place_lineFeedsBelow :
    ((lineFeedsBelow 65530).rows ⟨[⟨remark, []⟩]⟩).map ((lineFeedsBelow 65530).rowHeight 19) =
        [.ok 3, .ok 65533] ∧
      ({} : Pane).place ⟨0, 1, 20, 6⟩ (lineFeedsBelow 65530)
          ((lineFeedsBelow 65530).rows ⟨[⟨remark, []⟩]⟩) = .error .coordinateOverflow := by
  have fits : 65530 + 1 < coordinateCount := by decide
  obtain ⟨own, below⟩ := lineCount_lineFeedsBelow fits
  constructor
  · rw [rows_lineFeedsBelow, List.map_cons, List.map_singleton, View.rowHeight_eq,
      View.rowHeight_eq, own, below]
    decide
  · have exceeds : coordinateCount ≤ (lineFeedsBelow 65530).totalLines 19
        ((lineFeedsBelow 65530).rows ⟨[⟨remark, []⟩]⟩) := by
      rw [rows_lineFeedsBelow, View.totalLines_cons, View.totalLines_cons, own, below]
      decide
    exact place_eq_error _ exceeds

end Pane

end Colloquy
