import Colloquy.Proofs.Page.Clicks
import Colloquy.Proofs.Page.DrawnRows

/-!
# Clicks mean what is drawn

The place of every control and thread line is worked out twice: when a row is drawn, and when a click
is looked up. Both come to the same cells, and the finished canvas still shows there what the row
drew.
-/

namespace Colloquy

open Screen

/-! ## What a click means within a slot -/

/-- A click on a control of the bar. -/
def Hit.isControl : Hit → Bool
  | vote _ _ | reply _ => true
  | threadLine _ | unfold _ | openReply _ | comment _ => false

namespace Slot

variable (slot : Slot)

theorem isControl_of_barHit? {column : Nat} {hit : Hit} (found : slot.barHit? column = some hit) :
    hit.isControl = true := by
  unfold barHit? at found
  grind [Hit.isControl]

/-- A control is hit in the last line of a full row, right of all thread lines. -/
theorem ownHit_eq_control_iff {hit : Hit} (control : hit.isControl = true) (levels line x : Nat) :
    slot.ownHit levels line x = hit ↔
      slot.kind = .full ∧ line ≠ 0 ∧ x / threadIndent ≠ levels ∧ line = slot.height - 1 ∧
        slot.barHit? (x - (levels + 1) * threadIndent) = some hit := by
  have apart : ∀ {other : Hit}, other.isControl = false → other ≠ hit := by
    rintro other none rfl
    simp [none] at control
  have comment : Hit.comment slot.id ≠ hit := apart rfl
  have thread : Hit.threadLine slot.id ≠ hit := apart rfl
  have unfold : Hit.unfold slot.id ≠ hit := apart rfl
  have reply : Hit.openReply slot.id ≠ hit := apart rfl
  cases kind : slot.kind with
  | folded => simp [ownHit, kind, unfold]
  | openReply =>
      by_cases own : x / threadIndent = levels
      · simp [ownHit, kind, own, thread]
      · simp [ownHit, kind, own, reply]
  | full =>
      by_cases header : line = 0
      · simp [ownHit, kind, header, comment]
      · by_cases own : x / threadIndent = levels
        · simp [ownHit, kind, header, own, thread]
        · by_cases last : line = slot.height - 1
          · have below : slot.height - 1 ≠ 0 := last ▸ header
            cases found : slot.barHit? (x - (levels + 1) * threadIndent) with
            | none => simp [ownHit, kind, own, last, below, found, comment]
            | some other => simp [ownHit, kind, own, last, below, found]
          · simp [ownHit, kind, header, own, last, comment]

/-- A thread line is hit where the line of the slot's own comment is. -/
theorem ownHit_eq_threadLine_iff (levels line x : Nat) :
    (∃ owner, slot.ownHit levels line x = .threadLine owner) ↔
      (slot.kind = .openReply ∨ slot.kind = .full ∧ line ≠ 0) ∧ x / threadIndent = levels := by
  cases kind : slot.kind with
  | folded => simp [ownHit, kind]
  | openReply =>
      by_cases own : x / threadIndent = levels
      · simp [ownHit, kind, own]
      · simp [ownHit, kind, own]
  | full =>
      by_cases header : line = 0
      · simp [ownHit, kind, header]
      · by_cases own : x / threadIndent = levels
        · simp [ownHit, kind, header, own]
        · have bar : ∀ owner, (slot.barHit? (x - (levels + 1) * threadIndent)).getD
              (.comment slot.id) ≠ .threadLine owner := by
            intro owner
            cases found : slot.barHit? (x - (levels + 1) * threadIndent) with
            | none => simp
            | some hit =>
                have control := slot.isControl_of_barHit? found
                rintro rfl
                simp [Hit.isControl] at control
          by_cases last : line = slot.height - 1
          · have below : slot.height - 1 ≠ 0 := last ▸ header
            simp [ownHit, kind, own, last, below, bar]
          · simp [ownHit, kind, header, own, last]

end Slot

namespace View

variable (view : View) {width : Nat} {front back : List Row} {row : Row} {y : Nat}

/-- A control is hit on the line of the bar, right of all thread lines. -/
theorem hitAt?_eq_control_iff (reached : view.totalLines width front ≤ y)
    (within : y < view.totalLines width front + view.lineCount width row) {hit : Hit}
    (control : hit.isControl = true) (x : Nat) :
    hitAt? (view.stack width 0 (front ++ row :: back)) width x y = some hit ↔
      row.kind = .full ∧
        y = view.totalLines width front + 1 + wrapCoordinate (row.wrappedBody width).length ∧
        textColumn row.depth width ≤ x ∧
        (view.slotAt width (view.totalLines width front) row).barHit?
          (x - textColumn row.depth width) = some hit := by
  rw [view.hitAt?_stack reached within]
  split
  next left =>
    refine iff_of_false ?_ ?_
    · intro found
      obtain ⟨guide, -, rfl⟩ := Option.map_eq_some_iff.mp found
      contradiction
    · rintro ⟨-, -, right, -⟩
      simp only [textColumn, threadIndent] at left right
      omega
  next right =>
    rw [Option.some.injEq, Slot.ownHit_eq_control_iff _ control]
    refine and_congr_right fun kind => ?_
    have full : row.kind = .full := kind
    have height : (view.slotAt width (view.totalLines width front) row).height =
        1 + wrapCoordinate (row.wrappedBody width).length + 1 := by
      simp only [slotAt, lineCount, full]
    rw [height]
    constructor
    · rintro ⟨below, beside, last, found⟩
      refine ⟨by omega, ?_, found⟩
      simp only [textColumn, threadIndent] at right beside ⊢
      omega
    · rintro ⟨onBar, beside, found⟩
      refine ⟨by omega, ?_, by omega, found⟩
      simp only [textColumn, threadIndent] at beside ⊢
      omega

/-- A thread line is hit wherever one runs: those of the comments above, and the row's own. -/
theorem hitAt?_eq_threadLine_iff {discussion : Discussion}
    (split : view.rows discussion = front ++ row :: back)
    (reached : view.totalLines width front ≤ y)
    (within : y < view.totalLines width front + view.lineCount width row) (x : Nat) :
    (∃ owner, hitAt? (view.stack width 0 (front ++ row :: back)) width x y =
        some (.threadLine owner)) ↔
      x / threadIndent < lineLevels row.depth width ∨
        row.hasOwnLine (y - view.totalLines width front) = true ∧
          x / threadIndent = lineLevels row.depth width := by
  rw [view.hitAt?_stack reached within]
  split
  next left =>
    obtain ⟨lineage, -, -, depth, leads⟩ := view.exists_lineage_of_split split
    have levels : lineLevels row.depth width ≤ row.depth := Nat.min_le_left _ _
    have higher : row.depth - lineLevels row.depth width + x / threadIndent <
        lineage.above.length := by omega
    obtain ⟨guide, -, -, found, -, -⟩ := leads.exists_guide higher
    exact iff_of_true ⟨guide.id, by rw [found]; rfl⟩ (.inl left)
  next right =>
    simp only [Option.some.injEq, Slot.ownHit_eq_threadLine_iff, right, false_or, row.hasOwnLine_iff]
    rfl

end View

/-! ## What is drawn within a slot -/

namespace Row

variable (row : Row)

/-- In a field that starts at the left edge the column of a thread line tells its level. -/
theorem lineRegion_iff {top width height x y : Nat} (reached : top ≤ y) (within : y < top + height)
    (even : x % threadIndent = 0) :
    row.lineRegion ⟨0, top, width, height⟩ x y ↔
      x / threadIndent < lineLevels row.depth width ∨
        row.hasOwnLine (y - top) = true ∧ x / threadIndent = lineLevels row.depth width := by
  constructor
  · rintro ⟨-, -, level, shown, rfl⟩
    rwa [Nat.zero_add, Nat.mul_div_cancel _ (by decide)]
  · intro shown
    refine ⟨reached, within, x / threadIndent, shown, ?_⟩
    rw [Nat.zero_add, Nat.div_mul_cancel (Nat.dvd_of_mod_eq_zero even)]

/-- What the thread lines of a row show on an empty canvas. -/
theorem content_drawLines_blank {area : Area} {width height x y : Nat} (wide : 0 < area.width)
    (high : 0 < area.height) (selected : Bool) (inWidth : x < width) (inHeight : y < height)
    {symbol : String} :
    ((row.drawLines (Grid.blank width height) area selected).cell x y).content = some symbol ↔
      row.lineRegion area x y ∧ symbol = threadLineSymbol := by
  have lines := row.stamps_drawLines (Grid.blank width height) wide high selected
  by_cases line : row.lineRegion area x y
  · rw [lines.inside (Grid.full_blank width height) x y line inWidth inHeight]
    simp [line, eq_comm]
  · rw [lines.outside x y line, Grid.cell_blank]
    simp [line, Cell.blank]

/-- What the bar of a row shows on an empty canvas. -/
theorem content_drawBar_blank {area : Area} {width height x y : Nat} (inWidth : x < width)
    (inHeight : y < height) (inside : x < area.right) :
    ((row.drawBar (Grid.blank width height) area).cell x y).content =
      (row.barCharacter? area x y).map fun character => String.ofList [character] := by
  rw [row.content_drawBar (Grid.full_blank width height) inWidth inHeight inside, Grid.cell_blank]
  exact Option.or_none

end Row

/-! ## The finished canvas -/

namespace View

variable (view : View) {width : Nat}

theorem opened_of_mem_rows {discussion : Discussion} {row : Row}
    (member : row ∈ view.rows discussion) (kind : row.kind = .openReply) :
    (view.openReply? row.id).isSome := by
  rw [rows_eq_flatMap] at member
  obtain ⟨lineage, -, own⟩ := List.mem_flatMap.mp member
  obtain ⟨shown, listed, rfl⟩ := List.mem_map.mp own
  obtain rfl : shown = .openReply := kind
  unfold Lineage.kinds at listed
  split at listed
  · simp at listed
  · split at listed
    next opened => exact opened
    next => simp at listed

theorem split_of_mem_zip {top : Nat} {rows : List Row} {row : Row} {slot : Slot}
    (member : (row, slot) ∈ rows.zip (view.stack width top rows)) :
    ∃ front back, rows = front ++ row :: back ∧
      slot = view.slotAt width (top + view.totalLines width front) row := by
  induction rows generalizing top with
  | nil => simp [stack] at member
  | cons first rest ih =>
      rcases List.mem_cons.mp member with here | below
      · obtain ⟨rfl, rfl⟩ := Prod.mk.inj here
        exact ⟨[], rest, rfl, rfl⟩
      · obtain ⟨front, back, rfl, rfl⟩ := ih below
        exact ⟨first :: front, back, rfl, by rw [totalLines_cons, Nat.add_assoc]⟩

theorem length_stack (top : Nat) (rows : List Row) :
    (view.stack width top rows).length = rows.length := by
  induction rows generalizing top with
  | nil => rfl
  | cons row rest ih => simp [stack, ih]

end View

namespace Pane

variable (pane : Pane) (view : View) (focus : Focus)

/-- Rows that are stacked are drawn between the first line and the last. -/
theorem changes_drawStack {rows : List Row}
    (opened : ∀ row ∈ rows, row.kind = .openReply → (view.openReply? row.id).isSome)
    (width top : Nat) {canvas : Grid} (wide : 0 < canvas.width) :
    ChangesWithin (.band 0 top (top + view.totalLines width rows)) canvas
      ((rows.zip (view.stack width top rows)).foldl
        (fun canvas placed => pane.drawRow view focus canvas placed.1 placed.2) canvas) := by
  induction rows generalizing top canvas with
  | nil => exact .refl _ canvas
  | cons row rest ih =>
      obtain ⟨first, others⟩ := List.forall_mem_cons.mp opened
      have drawn := pane.changes_drawRow view focus canvas row (view.slotAt width top row) wide
        (view.lineCount_pos width row) first
      refine (drawn.mono ?_).trans ((ih others _ (drawn.width ▸ wide)).mono ?_)
      · rintro x y ⟨right, above, below⟩
        change y < top + view.lineCount width row at below
        rw [View.totalLines_cons]
        exact ⟨right, above, by omega⟩
      · rintro x y ⟨right, above, below⟩
        rw [View.totalLines_cons]
        exact ⟨right, by omega, by omega⟩

variable {pane} {width : Nat} {front back : List Row} {row : Row}

/-- What a row draws in its slot is what the finished canvas shows there. -/
theorem exists_canvas (stacked : pane.slots = view.stack width 0 (front ++ row :: back))
    (opened : ∀ other ∈ front ++ row :: back, other.kind = .openReply →
      (view.openReply? other.id).isSome) (wide : 0 < width) (height : Nat) :
    ∃ canvas : Grid, canvas.Full ∧ canvas.width = width ∧ canvas.height = height ∧
      ∀ x y, y < view.totalLines width front + view.lineCount width row →
        (pane.drawRows view focus (front ++ row :: back) (Grid.blank width height)).cell x y =
          (pane.drawRow view focus canvas row
            (view.slotAt width (view.totalLines width front) row)).cell x y := by
  obtain ⟨openedFront, rest⟩ := List.forall_mem_append.mp opened
  obtain ⟨openedRow, openedBack⟩ := List.forall_mem_cons.mp rest
  have wideBlank : 0 < (Grid.blank width height).width := wide
  have first := pane.changes_drawStack view focus openedFront width 0 wideBlank
  refine ⟨_, first.full (Grid.full_blank width height), first.width, first.height,
    fun x y within => ?_⟩
  have own := pane.changes_drawRow view focus _ row
    (view.slotAt width (view.totalLines width front) row) (first.width ▸ wideBlank)
    (view.lineCount_pos width row) openedRow
  have later := pane.changes_drawStack view focus openedBack width
    (view.totalLines width front + view.lineCount width row) (own.width ▸ first.width ▸ wideBlank)
  rw [drawRows, stacked, view.stack_append, Nat.zero_add, View.stack,
    List.zip_append (view.length_stack 0 front).symm, List.foldl_append]
  apply later.outside x y
  rintro ⟨-, below, -⟩
  omega

end Pane

/-! ## Both together -/

/-- What the bar of a row shows in a cell of the row's slot on a canvas. Only a full row draws a
bar. -/
def Row.barSymbol? (row : Row) (canvas : Grid) (slot : Slot) (x y : Nat) : Option String :=
  if row.kind = .full then ((row.drawBar canvas (Pane.field canvas slot)).cell x y).content else none

/-- What the thread lines of a row show in a cell of the row's slot on a canvas. -/
def Row.threadSymbol? (row : Row) (canvas : Grid) (slot : Slot) (selected : Bool) (x y : Nat) :
    Option String :=
  ((row.drawLines canvas (Pane.field canvas slot) selected).cell x y).content

/-- A click on a cell means what is drawn in the cell. The click is given by its meaning, the comment
whose slot it falls on, and its column; the drawing by what the bar, the thread lines and the
finished canvas show. -/
structure Matches (hit : Option Hit) (id : CommentId) (column : Nat)
    (bar line canvas : Option String) : Prop where
  upvote : hit = some (.vote id .up) ↔ bar = some "▲"
  downvote : hit = some (.vote id .down) ↔ bar = some "▼"
  reply : hit = some (.reply id) ↔
    ∃ letter ∈ "Reply".toList, bar = some (String.ofList [letter])
  /-- No control of another comment is hit. -/
  own : ∀ control, hit = some control → control.isControl = true → control.id = id
  /-- A click on either column of a thread line counts, and the line is drawn in the first. -/
  thread : column % threadIndent = 0 →
    ((∃ owner, hit = some (.threadLine owner)) ↔ line = some threadLineSymbol)
  /-- Nothing is drawn over the bar and the thread lines. -/
  seen : ∀ symbol, bar = some symbol ∨ line = some symbol → canvas = some symbol

namespace View

variable (view : View) {width height : Nat} {front back : List Row} {row : Row} {x y : Nat}

theorem barSymbol?_eq_some_iff (inWidth : x < width) (inHeight : y < height)
    (within : y < view.totalLines width front + view.lineCount width row) {character : Char} :
    row.barSymbol? (Grid.blank width height)
        (view.slotAt width (view.totalLines width front) row) x y =
          some (String.ofList [character]) ↔
      row.kind = .full ∧
        y = view.totalLines width front + 1 + wrapCoordinate (row.wrappedBody width).length ∧
        textColumn row.depth width ≤ x ∧
        (view.slotAt width (view.totalLines width front) row).barCharacter?
          (x - textColumn row.depth width) = some character := by
  let slot := view.slotAt width (view.totalLines width front) row
  let field := Pane.field (Grid.blank width height) slot
  have right : x < field.right := by
    change x < 0 + width
    omega
  have place : row.barCharacter? field x y = some character ↔
      y = view.totalLines width front + 1 + wrapCoordinate (row.wrappedBody width).length ∧
        textColumn row.depth width ≤ x ∧
        slot.barCharacter? (x - textColumn row.depth width) = some character := by
    have start : field.x + textColumn row.depth field.width = textColumn row.depth width :=
      Nat.zero_add _
    have bottom : y < field.bottom := within
    rw [Row.barCharacter?, Option.ite_none_right_eq_some, start]
    simp only [bottom, true_and, and_assoc]
    rfl
  rw [Row.barSymbol?]
  by_cases kind : row.kind = .full
  · rw [if_pos kind, row.content_drawBar_blank inWidth inHeight right, ← place]
    simp [kind]
  · simp [kind]

/-- A control is hit exactly where the bar shows its character. -/
theorem hitAt?_eq_some_iff_barSymbol? (inWidth : x < width) (inHeight : y < height)
    (reached : view.totalLines width front ≤ y)
    (within : y < view.totalLines width front + view.lineCount width row) {hit : Hit}
    (control : hit.isControl = true) {characters : List Char}
    (drawn : ∀ column, (view.slotAt width (view.totalLines width front) row).barHit? column =
        some hit ↔
      ∃ character ∈ characters, (view.slotAt width (view.totalLines width front) row).barCharacter?
        column = some character) :
    hitAt? (view.stack width 0 (front ++ row :: back)) width x y = some hit ↔
      ∃ character ∈ characters, row.barSymbol? (Grid.blank width height)
        (view.slotAt width (view.totalLines width front) row) x y =
          some (String.ofList [character]) := by
  rw [view.hitAt?_eq_control_iff reached within control, drawn]
  simp only [view.barSymbol?_eq_some_iff inWidth inHeight within]
  constructor
  · rintro ⟨kind, onBar, right, character, listed, written⟩
    exact ⟨character, listed, kind, onBar, right, written⟩
  · rintro ⟨character, listed, kind, onBar, right, written⟩
    exact ⟨kind, onBar, right, character, listed, written⟩

/-- The lines of the comments above run through all of a slot, and the slot's own line through all
lines but a header. -/
theorem threadSymbol?_eq_some_iff (inWidth : x < width) (inHeight : y < height)
    (reached : view.totalLines width front ≤ y)
    (within : y < view.totalLines width front + view.lineCount width row) (selected : Bool)
    (even : x % threadIndent = 0) :
    row.threadSymbol? (Grid.blank width height)
        (view.slotAt width (view.totalLines width front) row) selected x y =
          some threadLineSymbol ↔
      x / threadIndent < lineLevels row.depth width ∨
        row.hasOwnLine (y - view.totalLines width front) = true ∧
          x / threadIndent = lineLevels row.depth width := by
  have wide : 0 < width := Nat.zero_lt_of_lt inWidth
  have drawn := @Row.content_drawLines_blank row
    (Pane.field (Grid.blank width height) (view.slotAt width (view.totalLines width front) row))
    width height x y wide (view.lineCount_pos width row) selected inWidth inHeight threadLineSymbol
  rw [Row.threadSymbol?, drawn, and_iff_left rfl]
  exact row.lineRegion_iff reached within even

end View

namespace Pane

variable {pane : Pane} {view : View} {width height x y : Nat} {front back : List Row} {row : Row}

/-- What the bar and the thread lines of a row show by themselves can be seen on the finished
canvas. -/
theorem content_drawRows {discussion : Discussion} (focus : Focus)
    (split : view.rows discussion = front ++ row :: back)
    (stacked : pane.slots = view.stack width 0 (front ++ row :: back)) (inWidth : x < width)
    (inHeight : y < height)
    (within : y < view.totalLines width front + view.lineCount width row) (selected : Bool)
    {symbol : String}
    (shown : row.barSymbol? (Grid.blank width height)
          (view.slotAt width (view.totalLines width front) row) x y = some symbol ∨
        row.threadSymbol? (Grid.blank width height)
          (view.slotAt width (view.totalLines width front) row) selected x y = some symbol) :
    ((pane.drawRows view focus (front ++ row :: back) (Grid.blank width height)).cell x y).content =
      some symbol := by
  have wide : 0 < width := Nat.zero_lt_of_lt inWidth
  have high := view.lineCount_pos width row
  have opened : ∀ other ∈ front ++ row :: back, other.kind = .openReply →
      (view.openReply? other.id).isSome := fun other member =>
    view.opened_of_mem_rows (split ▸ member)
  obtain ⟨canvas, full, sameWidth, sameHeight, finished⟩ :=
    exists_canvas view focus stacked opened wide height
  let slot := view.slotAt width (view.totalLines width front) row
  have field : field canvas slot = Pane.field (Grid.blank width height) slot := by
    rw [Pane.field, Pane.field, sameWidth]
    rfl
  rw [finished x y within]
  rcases shown with bar | thread
  · obtain ⟨kind, shown⟩ := Option.ite_none_right_eq_some.mp bar
    have right : x < (Pane.field (Grid.blank width height) slot).right := by
      change x < 0 + width
      omega
    rw [row.content_drawBar_blank inWidth inHeight right, Option.map_eq_some_iff] at shown
    obtain ⟨character, place, rfl⟩ := shown
    exact content_bar full kind high (sameWidth ▸ inWidth) (sameHeight ▸ inHeight) (field ▸ place)
  · obtain ⟨line, rfl⟩ := (row.content_drawLines_blank wide high selected inWidth inHeight).mp thread
    have openedRow := opened row (List.mem_append_right front List.mem_cons_self)
    exact content_line full high openedRow (sameWidth ▸ inWidth) (sameHeight ▸ inHeight)
      (field ▸ line)

end Pane

/-- A click on a line of a row's slot means what is drawn there. -/
theorem Pane.matches_stack {pane : Pane} {view : View} {discussion : Discussion}
    {width height x y : Nat} {front back : List Row} {row : Row} (focus : Focus)
    (split : view.rows discussion = front ++ row :: back)
    (stacked : pane.slots = view.stack width 0 (front ++ row :: back)) (inWidth : x < width)
    (inHeight : y < height) (reached : view.totalLines width front ≤ y)
    (within : y < view.totalLines width front + view.lineCount width row) (selected : Bool) :
    Matches (hitAt? pane.slots width x y) row.id x
      (row.barSymbol? (Grid.blank width height)
        (view.slotAt width (view.totalLines width front) row) x y)
      (row.threadSymbol? (Grid.blank width height)
        (view.slotAt width (view.totalLines width front) row) selected x y)
      ((pane.drawRows view focus (front ++ row :: back)
        (Grid.blank width height)).cell x y).content := by
  refine ⟨?_, ?_, ?_, ?_, ?_, fun symbol shown =>
    content_drawRows focus split stacked inWidth inHeight within selected shown⟩
  · have drawn : hitAt? pane.slots width x y = some (.vote row.id .up) ↔
        ∃ character ∈ ['▲'], _ = some (String.ofList [character]) :=
      stacked ▸ view.hitAt?_eq_some_iff_barSymbol? inWidth inHeight reached within rfl
        fun column => (Slot.barHit?_iff _ column).1.trans (by simp)
    simpa using drawn
  · have drawn : hitAt? pane.slots width x y = some (.vote row.id .down) ↔
        ∃ character ∈ ['▼'], _ = some (String.ofList [character]) :=
      stacked ▸ view.hitAt?_eq_some_iff_barSymbol? inWidth inHeight reached within rfl
        fun column => (Slot.barHit?_iff _ column).2.1.trans (by simp)
    simpa using drawn
  · exact stacked ▸ view.hitAt?_eq_some_iff_barSymbol? inWidth inHeight reached within rfl
      fun column => (Slot.barHit?_iff _ column).2.2
  · rintro control hit isControl
    rw [stacked, view.hitAt?_eq_control_iff reached within isControl] at hit
    exact Slot.id_of_barHit? _ hit.2.2.2
  · intro even
    rw [stacked, view.hitAt?_eq_threadLine_iff split reached within,
      view.threadSymbol?_eq_some_iff inWidth inHeight reached within selected even]

namespace Pane

variable (pane : Pane) (area : Area) (view : View)

/-- Rows with coordinates for all their lines are placed, each of them in a slot. A click on a cell of
the pane then means what is drawn in the cell of the canvas that the pane shows there. The lines of
the comments above run through all lines of a slot; its own line runs through those of a reply under
way and those of a full row but the header, and through no folded row. -/
theorem click_matches_drawing (discussion : Discussion) (focus : Focus)
    (fits : view.totalLines (contentWidth area) (view.rows discussion) < coordinateCount) :
    ∃ placed, pane.place area view (view.rows discussion) = .ok placed ∧
      placed.slots.length = (view.rows discussion).length ∧
      ∀ offset column line, area.contains column line = true →
        column - area.x < contentWidth area →
        ∀ row slot, (row, slot) ∈ (view.rows discussion).zip placed.slots →
          slot.top ≤ line - area.y + offset → line - area.y + offset < slot.bottom →
          let x := column - area.x
          let y := line - area.y + offset
          let blank := Grid.blank (contentWidth area) placed.contentHeight
          let levels := lineLevels slot.depth (contentWidth area)
          let lines := row.threadSymbol? blank slot (placed.selected == some slot.id) x y
          Matches (({ placed with offset } : Pane).hit? column line) slot.id x
              (row.barSymbol? blank slot x y) lines
              ((placed.drawRows view focus (view.rows discussion) blank).cell x y).content ∧
            (x % threadIndent = 0 → (lines = some threadLineSymbol ↔
              x / threadIndent < levels ∨ x / threadIndent = levels ∧
                (slot.kind = .openReply ∨ slot.kind = .full ∧ y ≠ slot.top))) := by
  obtain ⟨placed, laid, placedIn, stacked⟩ := pane.exists_place fits
  refine ⟨placed, laid, by rw [stacked, view.length_stack],
    fun offset column line inside beside row slot member => ?_⟩
  rw [stacked] at member
  obtain ⟨front, back, split, rfl⟩ := view.split_of_mem_zip member
  rw [Nat.zero_add, hit?_scrolled placedIn inside]
  generalize column - area.x = x at beside
  generalize line - area.y + offset = y
  intro reached within
  have inHeight : y < placed.contentHeight := by
    rw [contentHeight, stacked, view.canvasHeight_stack, split, View.totalLines_append,
      View.totalLines_cons]
    change y < view.totalLines (contentWidth area) front + view.lineCount (contentWidth area) row
      at within
    omega
  have below : y - view.totalLines (contentWidth area) front ≠ 0 ↔
      y ≠ view.totalLines (contentWidth area) front := by
    change view.totalLines (contentWidth area) front ≤ y at reached
    omega
  refine ⟨?_, fun even => ?_⟩
  · rw [split] at stacked ⊢
    exact matches_stack focus split stacked beside inHeight reached within _
  · have drawn := view.threadSymbol?_eq_some_iff beside inHeight reached within
      (placed.selected == some row.id) even
    rw [row.hasOwnLine_iff, below, and_comm (b := x / threadIndent = _)] at drawn
    exact drawn

/-- A letter of a word that is cut off by the edge of the pane is drawn there, and can be clicked. -/
theorem click_matches_answering :
    answering.totalLines (contentWidth ⟨2, 1, 18, 5⟩) (answering.rows exchange) < coordinateCount ∧
      ∃ placed, ({} : Pane).place ⟨2, 1, 18, 5⟩ answering (answering.rows exchange) = .ok placed ∧
        ({ placed with offset := 8 } : Pane).hit? 18 4 = some (.reply 3) ∧
        ((placed.drawRows answering none (answering.rows exchange)
          (Grid.blank 17 13)).cell 16 11).content = some "e" := by
  have fits : answering.totalLines (contentWidth ⟨2, 1, 18, 5⟩) (answering.rows exchange) <
      coordinateCount := by decide +kernel
  obtain ⟨placed, laid, -, cells⟩ :=
    click_matches_drawing {} ⟨2, 1, 18, 5⟩ answering exchange none fits
  have laidOut : (({} : Pane).place ⟨2, 1, 18, 5⟩ answering (answering.rows exchange)).toOption.map
      Pane.slots = some [⟨1, .full, 0, 0, 3, 0⟩, ⟨2, .full, 1, 3, 3, 9⟩, ⟨2, .openReply, 1, 6, 3, 9⟩,
        ⟨3, .full, 2, 9, 3, -12⟩, ⟨4, .folded, 1, 12, 1, 0⟩] := by decide +kernel
  rw [laid, toOption_ok, Option.map_some, Option.some.injEq] at laidOut
  let row : Row := ⟨⟨3, "ada", "Three", "", -12, false⟩, 2, .full, -12⟩
  let slot : Slot := ⟨3, .full, 2, 9, 3, -12⟩
  have listed : (row, slot) ∈ (answering.rows exchange).zip placed.slots := by
    rw [laidOut]
    decide +kernel
  have high : placed.contentHeight = 13 := by
    rw [contentHeight, laidOut]
    decide
  have letter : row.barSymbol? (Grid.blank 17 13) slot 16 11 = some "e" := by decide +kernel
  obtain ⟨agrees, -⟩ := cells 8 18 4 (by decide) (by decide) row slot listed (by decide) (by decide)
  rw [high] at agrees
  exact ⟨fits, placed, laid, agrees.reply.mpr ⟨'e', by decide, letter⟩, agrees.seen "e" (.inl letter)⟩

end Pane

end Colloquy
