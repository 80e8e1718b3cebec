import Colloquy.Proofs.Page.Measures

/-!
# Stacks of slots

Rows are laid out as a stack: every slot starts where the one above it ends, and the canvas ends with
the last one. Where the lines of all rows together are a coordinate, the layout succeeds and is that
stack. Every line of the canvas then lies in one slot, and that slot is found at the line.
-/

namespace Colloquy

namespace ReplyPanel

/-- The number of lines that text takes up, whether or not there are coordinates for them. -/
def lineCount (text : List Char) (width : Nat) : Nat :=
  if width = 0 || text.isEmpty then 1
  else
    let lines := Text.Wrap.wrap width text
    let count := max (wrapCoordinate lines.length) 1
    if opensLine text lines then count + 1 else count

theorem textHeight_eq (text : List Char) (width : Nat) :
    textHeight text width = coordinate (lineCount text width) := by
  have wrapped : max (wrapCoordinate (Text.Wrap.wrap width text).length) 1 < coordinateCount :=
    Nat.max_lt.mpr ⟨Nat.mod_lt _ (by decide), by decide⟩
  unfold textHeight lineCount
  split
  · rfl
  · simp only
    split
    · rfl
    · rw [coordinate, if_pos wrapped]

/-- Coordinates that are computed in two steps overflow if the sum does. -/
theorem coordinate_bind_add (value more : Nat) :
    (coordinate value >>= fun place => coordinate (place + more)) = coordinate (value + more) := by
  by_cases fits : value < coordinateCount
  · rw [coordinate, if_pos fits]
    rfl
  · have exceeds : ¬value + more < coordinateCount := by omega
    rw [coordinate, coordinate, if_neg fits, if_neg exceeds]
    rfl

theorem height_eq (content : String) (width : Nat) :
    height content width = coordinate (lineCount content.toList (textWidth width) + 2) := by
  rw [height, textHeight_eq]
  exact coordinate_bind_add _ 2

end ReplyPanel

namespace View

variable (view : View) (width : Nat)

/-- The number of lines that a row takes up, whether or not there are coordinates for them. -/
def lineCount (row : Row) : Nat :=
  match row.kind with
  | .folded => 1
  | .full => 1 + wrapCoordinate (row.wrappedBody width).length + 1
  | .openReply =>
      let content := ((view.openReply? row.id).map OpenReply.content).getD ""
      ReplyPanel.lineCount content.toList (ReplyPanel.textWidth (width - row.boxColumn width)) + 2

theorem rowHeight_eq (row : Row) :
    view.rowHeight width row = coordinate (view.lineCount width row) := by
  cases kind : row.kind with
  | full => simp [rowHeight, lineCount, Row.height, kind]
  | folded => simp [rowHeight, lineCount, Row.height, kind, coordinate, coordinateCount]
  | openReply => simp [rowHeight, lineCount, kind, ReplyPanel.height_eq]

theorem lineCount_pos (row : Row) : 0 < view.lineCount width row := by
  unfold lineCount
  split
  · exact Nat.one_pos
  · exact Nat.succ_pos _
  · exact Nat.succ_pos _

/-- The number of lines of several rows. -/
def totalLines : List Row → Nat
  | [] => 0
  | row :: rest => view.lineCount width row + totalLines rest

@[simp] theorem totalLines_nil : view.totalLines width [] = 0 := rfl

@[simp] theorem totalLines_cons (row : Row) (rest : List Row) :
    view.totalLines width (row :: rest) = view.lineCount width row + view.totalLines width rest :=
  rfl

@[simp] theorem totalLines_append (front back : List Row) :
    view.totalLines width (front ++ back) =
      view.totalLines width front + view.totalLines width back := by
  induction front with
  | nil => simp
  | cons row rest ih => simp [ih, Nat.add_assoc]

/-- The slot of a row that starts at a line of the canvas. -/
def slotAt (top : Nat) (row : Row) : Slot :=
  ⟨row.id, row.kind, row.depth, top, view.lineCount width row, row.score⟩

/-- The slots of rows that are stacked from a line of the canvas on. -/
def stack : Nat → List Row → List Slot
  | _, [] => []
  | top, row :: rest => view.slotAt width top row :: stack (top + view.lineCount width row) rest

theorem stack_append (top : Nat) (front back : List Row) :
    view.stack width top (front ++ back) =
      view.stack width top front ++ view.stack width (top + view.totalLines width front) back := by
  induction front generalizing top with
  | nil => rfl
  | cons row rest ih => simp [stack, ih, Nat.add_assoc]

/-- A row whose lines have coordinates gets its slot, and the rows below it are laid out from where it
ends, as far as there are coordinates. -/
theorem slotsFrom_cons {top : Nat} {row : Row} (own : view.lineCount width row < coordinateCount)
    (rest : List Row) :
    view.slotsFrom width top (row :: rest) =
      view.slotsFrom width (min (top + view.lineCount width row) (coordinateCount - 1)) rest >>=
        fun below => .ok (view.slotAt width top row :: below) := by
  rw [slotsFrom, rowHeight_eq, coordinate, if_pos own]
  rfl

/-- Rows whose lines have coordinates are laid out as a stack. -/
theorem slotsFrom_eq_stack {top : Nat} {rows : List Row}
    (fits : top + view.totalLines width rows < coordinateCount) :
    view.slotsFrom width top rows = .ok (view.stack width top rows) := by
  induction rows generalizing top with
  | nil => rfl
  | cons row rest ih =>
      rw [totalLines_cons] at fits
      have inside : min (top + view.lineCount width row) (coordinateCount - 1) =
          top + view.lineCount width row := by omega
      rw [view.slotsFrom_cons width (by omega), inside, ih (by omega)]
      rfl

theorem top_le_of_mem_stack {top : Nat} {rows : List Row} {slot : Slot}
    (member : slot ∈ view.stack width top rows) : top ≤ slot.top := by
  induction rows generalizing top with
  | nil => simp [stack] at member
  | cons row rest ih =>
      rcases List.mem_cons.mp member with rfl | below
      · exact Nat.le.refl
      · exact Nat.le_of_add_right_le (ih below)

theorem bottom_le_of_mem_stack {top : Nat} {rows : List Row} {slot : Slot}
    (member : slot ∈ view.stack width top rows) :
    slot.bottom ≤ top + view.totalLines width rows := by
  induction rows generalizing top with
  | nil => simp [stack] at member
  | cons row rest ih =>
      rw [totalLines_cons]
      rcases List.mem_cons.mp member with rfl | below
      · simp only [Slot.bottom, slotAt]
        omega
      · have inside := ih below
        omega

theorem canvasHeight_stack (rows : List Row) :
    canvasHeight (view.stack width 0 rows) = view.totalLines width rows := by
  rcases List.eq_nil_or_concat rows with rfl | ⟨front, last, rfl⟩
  · rfl
  · simp [stack_append, stack, canvasHeight, Slot.bottom, slotAt]

theorem canvasHeight_cons (slot : Slot) {below : List Slot} (more : below ≠ []) :
    canvasHeight (slot :: below) = canvasHeight below := by
  rw [canvasHeight, canvasHeight, List.getLast?_cons_of_ne_nil more]

/-- Rows with more lines than there are coordinates are not laid out, or the last slot ends beyond all
coordinates. -/
theorem slotsFrom_overflows {top : Nat} {rows : List Row} (start : top < coordinateCount)
    (exceeds : coordinateCount ≤ top + view.totalLines width rows) :
    view.slotsFrom width top rows = .error .coordinateOverflow ∨
      ∃ slots, view.slotsFrom width top rows = .ok slots ∧
        coordinateCount ≤ canvasHeight slots := by
  induction rows generalizing top with
  | nil =>
      rw [totalLines_nil] at exceeds
      omega
  | cons row rest ih =>
      rw [totalLines_cons] at exceeds
      by_cases own : view.lineCount width row < coordinateCount
      · rw [view.slotsFrom_cons width own]
        cases rest with
        | nil =>
            right
            refine ⟨[view.slotAt width top row], rfl, ?_⟩
            rw [totalLines_nil] at exceeds
            exact exceeds
        | cons next others =>
            have positive := view.lineCount_pos width next
            rw [totalLines_cons] at exceeds ih
            have within : min (top + view.lineCount width row) (coordinateCount - 1) <
                coordinateCount := by omega
            rcases ih within (by omega) with failed | ⟨below, laid, reached⟩
            · left
              rw [failed]
              rfl
            · right
              have more : below ≠ [] := by
                rintro rfl
                contradiction
              refine ⟨view.slotAt width top row :: below, by rw [laid]; rfl, ?_⟩
              rw [canvasHeight_cons _ more]
              exact reached
      · left
        rw [slotsFrom, rowHeight_eq, coordinate, if_neg own]
        rfl

/-- Every line of a canvas belongs to a row. -/
theorem exists_row_at {rows : List Row} {y : Nat} (inside : y < view.totalLines width rows) :
    ∃ front row back, rows = front ++ row :: back ∧ view.totalLines width front ≤ y ∧
      y < view.totalLines width front + view.lineCount width row := by
  induction rows generalizing y with
  | nil => simp at inside
  | cons row rest ih =>
      by_cases here : y < view.lineCount width row
      · exact ⟨[], row, rest, rfl, Nat.zero_le y, by simpa using here⟩
      · rw [totalLines_cons] at inside
        obtain ⟨front, found, back, rfl, reached, within⟩ :=
          ih (y := y - view.lineCount width row) (by omega)
        refine ⟨row :: front, found, back, rfl, ?_, ?_⟩
        · rw [totalLines_cons]
          omega
        · rw [totalLines_cons]
          omega

end View

/-! ## The slot at a line -/

theorem slotAtFrom?_append {y : Nat} {above : List Slot} (below upwards : List Slot)
    (passed : ∀ slot ∈ above, slot.bottom ≤ y) :
    slotAtFrom? y upwards (above ++ below) = slotAtFrom? y (above.reverse ++ upwards) below := by
  induction above generalizing upwards with
  | nil => rfl
  | cons slot rest ih =>
      obtain ⟨first, others⟩ := List.forall_mem_cons.mp passed
      rw [List.cons_append, slotAtFrom?, if_pos first, ih _ others]
      simp

/-- Below all slots there is none. -/
theorem slotAt?_eq_none {y : Nat} {slots : List Slot} (passed : ∀ slot ∈ slots, slot.bottom ≤ y) :
    slotAt? slots y = none := by
  have searched := slotAtFrom?_append [] [] passed
  rw [List.append_nil] at searched
  rw [slotAt?, searched, slotAtFrom?]

theorem slotAt?_eq_some {y : Nat} {above below : List Slot} {slot : Slot}
    (passed : ∀ upper ∈ above, upper.bottom ≤ y) (reached : slot.top ≤ y)
    (within : y < slot.bottom) :
    slotAt? (above ++ slot :: below) y = some (slot, slot :: above.reverse) := by
  rw [slotAt?, slotAtFrom?_append _ _ passed, slotAtFrom?, if_neg (by omega), if_neg (by omega),
    List.append_nil]

/-! ## Placing rows -/

namespace Pane

variable (pane : Pane)

@[simp] theorem slots_repairSelection : pane.repairSelection.slots = pane.slots := by
  unfold repairSelection
  split
  · rfl
  · rfl

@[simp] theorem area_repairSelection : pane.repairSelection.area = pane.area := by
  unfold repairSelection
  split
  · rfl
  · rfl

/-- Rows that fit are placed as a stack, with the selection and the scroll position put right. -/
theorem place_eq_ok {area : Screen.Area} {view : View} {rows : List Row}
    (fits : view.totalLines (contentWidth area) rows < coordinateCount) :
    pane.place area view rows =
      .ok ({ pane with area, slots := view.stack (contentWidth area) 0 rows, caret := none } :
        Pane).repairSelection.limitOffset := by
  have laid : view.layout (contentWidth area) rows =
      .ok (view.stack (contentWidth area) 0 rows) :=
    view.slotsFrom_eq_stack _ (by simpa using fits)
  have high : coordinate (canvasHeight (view.stack (contentWidth area) 0 rows)) =
      .ok (view.totalLines (contentWidth area) rows) := by
    rw [view.canvasHeight_stack, coordinate, if_pos fits]
  exact bind_eq_ok_iff.mpr ⟨_, laid, bind_eq_ok_iff.mpr ⟨_, high, rfl⟩⟩

/-- Rows that fit are placed in an area as a stack. -/
theorem exists_place {area : Screen.Area} {view : View} {rows : List Row}
    (fits : view.totalLines (contentWidth area) rows < coordinateCount) :
    ∃ placed, pane.place area view rows = .ok placed ∧ placed.area = area ∧
      placed.slots = view.stack (contentWidth area) 0 rows := by
  refine ⟨_, pane.place_eq_ok fits, ?_, ?_⟩
  · simp [limitOffset]
  · simp [limitOffset]

/-- Rows that do not fit are not placed. -/
theorem place_eq_error {area : Screen.Area} {view : View} {rows : List Row}
    (exceeds : coordinateCount ≤ view.totalLines (contentWidth area) rows) :
    pane.place area view rows = .error .coordinateOverflow := by
  have start : 0 < coordinateCount := by decide
  rcases view.slotsFrom_overflows _ start (by rwa [Nat.zero_add]) with failed | ⟨slots, laid, high⟩
  · exact bind_eq_error_iff.mpr (.inl failed)
  · refine bind_eq_error_iff.mpr (.inr ⟨slots, laid, bind_eq_error_iff.mpr (.inl ?_)⟩)
    rw [coordinate, if_neg (Nat.not_lt.mpr high)]

variable {pane}

/-- Rows that are placed fit, and stand in the area as a stack. -/
theorem stacked_of_place {placed : Pane} {area : Screen.Area} {view : View} {rows : List Row}
    (laid : pane.place area view rows = .ok placed) :
    view.totalLines (contentWidth area) rows < coordinateCount ∧ placed.area = area ∧
      placed.slots = view.stack (contentWidth area) 0 rows := by
  by_cases fits : view.totalLines (contentWidth area) rows < coordinateCount
  · obtain ⟨same, found, placedIn, stacked⟩ := pane.exists_place fits
    obtain rfl : same = placed := Except.ok.inj (found.symm.trans laid)
    exact ⟨fits, placedIn, stacked⟩
  · rw [pane.place_eq_error (Nat.not_lt.mp fits)] at laid
    contradiction

end Pane

end Colloquy
