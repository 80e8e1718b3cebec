import Colloquy.Proofs.Page.Layout
import Colloquy.Proofs.View.Guides

/-!
# What a click reaches

A click on the thread pane falls on one line of the canvas and so in one slot. Beside the thread
lines it means something of the slot's comment. On a thread line it means the comment above that one
at the depth of the line, which is found by reading upwards from the slot.
-/

namespace Colloquy

/-- The comment that a click is about. -/
def Hit.id : Hit → CommentId
  | threadLine id | unfold id | vote id _ | reply id | openReply id | comment id => id

/-- One of some slots holds a line of the canvas: those above it end before the line, and those below
it start after the line. -/
structure HoldsLine (slots : List Slot) (y : Nat) (slot : Slot) : Prop where
  alone : ∃ above below, slots = above ++ slot :: below ∧ (∀ other ∈ above, other.bottom ≤ y) ∧
    ∀ other ∈ below, y < other.top
  reached : slot.top ≤ y
  within : y < slot.bottom

namespace Slot

variable (slot : Slot)

theorem id_of_barHit? {column : Nat} {hit : Hit} (found : slot.barHit? column = some hit) :
    hit.id = slot.id := by
  unfold barHit? at found
  grind [Hit.id]

/-- Beside the thread lines of others a click is about the slot's own comment. -/
theorem id_ownHit (levels line x : Nat) : (slot.ownHit levels line x).id = slot.id := by
  unfold ownHit
  split
  · rfl
  · split
    · rfl
    · rfl
  · split
    · rfl
    · split
      · rfl
      · split
        · cases found : slot.barHit? (x - (levels + 1) * threadIndent) with
          | none => rfl
          | some hit => exact slot.id_of_barHit? found
        · rfl

end Slot

namespace View

variable (view : View) {width : Nat}

/-- The owner of a thread line is the comment that the rows lead to. -/
theorem lineOwner?_stack (top : Nat) (rows : List Row) (level : Nat) :
    lineOwner? (view.stack width top rows).reverse level =
      (guide? rows.reverse level).map Row.id := by
  induction rows generalizing top with
  | nil => rfl
  | cons row rest ih =>
      have below := ih (top + view.lineCount width row)
      simp only [lineOwner?, guide?] at below
      simp only [lineOwner?, guide?, stack, List.reverse_cons, List.find?_append, Option.map_or, below]
      by_cases here : row.kind == .full && row.depth == level
      · simp [slotAt, here]
      · simp [slotAt, here]

theorem holdsLine_stack {front back : List Row} {row : Row} {y : Nat}
    (reached : view.totalLines width front ≤ y)
    (within : y < view.totalLines width front + view.lineCount width row) :
    HoldsLine (view.stack width 0 (front ++ row :: back)) y
      (view.slotAt width (view.totalLines width front) row) := by
  refine ⟨⟨view.stack width 0 front, _, by rw [stack_append, Nat.zero_add, stack],
    fun other above => ?_, fun other below => ?_⟩, reached, within⟩
  · have ends := view.bottom_le_of_mem_stack width above
    omega
  · have starts := view.top_le_of_mem_stack width below
    omega

/-- What a click on a line of a row's slot means. -/
theorem hitAt?_stack {front back : List Row} {row : Row} {y : Nat}
    (reached : view.totalLines width front ≤ y)
    (within : y < view.totalLines width front + view.lineCount width row) (x : Nat) :
    hitAt? (view.stack width 0 (front ++ row :: back)) width x y =
      if x / threadIndent < lineLevels row.depth width then
        (guide? (row :: front.reverse)
          (row.depth - lineLevels row.depth width + x / threadIndent)).map
            fun upper => .threadLine upper.id
      else
        some ((view.slotAt width (view.totalLines width front) row).ownHit
          (lineLevels row.depth width) (y - view.totalLines width front) x) := by
  have found : slotAt? (view.stack width 0 (front ++ row :: back)) y =
      some (view.slotAt width (view.totalLines width front) row,
        (view.stack width 0 (front ++ [row])).reverse) := by
    rw [stack_append, stack_append, Nat.zero_add, stack, slotAt?_eq_some _ reached within]
    · simp [stack]
    · intro upper above
      have ends := view.bottom_le_of_mem_stack width above
      omega
  rw [hitAt?, found]
  simp only [Option.bind_eq_bind, Option.bind_some, lineOwner?_stack, Option.map_map,
    List.reverse_append, List.reverse_singleton, List.singleton_append]
  rfl

/-- Below all rows a click means nothing. -/
theorem hitAt?_stack_eq_none {rows : List Row} {y : Nat}
    (below : view.totalLines width rows ≤ y) (x : Nat) :
    hitAt? (view.stack width 0 rows) width x y = none := by
  have none : slotAt? (view.stack width 0 rows) y = none := slotAt?_eq_none fun slot member => by
    have ends := view.bottom_le_of_mem_stack width member
    omega
  rw [hitAt?, none]
  rfl

/-- A click on a line of the canvas means something of the comment whose slot holds the line, or the
thread line of the comment above it at the depth that the column tells. -/
theorem hitAt?_reaches {discussion : Discussion} (distinct : discussion.ids.Nodup) {x y : Nat}
    (inside : y < view.totalLines width (view.rows discussion)) :
    ∃ slot, HoldsLine (view.stack width 0 (view.rows discussion)) y slot ∧
      discussion.depth? slot.id = some slot.depth ∧
      (x / threadIndent < lineLevels slot.depth width →
        ∃ upper, hitAt? (view.stack width 0 (view.rows discussion)) width x y =
            some (.threadLine upper) ∧
          ∀ other, discussion.IsAbove other slot.id ∧ discussion.depth? other =
            some (slot.depth - lineLevels slot.depth width + x / threadIndent) ↔ other = upper) ∧
      (lineLevels slot.depth width ≤ x / threadIndent →
        ∃ hit, hitAt? (view.stack width 0 (view.rows discussion)) width x y = some hit ∧
          hit.id = slot.id) := by
  obtain ⟨front, row, back, split, reached, within⟩ := view.exists_row_at width inside
  obtain ⟨⟨above, comment⟩, listed, same, depth, leads⟩ := view.exists_lineage_of_split split
  obtain rfl : comment = row.comment := same
  rw [split]
  refine ⟨view.slotAt width (view.totalLines width front) row,
    view.holdsLine_stack reached within, ?_, fun onLine => ?_, fun beside => ?_⟩
  · have located := Discussion.depth?_of_mem_lineages distinct listed
    rwa [depth] at located
  · have levels : lineLevels row.depth width ≤ row.depth := Nat.min_le_left _ _
    change x / threadIndent < lineLevels row.depth width at onLine
    have higher : row.depth - lineLevels row.depth width + x / threadIndent < above.length := by
      change above.length = row.depth at depth
      omega
    obtain ⟨guide, nearer, farther, found, lineage, level⟩ := leads.exists_guide higher
    refine ⟨guide.id, ?_, fun other => ?_⟩
    · rw [view.hitAt?_stack reached within, if_pos onLine, found]
      rfl
    · change above = nearer ++ guide.comment :: farther at lineage
      subst lineage
      change discussion.IsAbove other row.comment.id ∧ discussion.depth? other =
        some (row.depth - lineLevels row.depth width + x / threadIndent) ↔ _
      rw [← level]
      exact Discussion.isAbove_depth?_iff distinct listed
  · have right : ¬x / threadIndent < lineLevels row.depth width := Nat.not_lt.mpr beside
    rw [view.hitAt?_stack reached within, if_neg right]
    exact ⟨_, rfl, Slot.id_ownHit _ _ _ _⟩

end View

namespace Pane

theorem hit?_scrolled {placed : Pane} {area : Screen.Area} (placedIn : placed.area = area)
    {column row : Nat} (inside : area.contains column row = true) (offset : Nat) :
    ({ placed with offset } : Pane).hit? column row =
      hitAt? placed.slots (contentWidth area) (column - area.x) (row - area.y + offset) := by
  simp [hit?, placedIn, inside]

/-- Rows with coordinates for all their lines are placed. For every scroll position that leaves the
canvas in the pane, a click in the pane falls on a line that has a coordinate. It means nothing
exactly if that line is below the canvas. Otherwise one slot holds the line. Left of the lines' end
the click means the thread line of the one comment that stands above the slot's comment at the depth
that the column tells, and right of it something of the slot's comment itself; so no thread line that
is hit belongs to another branch. -/
theorem click_reaches_comment (pane : Pane) (area : Screen.Area) (view : View)
    {discussion : Discussion} (distinct : discussion.ids.Nodup)
    (fits : view.totalLines (contentWidth area) (view.rows discussion) < coordinateCount) :
    ∃ placed, pane.place area view (view.rows discussion) = .ok placed ∧
      placed.contentHeight = view.totalLines (contentWidth area) (view.rows discussion) ∧
      ∀ offset column row, ({ placed with offset } : Pane).limitOffset = { placed with offset } →
        area.contains column row = true →
        let hit := ({ placed with offset } : Pane).hit? column row
        let y := row - area.y + offset
        let level := (column - area.x) / threadIndent
        y < max placed.contentHeight area.height ∧
        (hit = none ↔ placed.contentHeight ≤ y) ∧
        (y < placed.contentHeight → ∃ slot, HoldsLine placed.slots y slot ∧
          discussion.depth? slot.id = some slot.depth ∧
          let levels := lineLevels slot.depth (contentWidth area)
          (level < levels → ∃ upper, hit = some (.threadLine upper) ∧
            ∀ other, discussion.IsAbove other slot.id ∧
              discussion.depth? other = some (slot.depth - levels + level) ↔ other = upper) ∧
          (levels ≤ level → ∃ own, hit = some own ∧ own.id = slot.id) ∧
          ∀ owner, hit = some (.threadLine owner) →
            owner = slot.id ∨ discussion.IsAbove owner slot.id) := by
  obtain ⟨placed, laid, placedIn, stacked⟩ := pane.exists_place fits
  have height : placed.contentHeight =
      view.totalLines (contentWidth area) (view.rows discussion) := by
    rw [contentHeight, stacked, view.canvasHeight_stack]
  refine ⟨placed, laid, height, fun offset column row settled inside => ?_⟩
  simp only [hit?_scrolled placedIn inside, height]
  refine ⟨?_, ⟨fun missed => ?_, fun below => ?_⟩, fun onCanvas => ?_⟩
  · have limited : min offset (placed.contentHeight - placed.area.height) = offset :=
      congrArg Pane.offset settled
    rw [height, placedIn] at limited
    simp only [Screen.Area.contains, Bool.and_eq_true, decide_eq_true_eq] at inside
    have above : row < area.y + area.height := inside.2
    omega
  · by_contra onCanvas
    obtain ⟨slot, -, -, onLine, beside⟩ :=
      view.hitAt?_reaches distinct (x := column - area.x) (Nat.lt_of_not_le onCanvas)
    rw [stacked] at missed
    rcases Nat.lt_or_ge ((column - area.x) / threadIndent)
      (lineLevels slot.depth (contentWidth area)) with left | right
    · obtain ⟨upper, hit, -⟩ := onLine left
      simp [missed] at hit
    · obtain ⟨own, hit, -⟩ := beside right
      simp [missed] at hit
  · rw [stacked]
    exact view.hitAt?_stack_eq_none below _
  · rw [stacked]
    obtain ⟨slot, holds, depth, onLine, beside⟩ :=
      view.hitAt?_reaches distinct (x := column - area.x) onCanvas
    refine ⟨slot, holds, depth, onLine, beside, fun owner hit => ?_⟩
    rcases Nat.lt_or_ge ((column - area.x) / threadIndent)
      (lineLevels slot.depth (contentWidth area)) with left | right
    · obtain ⟨upper, same, only⟩ := onLine left
      obtain rfl : owner = upper := by simpa [hit] using same
      exact .inr ((only owner).mpr rfl).1
    · obtain ⟨own, same, named⟩ := beside right
      obtain rfl : Hit.threadLine owner = own := by simpa [hit] using same
      exact .inl named

/-- One comment is answered twice, and the first answer is answered in its turn. -/
def exchange : Discussion :=
  ⟨[⟨⟨1, "ada", "One", "", 0, false⟩,
    [⟨⟨2, "bob", "Two", "", 9, false⟩, [⟨⟨3, "ada", "Three", "", -12, false⟩, []⟩]⟩,
      ⟨⟨4, "eve", "Four", "", 0, false⟩, []⟩]⟩]⟩

/-- A second reply to the first answer is under way, and the other answer is folded. -/
def answering : View :=
  ((({} : View).toggleReply exchange 2).1.fold exchange 4).1

/-- In a narrow pane the line in the first column is that of the comment answered, not that of the
first comment; the reply under way between the two does not change that. -/
theorem click_reaches_answered :
    exchange.ids.Nodup ∧
      answering.totalLines (contentWidth ⟨2, 1, 8, 5⟩) (answering.rows exchange) <
        coordinateCount ∧
      ∃ placed, ({} : Pane).place ⟨2, 1, 8, 5⟩ answering (answering.rows exchange) = .ok placed ∧
        ({ placed with offset := 7 } : Pane).limitOffset = { placed with offset := 7 } ∧
        ({ placed with offset := 7 } : Pane).hit? 2 4 = some (.threadLine 2) ∧
        (∃ slot, HoldsLine placed.slots 10 slot ∧ slot.id = 3) ∧ exchange.IsAbove 2 3 := by
  have distinct : exchange.ids.Nodup := by decide +kernel
  have fits : answering.totalLines (contentWidth ⟨2, 1, 8, 5⟩) (answering.rows exchange) <
      coordinateCount := by decide +kernel
  obtain ⟨placed, laid, height, clicks⟩ :=
    click_reaches_comment {} ⟨2, 1, 8, 5⟩ answering distinct fits
  have seen : (({} : Pane).place ⟨2, 1, 8, 5⟩ answering (answering.rows exchange)).toOption.map
      (fun placed => (({ placed with offset := 7 } : Pane).limitOffset.offset,
        ({ placed with offset := 7 } : Pane).hit? 2 4,
        (placed.slots.filter fun slot => slot.top ≤ 10 && 10 < slot.bottom).map Slot.id)) =
      some (7, some (.threadLine 2), [3]) := by decide +kernel
  rw [laid, toOption_ok, Option.map_some, Option.some.injEq] at seen
  obtain ⟨offset, hit, held⟩ : _ ∧ _ ∧ _ := by simpa only [Prod.mk.injEq] using seen
  have settled : ({ placed with offset := 7 } : Pane).limitOffset = { placed with offset := 7 } :=
    congrArg (fun offset => ({ placed with offset } : Pane)) offset
  have lines : answering.totalLines (contentWidth ⟨2, 1, 8, 5⟩) (answering.rows exchange) = 14 := by
    decide +kernel
  obtain ⟨-, -, onCanvas⟩ := clicks 7 2 4 settled (by decide)
  obtain ⟨slot, holds, -, -, -, reached⟩ := onCanvas (by rw [height, lines]; decide)
  have three : slot.id = 3 := by
    obtain ⟨above, below, split, -⟩ := holds.alone
    have listed : slot.id ∈ (placed.slots.filter fun slot =>
        slot.top ≤ 10 && 10 < slot.bottom).map Slot.id :=
      List.mem_map_of_mem (List.mem_filter.mpr
        ⟨by simp [split], by simpa using ⟨holds.reached, holds.within⟩⟩)
    rw [held] at listed
    simpa using listed
  have above := (reached 2 hit).resolve_left (by rw [three]; decide)
  exact ⟨distinct, fits, placed, laid, settled, hit, ⟨slot, holds, three⟩, three ▸ above⟩

end Pane

end Colloquy
