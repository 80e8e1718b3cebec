import Mathlib.Data.List.Nodup
import Mathlib.Logic.Function.Iterate
import Colloquy.Proofs.Page.Clicks
import Colloquy.Proofs.Page.Scrolling
import Colloquy.Proofs.View.Rows

/-!
# Moving the selection

The slots of comments belong to the comments that are shown, in pre-order. Each starts further down the
canvas than the one before, so that the nearest slot below the selected one is that of the next comment,
whatever replies under way stand between them; and likewise above. Moves down from the first comment
thus visit every comment that is shown, once and in order.
-/

namespace Colloquy

namespace View

variable (view : View) (width : Nat)

theorem pairwise_stack (top : Nat) (rows : List Row) :
    (view.stack width top rows).Pairwise fun upper lower => upper.top < lower.top := by
  induction rows generalizing top with
  | nil => exact .nil
  | cons row rest ih =>
      refine .cons ?_ (ih _)
      intro lower member
      exact Nat.lt_of_lt_of_le (Nat.lt_add_of_pos_right (view.lineCount_pos width row))
        (view.top_le_of_mem_stack width member)

/-- The slots of comments stand in the order of the rows. -/
theorem map_id_stack (top : Nat) (rows : List Row) :
    ((view.stack width top rows).filter Slot.isComment).map Slot.id =
      (rows.filter Row.isComment).map Row.id := by
  induction rows generalizing top with
  | nil => rfl
  | cons row rest ih =>
      have kind : (view.slotAt width top row).isComment = row.isComment := rfl
      rw [stack, List.filter_cons, List.filter_cons, kind]
      split
      · rw [List.map_cons, List.map_cons, ih]
        rfl
      · exact ih _

end View

namespace Pane

variable {pane : Pane} {index : Nat} {id : CommentId}

/-- The comments that have slots, from the top of the canvas. -/
def shown (pane : Pane) : List CommentId :=
  pane.commentSlots.map Slot.id

/-- The slots of comments follow each other down the canvas, and no comment has two. -/
structure Ordered (pane : Pane) : Prop where
  downwards : pane.commentSlots.Pairwise fun upper lower => upper.top < lower.top
  distinct : pane.shown.Nodup

/-! ## The selected slot -/

theorem isSome_selection?_iff :
    pane.selection?.isSome ↔ ∃ id ∈ pane.shown, pane.selected = some id := by
  cases selected : pane.selected with
  | none => simp [selection?, selected]
  | some id => simp [selection?, selected, shown]

/-- Where the selected comment has a slot it stays selected. -/
theorem selected_repairSelection (listed : id ∈ pane.shown) (selected : pane.selected = some id) :
    pane.repairSelection.selected = some id := by
  rw [repairSelection, if_pos (isSome_selection?_iff.mpr ⟨id, listed, selected⟩), selected]

/-- Where it has none, the first comment is selected. -/
theorem selected_repairSelection_of_hidden (hidden : ∀ id ∈ pane.shown, pane.selected ≠ some id) :
    pane.repairSelection.selected = pane.shown.head? := by
  have absent : ¬pane.selection?.isSome := by
    intro present
    obtain ⟨id, listed, selected⟩ := isSome_selection?_iff.mp present
    exact hidden id listed selected
  rw [repairSelection, if_neg absent, shown, List.head?_map]

theorem Ordered.selection? (ordered : pane.Ordered) {slot : Slot}
    (member : slot ∈ pane.commentSlots) (selected : pane.selected = some slot.id) :
    pane.selection? = some slot := by
  have listed : slot.id ∈ pane.shown := List.mem_map_of_mem member
  obtain ⟨found, chosen⟩ :=
    Option.isSome_iff_exists.mp (isSome_selection?_iff.mpr ⟨slot.id, listed, selected⟩)
  have same : found.id = slot.id := by
    have searched := chosen
    rw [Pane.selection?, selected] at searched
    simpa using List.find?_some searched
  rw [chosen, List.inj_on_of_nodup_map ordered.distinct
    (mem_commentSlots_of_selection? chosen) member same]

/-! ## One move -/

/-- A search passes what does not qualify and stops at the first of those that all do. -/
theorem find?_append_of_qualified {qualifies : Slot → Bool} {front back : List Slot}
    (passed : ∀ slot ∈ front, ¬qualifies slot) (held : ∀ slot ∈ back, qualifies slot) :
    (front ++ back).find? qualifies = back.head? := by
  rw [List.find?_append, List.find?_eq_none.mpr passed, Option.none_or]
  cases back with
  | nil => rfl
  | cons first rest => rw [List.find?_cons_of_pos (held first List.mem_cons_self), List.head?_cons]

section Move

variable {above below : List Slot} {slot : Slot}

theorem Ordered.selection?_of_split (ordered : pane.Ordered)
    (split : pane.commentSlots = above ++ slot :: below) (selected : pane.selected = some slot.id) :
    pane.selection? = some slot := by
  apply ordered.selection? _ selected
  rw [split]
  exact List.mem_append_right above List.mem_cons_self

theorem Ordered.top_lt (ordered : pane.Ordered) (split : pane.commentSlots = above ++ slot :: below) :
    (∀ upper ∈ above, upper.top < slot.top) ∧ ∀ lower ∈ below, slot.top < lower.top := by
  have order := ordered.downwards
  rw [split, List.pairwise_append, List.pairwise_cons] at order
  obtain ⟨-, ⟨lower, -⟩, upper⟩ := order
  exact ⟨fun other member => upper other member slot List.mem_cons_self, lower⟩

/-- Below the selected slot stands the next one. -/
theorem Ordered.below?_eq (ordered : pane.Ordered) (split : pane.commentSlots = above ++ slot :: below)
    (selected : pane.selected = some slot.id) : pane.below? = below.head? := by
  obtain ⟨upper, lower⟩ := ordered.top_lt split
  have whole : pane.commentSlots = (above ++ [slot]) ++ below := by simp [split]
  rw [below?, ordered.selection?_of_split split selected, whole]
  apply find?_append_of_qualified
  · intro other member
    rw [List.mem_append, List.mem_singleton] at member
    rcases member with higher | same
    · simpa using Nat.le_of_lt (upper other higher)
    · simp [same]
  · intro other member
    simpa using lower other member

/-- Above the selected slot stands the one before. -/
theorem Ordered.above?_eq (ordered : pane.Ordered) (split : pane.commentSlots = above ++ slot :: below)
    (selected : pane.selected = some slot.id) : pane.above? = above.getLast? := by
  obtain ⟨upper, lower⟩ := ordered.top_lt split
  have whole : pane.commentSlots.reverse = (below.reverse ++ [slot]) ++ above.reverse := by
    simp [split]
  rw [above?, ordered.selection?_of_split split selected, whole, ← List.head?_reverse]
  apply find?_append_of_qualified
  · intro other member
    rw [List.mem_append, List.mem_reverse, List.mem_singleton] at member
    rcases member with deeper | same
    · simpa using Nat.le_of_lt (lower other deeper)
    · simp [same]
  · intro other member
    simpa using upper other (List.mem_reverse.mp member)

end Move

@[simp] theorem commentSlots_select (slot : Option Slot) :
    (pane.select slot).commentSlots = pane.commentSlots := by
  obtain ⟨selected, offset, moved⟩ := pane.exists_select slot
  rw [moved]
  rfl

theorem selected_select (slot : Option Slot) :
    (pane.select slot).selected = (slot.map Slot.id).or pane.selected := by
  cases slot with
  | none => rfl
  | some slot =>
      obtain ⟨offset, revealed⟩ := exists_reveal { pane with selected := some slot.id }
      rw [select, revealed]
      rfl

/-- A comment that is shown has its slot between those of the comments before and after. -/
theorem exists_split (listed : pane.shown[index]? = some id) :
    ∃ above slot below, pane.commentSlots = above ++ slot :: below ∧ slot.id = id ∧
      above.length = index := by
  rw [shown, List.getElem?_map, Option.map_eq_some_iff] at listed
  obtain ⟨slot, found, named⟩ := listed
  obtain ⟨within, found⟩ := List.getElem?_eq_some_iff.mp found
  refine ⟨pane.commentSlots.take index, slot, pane.commentSlots.drop (index + 1), ?_, named, ?_⟩
  · rw [← found, ← List.drop_eq_getElem_cons within, List.take_append_drop]
  · rw [List.length_take]
    omega

/-- A move down goes to the next comment that is shown; the last one stays selected. -/
theorem Ordered.selected_selectBelow (ordered : pane.Ordered) (listed : pane.shown[index]? = some id)
    (selected : pane.selected = some id) :
    pane.selectBelow.selected = pane.shown[min (index + 1) (pane.shown.length - 1)]? := by
  obtain ⟨above, slot, below, split, named, place⟩ := exists_split listed
  subst named place
  have found := ordered.below?_eq split selected
  rw [selectBelow_eq, selected_select, found, selected, shown, split]
  cases below with
  | nil => simp
  | cons next rest => simp

/-- A move up goes to the comment before; the first one stays selected. -/
theorem Ordered.selected_selectAbove (ordered : pane.Ordered) (listed : pane.shown[index]? = some id)
    (selected : pane.selected = some id) :
    pane.selectAbove.selected = pane.shown[index - 1]? := by
  obtain ⟨above, slot, below, split, named, place⟩ := exists_split listed
  subst named place
  have found := ordered.above?_eq split selected
  rw [selectAbove_eq, selected_select, found, selected, shown, split]
  rcases List.eq_nil_or_concat above with rfl | ⟨front, last, rfl⟩
  · simp
  · simp

/-! ## Several moves -/

variable {next : Pane}

theorem Ordered.congr (ordered : pane.Ordered) (same : next.commentSlots = pane.commentSlots) :
    next.Ordered :=
  ⟨same ▸ ordered.downwards, by rw [shown, same]; exact ordered.distinct⟩

theorem shown_congr (same : next.commentSlots = pane.commentSlots) : next.shown = pane.shown := by
  rw [shown, same, shown]

theorem commentSlots_selectBelow (pane : Pane) :
    pane.selectBelow.commentSlots = pane.commentSlots :=
  commentSlots_select _

theorem commentSlots_selectAbove (pane : Pane) :
    pane.selectAbove.commentSlots = pane.commentSlots :=
  commentSlots_select _

theorem commentSlots_iterate (pane : Pane) (steps : Nat) :
    (selectBelow^[steps] pane).commentSlots = pane.commentSlots := by
  induction steps with
  | zero => rfl
  | succ steps ih => rw [Function.iterate_succ_apply', commentSlots_selectBelow, ih]

/-- Moves down go through the comments that are shown one by one. -/
theorem Ordered.selected_iterate (ordered : pane.Ordered) (listed : pane.shown[index]? = some id)
    (selected : pane.selected = some id) {steps : Nat} (within : index + steps < pane.shown.length) :
    (selectBelow^[steps] pane).selected = pane.shown[index + steps]? := by
  induction steps with
  | zero => rw [Function.iterate_zero_apply, selected, Nat.add_zero, listed]
  | succ steps ih =>
      have before : index + steps < pane.shown.length := by omega
      have place : min (index + steps + 1) (pane.shown.length - 1) = index + (steps + 1) := by omega
      have same := pane.commentSlots_iterate steps
      have reached := ih before
      rw [List.getElem?_eq_getElem before] at reached
      rw [Function.iterate_succ_apply', (ordered.congr same).selected_selectBelow _ reached,
        shown_congr same, place]
      rw [shown_congr same]
      exact List.getElem?_eq_getElem before

/-- Moving down and up again comes back, except from the last comment. -/
theorem Ordered.selected_below_above (ordered : pane.Ordered)
    (listed : pane.shown[index]? = some id) (selected : pane.selected = some id)
    (within : index + 1 < pane.shown.length) : pane.selectBelow.selectAbove.selected = some id := by
  have same := pane.commentSlots_selectBelow
  have place : min (index + 1) (pane.shown.length - 1) = index + 1 := by omega
  have moved := ordered.selected_selectBelow listed selected
  rw [place, List.getElem?_eq_getElem within] at moved
  rw [(ordered.congr same).selected_selectAbove _ moved, shown_congr same, Nat.add_sub_cancel, listed]
  rw [shown_congr same]
  exact List.getElem?_eq_getElem within

/-- Moving up and down again comes back, except from the first comment. -/
theorem Ordered.selected_above_below (ordered : pane.Ordered)
    (listed : pane.shown[index]? = some id) (selected : pane.selected = some id)
    (lower : 0 < index) : pane.selectAbove.selectBelow.selected = some id := by
  have same := pane.commentSlots_selectAbove
  obtain ⟨within, -⟩ := List.getElem?_eq_some_iff.mp listed
  have before : index - 1 < pane.shown.length := by omega
  have place : min (index - 1 + 1) (pane.shown.length - 1) = index := by omega
  have moved := ordered.selected_selectAbove listed selected
  rw [List.getElem?_eq_getElem before] at moved
  rw [(ordered.congr same).selected_selectBelow _ moved, shown_congr same, place, listed]
  rw [shown_congr same]
  exact List.getElem?_eq_getElem before

/-- The moves down from the first comment visit every comment that is shown, in order. -/
theorem Ordered.map_selected_iterate (ordered : pane.Ordered) (listed : pane.shown[0]? = some id)
    (selected : pane.selected = some id) :
    (List.range pane.shown.length).map (fun steps => (selectBelow^[steps] pane).selected) =
      pane.shown.map some := by
  apply List.ext_getElem
  · simp
  · intro steps within _
    rw [List.length_map, List.length_range] at within
    have reached := ordered.selected_iterate listed selected (by rwa [Nat.zero_add])
    simpa [List.getElem?_eq_getElem within] using reached

end Pane

/-! ## Placed rows -/

theorem View.shown_of_stacked {view : View} {discussion : Discussion} {pane : Pane} {width : Nat}
    (stacked : pane.slots = view.stack width 0 (view.rows discussion)) :
    pane.shown = (discussion.lineages.filter (Lineage.isShown view)).map fun lineage =>
      lineage.comment.id := by
  rw [Pane.shown, Pane.commentSlots, stacked, view.map_id_stack, view.map_id_rows]

theorem View.ordered_of_stacked {view : View} {discussion : Discussion} {pane : Pane} {width : Nat}
    (distinct : discussion.ids.Nodup)
    (stacked : pane.slots = view.stack width 0 (view.rows discussion)) : pane.Ordered := by
  constructor
  · rw [Pane.commentSlots, stacked]
    exact (view.pairwise_stack width 0 _).filter _
  · rw [View.shown_of_stacked stacked]
    rw [Discussion.ids_eq_lineages] at distinct
    exact distinct.sublist (List.filter_sublist.map _)

/-- There is a row exactly if some comment is shown. -/
theorem View.rows_eq_nil_iff (view : View) (discussion : Discussion) :
    view.rows discussion = [] ↔ discussion.lineages.filter (Lineage.isShown view) = [] := by
  constructor
  · intro empty
    have shown := view.map_id_rows discussion
    rw [empty] at shown
    simpa using shown.symm
  · intro hidden
    rw [view.rows_eq_flatMap, hidden, List.flatMap_nil]

namespace Pane

/-- Rows with coordinates for all their lines are placed. The selected comment stays selected if it is
shown. Otherwise the first comment that is shown is selected, or none if there are no rows. As long as
the layout stays, a move down selects the next comment that is shown, in pre-order, and stays on the
last one; a move up selects the one before, and stays on the first. Except at the ends one undoes the
other, and the moves down from the first comment visit every comment that is shown, once and in
order. -/
theorem selection_walks_shown (pane : Pane) (area : Screen.Area) (view : View)
    {discussion : Discussion} (distinct : discussion.ids.Nodup)
    (fits : view.totalLines (contentWidth area) (view.rows discussion) < coordinateCount) :
    ∃ placed, pane.place area view (view.rows discussion) = .ok placed ∧
      let shown := (discussion.lineages.filter (Lineage.isShown view)).map fun lineage =>
        lineage.comment.id
      shown.Nodup ∧
      (∀ id ∈ shown, pane.selected = some id → placed.selected = some id) ∧
      ((∀ id ∈ shown, pane.selected ≠ some id) → placed.selected = shown.head?) ∧
      (placed.selected = none ↔ view.rows discussion = []) ∧
      ∀ moved : Pane, moved.slots = placed.slots → ∀ index id, shown[index]? = some id →
        moved.selected = some id →
        moved.selectBelow.selected = shown[min (index + 1) (shown.length - 1)]? ∧
        moved.selectAbove.selected = shown[index - 1]? ∧
        (index + 1 < shown.length → moved.selectBelow.selectAbove.selected = some id) ∧
        (0 < index → moved.selectAbove.selectBelow.selected = some id) ∧
        (index = 0 → (List.range shown.length).map (fun steps =>
          (selectBelow^[steps] moved).selected) = shown.map some) := by
  let fresh : Pane :=
    { pane with area, slots := view.stack (contentWidth area) 0 (view.rows discussion), caret := none }
  have listed : fresh.shown = _ :=
    @View.shown_of_stacked view discussion fresh (contentWidth area) rfl
  refine ⟨_, pane.place_eq_ok fits, ?_⟩
  intro shown
  change fresh.shown = shown at listed
  have ordered : fresh.Ordered := View.ordered_of_stacked distinct rfl
  have kept : ∀ id ∈ shown, pane.selected = some id → fresh.repairSelection.selected = some id := by
    intro id member selected
    exact selected_repairSelection (listed ▸ member) selected
  have first : (∀ id ∈ shown, pane.selected ≠ some id) →
      fresh.repairSelection.selected = shown.head? := by
    intro hidden
    rw [← listed] at hidden ⊢
    exact selected_repairSelection_of_hidden hidden
  refine ⟨listed ▸ ordered.distinct, kept, first, ?_, ?_⟩
  · rw [view.rows_eq_nil_iff, ← List.map_eq_nil_iff, ← List.head?_eq_none_iff]
    change fresh.repairSelection.selected = none ↔ shown.head? = none
    by_cases hidden : ∀ id ∈ shown, pane.selected ≠ some id
    · rw [first hidden]
    · simp only [ne_eq, not_forall, not_not] at hidden
      obtain ⟨id, member, selected⟩ := hidden
      rw [kept id member selected, List.head?_eq_none_iff]
      exact iff_of_false nofun (List.ne_nil_of_mem member)
  · intro moved same index id place selected
    have stacked : moved.slots = fresh.slots := by
      rw [same]
      exact fresh.slots_repairSelection
    have all : moved.shown = shown := (View.shown_of_stacked stacked).trans rfl
    have order : moved.Ordered := View.ordered_of_stacked distinct stacked
    rw [← all] at place ⊢
    refine ⟨order.selected_selectBelow place selected, order.selected_selectAbove place selected,
      order.selected_below_above place selected, order.selected_above_below place selected, ?_⟩
    rintro rfl
    exact order.map_selected_iterate place selected

/-- A move down from a comment that is being answered passes the reply under way. -/
theorem selection_past_openReply :
    exchange.ids.Nodup ∧
      answering.totalLines (contentWidth ⟨2, 1, 8, 5⟩) (answering.rows exchange) <
        coordinateCount ∧
      ∃ placed, ({ selected := some 2 } : Pane).place ⟨2, 1, 8, 5⟩ answering
          (answering.rows exchange) = .ok placed ∧
        placed.selected = some 2 ∧ placed.selectBelow.selected = some 3 ∧
        placed.selectAbove.selected = some 1 ∧
        placed.selectBelow.selectAbove.selected = some 2 := by
  have distinct : exchange.ids.Nodup := by decide +kernel
  have fits : answering.totalLines (contentWidth ⟨2, 1, 8, 5⟩) (answering.rows exchange) <
      coordinateCount := by decide +kernel
  obtain ⟨placed, laid, -, kept, -, -, moves⟩ :=
    selection_walks_shown { selected := some 2 } ⟨2, 1, 8, 5⟩ answering distinct fits
  have shown : (exchange.lineages.filter (Lineage.isShown answering)).map
      (fun lineage => lineage.comment.id) = [1, 2, 3, 4] := by decide +kernel
  rw [shown] at kept moves
  have selected : placed.selected = some 2 := kept 2 (by decide) rfl
  obtain ⟨below, above, back, -⟩ := moves placed rfl 1 2 rfl selected
  exact ⟨distinct, fits, placed, laid, selected, below, above, back (by decide)⟩

end Pane

end Colloquy
