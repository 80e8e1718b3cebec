import Mathlib.Data.List.Induction
import Colloquy.Page.Page
import Colloquy.Proofs.Page.Layout

/-!
# Scrolling

However a pane is drawn, scrolled and clicked, and however its selection moves, it shows nothing below
the end of the canvas unless the canvas is shorter than the pane. There is one exception: two pages
overlap by a row, so a page up in a pane that had no rows when it was last drawn goes down by a row,
and nothing brings it back.

A comment that the selection moves to is shown as a whole, or from its first row on if the pane is too
short for it.
-/

namespace Colloquy

namespace Pane

variable {pane next : Pane} {event : InputEvent}

/-- The last scroll position: there the pane ends with the canvas, or starts with it if the canvas is
shorter. -/
def lastOffset (pane : Pane) : Nat :=
  pane.contentHeight - pane.area.height

/-- The pane shows nothing below the end of the canvas that it could fill with more of the canvas. -/
def InBounds (pane : Pane) : Prop :=
  pane.offset ≤ pane.lastOffset

/-- The canvas ends with the slots. -/
def Encloses (pane : Pane) : Prop :=
  ∀ slot ∈ pane.slots, slot.bottom ≤ pane.contentHeight

theorem inBounds_limitOffset (pane : Pane) : pane.limitOffset.InBounds :=
  Nat.min_le_right _ _

theorem mem_slots_of_commentSlots {slot : Slot} (member : slot ∈ pane.commentSlots) :
    slot ∈ pane.slots :=
  List.mem_of_mem_filter member

theorem mem_commentSlots_of_selection? {slot : Slot} (shown : pane.selection? = some slot) :
    slot ∈ pane.commentSlots := by
  obtain ⟨id, -, found⟩ := Option.bind_eq_some_iff.mp shown
  exact List.mem_of_find?_eq_some found

/-! ## The selected comment -/

/-- The selected comment is in view: all of it if the pane is high enough, and otherwise from its first
row on. -/
def ShowsSelection (pane : Pane) : Prop :=
  ∃ slot, pane.selection? = some slot ∧
    (slot.height ≤ pane.area.height →
      pane.offset ≤ slot.top ∧ slot.bottom ≤ pane.offset + pane.area.height) ∧
    (pane.area.height < slot.height → pane.offset = slot.top)

/-- The scroll position nearest to the present one that shows a slot, or as much of it as fits from its
top. -/
def offsetShowing (pane : Pane) (slot : Slot) : Nat :=
  if slot.top < pane.offset then slot.top
  else if pane.offset + pane.area.height < slot.bottom then
    min (slot.bottom - pane.area.height) slot.top
  else pane.offset

theorem reveal_of_selection? {slot : Slot} (shown : pane.selection? = some slot) :
    pane.reveal = { pane with offset := pane.offsetShowing slot } := by
  rw [reveal, shown, offsetShowing]
  simp only
  split
  · rfl
  · split
    · rfl
    · rfl

theorem exists_reveal (pane : Pane) : ∃ offset, pane.reveal = { pane with offset } := by
  cases shown : pane.selection? with
  | none => exact ⟨pane.offset, by rw [reveal, shown]⟩
  | some slot => exact ⟨_, reveal_of_selection? shown⟩

theorem showsSelection_reveal {slot : Slot} (shown : pane.selection? = some slot) :
    pane.reveal.ShowsSelection := by
  have bottom : slot.bottom = slot.top + slot.height := rfl
  rw [reveal_of_selection? shown]
  refine ⟨slot, shown, ?_⟩
  simp only [offsetShowing]
  split
  · constructor <;> omega
  · split
    · constructor <;> omega
    · constructor <;> omega

theorem reveal_of_showsSelection (shows : pane.ShowsSelection) : pane.reveal = pane := by
  obtain ⟨slot, shown, whole, cut⟩ := shows
  have bottom : slot.bottom = slot.top + slot.height := rfl
  rw [reveal, shown]
  simp only
  rcases Nat.lt_or_ge pane.area.height slot.height with high | fits
  · have start := cut high
    have top : min (slot.bottom - pane.area.height) slot.top = pane.offset := by omega
    rw [if_neg (by omega), if_pos (by omega), top]
  · obtain ⟨above, below⟩ := whole fits
    rw [if_neg (by omega), if_neg (by omega)]

/-- Showing the selected comment goes to a place on the canvas. -/
theorem InBounds.reveal (bounded : pane.InBounds) (encloses : pane.Encloses) :
    pane.reveal.InBounds := by
  cases shown : pane.selection? with
  | none => simpa [Pane.reveal, shown] using bounded
  | some slot =>
      have inside := encloses slot (mem_slots_of_commentSlots (mem_commentSlots_of_selection? shown))
      have start : pane.offset ≤ pane.contentHeight - pane.area.height := bounded
      rw [reveal_of_selection? shown]
      change pane.offsetShowing slot ≤ pane.contentHeight - pane.area.height
      unfold offsetShowing
      split
      · omega
      · split
        · omega
        · exact start

/-! ## Moves of the selection -/

/-- The slot that a move down goes to. -/
def below? (pane : Pane) : Option Slot :=
  match pane.selection? with
  | some current => pane.commentSlots.find? fun slot => current.top < slot.top
  | none => pane.commentSlots.head?

/-- The slot that a move up goes to. -/
def above? (pane : Pane) : Option Slot :=
  match pane.selection? with
  | some current => pane.commentSlots.reverse.find? fun slot => slot.top < current.top
  | none => pane.commentSlots.head?

theorem selectBelow_eq (pane : Pane) : pane.selectBelow = pane.select pane.below? := rfl

theorem selectAbove_eq (pane : Pane) : pane.selectAbove = pane.select pane.above? := rfl

theorem mem_of_below? {slot : Slot} (found : pane.below? = some slot) :
    slot ∈ pane.commentSlots := by
  unfold below? at found
  split at found
  · exact List.mem_of_find?_eq_some found
  · exact List.mem_of_head? found

theorem mem_of_above? {slot : Slot} (found : pane.above? = some slot) :
    slot ∈ pane.commentSlots := by
  unfold above? at found
  split at found
  · exact List.mem_reverse.mp (List.mem_of_find?_eq_some found)
  · exact List.mem_of_head? found

/-- A comment that has a slot is shown once it is selected. -/
theorem showsSelection_select {slot : Slot} (member : slot ∈ pane.commentSlots) :
    (pane.select (some slot)).ShowsSelection := by
  have listed : ∃ other ∈ pane.commentSlots, (other.id == slot.id) = true :=
    ⟨slot, member, beq_self_eq_true slot.id⟩
  obtain ⟨found, shown⟩ := Option.isSome_iff_exists.mp (List.find?_isSome.mpr listed)
  exact @showsSelection_reveal { pane with selected := some slot.id } found shown

theorem exists_select (pane : Pane) (slot : Option Slot) :
    ∃ selected offset, pane.select slot = { pane with selected, offset } := by
  cases slot with
  | none => exact ⟨pane.selected, pane.offset, rfl⟩
  | some slot =>
      obtain ⟨offset, revealed⟩ := exists_reveal { pane with selected := some slot.id }
      exact ⟨some slot.id, offset, revealed⟩

theorem InBounds.select (bounded : pane.InBounds) (encloses : pane.Encloses)
    (slot : Option Slot) : (pane.select slot).InBounds := by
  cases slot with
  | none => exact bounded
  | some slot =>
      exact @InBounds.reveal { pane with selected := some slot.id } bounded encloses

/-! ## Events -/

/-- A page up would go below the canvas: the pane had no rows when it was last drawn, and the row by
which two pages overlap is all that is left of the page. -/
def Overshoots (pane : Pane) : Prop :=
  pane.pageHeight = some 0 ∧ pane.lastOffset < further pane.offset 1

theorem exists_scroll (pane : Pane) (event : InputEvent) :
    ∃ offset, pane.scroll event = { pane with offset } := by
  cases event with
  | scrollUp | scrollDown | pageUp | pageDown => exact ⟨_, rfl⟩
  | _ => exact ⟨pane.offset, rfl⟩

/-- Scrolling stays on the canvas unless a page up overshoots. -/
theorem inBounds_scroll_iff (bounded : pane.InBounds) :
    (pane.scroll event).InBounds ↔ (event = .pageUp → ¬pane.Overshoots) := by
  have start : pane.offset ≤ pane.lastOffset := bounded
  cases event with
  | pageUp =>
      change further pane.offset 1 - pane.page ≤ pane.lastOffset ↔ _
      have near : further pane.offset 1 ≤ pane.offset + 1 := Nat.min_le_left _ _
      simp only [true_implies, Overshoots, page]
      cases pages : pane.pageHeight with
      | none => grind
      | some rows => cases rows <;> grind
  | scrollUp =>
      refine iff_of_true ?_ nofun
      change pane.offset - 1 ≤ pane.lastOffset
      omega
  | scrollDown => exact iff_of_true (inBounds_limitOffset _) nofun
  | pageDown => exact iff_of_true (inBounds_limitOffset _) nofun
  | _ => exact iff_of_true bounded nofun

/-- What an event can do to a pane. -/
inductive Moves (pane : Pane) (event : InputEvent) : Pane → Prop where
  /-- At most the selection changes. -/
  | chosen (selected : Option CommentId) (other : event ≠ .pageUp) :
      Moves pane event { pane with selected }
  | scrolled : Moves pane event (pane.scroll event)
  /-- The selection moves to a slot. -/
  | moved (selected : Option CommentId) (slot : Option Slot) (other : event ≠ .pageUp) :
      Moves pane event (({ pane with selected } : Pane).select slot)

theorem Moves.exists_eq (moves : pane.Moves event next) :
    ∃ selected offset, next = { pane with selected, offset } := by
  cases moves with
  | chosen selected => exact ⟨selected, pane.offset, rfl⟩
  | scrolled =>
      obtain ⟨offset, same⟩ := pane.exists_scroll event
      exact ⟨pane.selected, offset, same⟩
  | moved selected slot => exact exists_select { pane with selected } slot

theorem Moves.encloses (moves : pane.Moves event next) (encloses : pane.Encloses) :
    next.Encloses := by
  obtain ⟨selected, offset, rfl⟩ := moves.exists_eq
  exact encloses

/-- An event leaves the pane on the canvas unless it is a page up that overshoots. -/
theorem Moves.inBounds_iff (moves : pane.Moves event next) (encloses : pane.Encloses)
    (bounded : pane.InBounds) : next.InBounds ↔ (event = .pageUp → ¬pane.Overshoots) := by
  cases moves with
  | chosen selected other => exact iff_of_true bounded fun same => absurd same other
  | scrolled => exact inBounds_scroll_iff bounded
  | moved selected slot other =>
      have kept := @InBounds.select { pane with selected } bounded encloses slot
      exact iff_of_true kept fun same => absurd same other

end Pane

namespace Page

variable (page : Page) (app : App) (moment : Moment)

theorem pane_toggleReply (id : CommentId) :
    (page.toggleReply app moment id).page.pane = page.pane := by
  simp only [toggleReply]
  split
  · rfl
  · rfl

theorem pane_onSelected {turn : CommentId → Turn} (same : ∀ id, (turn id).page.pane = page.pane) :
    (page.onSelected app turn).page.pane = page.pane := by
  unfold onSelected
  split
  · exact same _
  · rfl

theorem pane_compose (id : CommentId) (event : InputEvent) :
    (page.compose app moment id event).page.pane = page.pane := by
  unfold compose
  split
  · rfl
  · simp only
    split
    · rfl
    · rfl
    · rfl
    · rfl
    · rfl
    · rfl

/-- A click moves the selection at most. -/
theorem exists_pane_click (column row : Nat) :
    ∃ selected, (page.click app moment column row).page.pane = { page.pane with selected } := by
  unfold click
  split
  · exact ⟨page.pane.selected, rfl⟩
  · exact ⟨page.pane.selected, rfl⟩
  · exact ⟨some _, rfl⟩
  · exact ⟨page.pane.selected, rfl⟩
  · exact ⟨some _, (page.selecting _).pane_toggleReply app moment _⟩
  · exact ⟨page.pane.selected, rfl⟩
  · exact ⟨some _, rfl⟩

theorem moves_browse {event : InputEvent} (other : event ≠ .pageUp) :
    page.pane.Moves event (page.browse app moment event).page.pane := by
  have same {next : Pane} (kept : next = page.pane) : page.pane.Moves event next := by
    rw [kept]
    exact .chosen page.pane.selected other
  unfold browse
  split
  · exact .moved page.pane.selected _ other
  · exact .moved page.pane.selected _ other
  · exact .moved page.pane.selected _ other
  · exact .moved page.pane.selected _ other
  · exact .moved none _ other
  · exact same rfl
  · exact same (page.pane_onSelected app fun id => rfl)
  · exact same (page.pane_onSelected app fun id => rfl)
  · exact same (page.pane_onSelected app (page.pane_toggleReply app moment))
  · exact same (page.pane_onSelected app fun id => rfl)
  · exact same (page.pane_onSelected app fun id => rfl)
  · refine same (page.pane_onSelected app fun id => ?_)
    split
    · rfl
    · rfl
  · exact same rfl

/-- Every event does one of these things to the pane of a page. -/
theorem moves_handle (event : InputEvent) :
    page.pane.Moves event (page.handle app moment event).page.pane := by
  unfold handle
  split
  · exact .chosen page.pane.selected nofun
  · exact .chosen page.pane.selected nofun
  · exact .scrolled
  · exact .scrolled
  · exact .scrolled
  · exact .scrolled
  · rename_i column row
    obtain ⟨selected, clicked⟩ := page.exists_pane_click app moment column row
    rw [clicked]
    exact .chosen selected nofun
  · have other : event ≠ .pageUp := by assumption
    split
    · exact page.moves_browse app moment other
    · rw [pane_compose]
      exact .chosen page.pane.selected other

end Page

namespace Pane

/-! ## Runs -/

variable {pane next : Pane}

/-- Something that happens to a pane. -/
inductive Motion where
  /-- The rows of a discussion are drawn in it. -/
  | drawn (grid : Screen.Grid) (area : Screen.Area) (view : View) (discussion : Discussion)
      (focus : Focus) (loading : Bool)
  /-- A page that it is part of meets an event. -/
  | handled (page : Page) (app : App) (moment : Moment) (event : InputEvent)

/-- The pane after something happened to it. It stays as it is where drawing stops the program. -/
def after (pane : Pane) : Motion → Pane
  | .drawn grid area view discussion focus loading =>
      match pane.draw grid area view (view.rows discussion) focus loading with
      | .ok (drawn, _) => drawn
      | .error _ => pane
  | .handled page app moment event => ({ page with pane }.handle app moment event).page.pane

/-- The pane after several things happened to it. -/
def run (pane : Pane) (motions : List Motion) : Pane :=
  motions.foldl after pane

theorem run_concat (pane : Pane) (motions : List Motion) (motion : Motion) :
    pane.run (motions ++ [motion]) = (pane.run motions).after motion := by
  simp [run]

theorem encloses_of_place {placed : Pane} {area : Screen.Area} {view : View} {rows : List Row}
    (laid : pane.place area view rows = .ok placed) : placed.Encloses := by
  obtain ⟨-, -, stacked⟩ := stacked_of_place laid
  intro slot member
  rw [stacked] at member
  rw [contentHeight, stacked, view.canvasHeight_stack]
  simpa using view.bottom_le_of_mem_stack _ member

theorem inBounds_of_place {placed : Pane} {area : Screen.Area} {view : View} {rows : List Row}
    (laid : pane.place area view rows = .ok placed) : placed.InBounds := by
  obtain ⟨slots, -, laid⟩ := bind_eq_ok_iff.mp laid
  obtain ⟨-, -, laid⟩ := bind_eq_ok_iff.mp laid
  obtain rfl := Except.ok.inj laid
  exact inBounds_limitOffset _

/-- A pane that was drawn shows a part of the canvas. -/
theorem of_draw {grid canvas : Screen.Grid} {area : Screen.Area} {view : View} {rows : List Row}
    {focus : Focus} {loading : Bool}
    (shown : pane.draw grid area view rows focus loading = .ok (next, canvas)) :
    next.Encloses ∧ next.InBounds := by
  obtain ⟨placed, laid, shown⟩ := bind_eq_ok_iff.mp shown
  have encloses := encloses_of_place laid
  have bounded := inBounds_of_place laid
  split at shown
  · obtain ⟨rfl, -⟩ := Prod.mk.inj (Except.ok.inj shown)
    exact ⟨encloses, bounded⟩
  · obtain ⟨caret, -, shown⟩ := bind_eq_ok_iff.mp shown
    obtain ⟨rfl, -⟩ := Prod.mk.inj (Except.ok.inj shown)
    exact ⟨encloses, bounded⟩

theorem Encloses.after (encloses : pane.Encloses) (motion : Motion) :
    (pane.after motion).Encloses := by
  cases motion with
  | drawn grid area view discussion focus loading =>
      simp only [Pane.after]
      split
      next shown => exact (of_draw shown).1
      next => exact encloses
  | handled page app moment event =>
      rw [Pane.after]
      exact ({ page with pane }.moves_handle app moment event).encloses encloses

/-- What happens leaves a pane on the canvas unless it is a page up that overshoots. -/
theorem inBounds_after_iff (encloses : pane.Encloses) (bounded : pane.InBounds) (motion : Motion) :
    (pane.after motion).InBounds ↔
      ∀ page app moment, motion = .handled page app moment .pageUp → ¬pane.Overshoots := by
  cases motion with
  | drawn grid area view discussion focus loading =>
      constructor
      · intro _ page app moment same
        contradiction
      · intro _
        simp only [after]
        split
        next shown => exact (of_draw shown).2
        next => exact bounded
  | handled page app moment event =>
      have moves := { page with pane }.moves_handle app moment event
      rw [after, moves.inBounds_iff encloses bounded]
      constructor
      · intro kept page app moment same
        cases same
        exact kept rfl
      · intro kept same
        subst same
        exact kept page app moment rfl

theorem Encloses.run (encloses : pane.Encloses) (motions : List Motion) :
    (pane.run motions).Encloses := by
  induction motions generalizing pane with
  | nil => exact encloses
  | cons motion rest ih => exact ih (encloses.after motion)

/-- A run leaves a pane on the canvas all the time unless some page up in it overshoots. -/
theorem inBounds_run_iff (encloses : pane.Encloses) (bounded : pane.InBounds)
    (motions : List Motion) :
    (∀ front, front <+: motions → (pane.run front).InBounds) ↔
      ∀ front page app moment, front ++ [.handled page app moment .pageUp] <+: motions →
        ¬(pane.run front).Overshoots := by
  constructor
  · intro kept front page app moment begins
    have before := kept front ((List.prefix_append front _).trans begins)
    have behind := kept _ begins
    rw [run_concat, inBounds_after_iff (encloses.run front) before] at behind
    exact behind page app moment rfl
  · intro spared front begins
    induction front using List.reverseRecOn with
    | nil => exact bounded
    | append_singleton front motion ih =>
        have before := ih ((List.prefix_append front _).trans begins)
        rw [run_concat, inBounds_after_iff (encloses.run front) before]
        rintro page app moment rfl
        exact spared front page app moment begins

/-- A pane is drawn, scrolled, clicked and moved through in any order. Its scroll position never
exceeds the height of the canvas less that of the pane, exactly if no page up is struck at the end of
the canvas after the pane had no rows to draw in. Where the selection of any pane moves to a slot,
above or below, the selected comment is shown as a whole if it fits the pane, and else from its first
row on; showing it again changes nothing. -/
theorem scroll_position_of_run (motions : List Motion) :
    ((∀ front, front <+: motions → (({} : Pane).run front).offset ≤
          (({} : Pane).run front).contentHeight - (({} : Pane).run front).area.height) ↔
        ∀ front page app moment, front ++ [.handled page app moment .pageUp] <+: motions →
          ¬(({} : Pane).run front).Overshoots) ∧
      ∀ pane : Pane,
        (pane.below?.isSome → pane.selectBelow.ShowsSelection ∧
          pane.selectBelow.reveal = pane.selectBelow) ∧
        (pane.above?.isSome → pane.selectAbove.ShowsSelection ∧
          pane.selectAbove.reveal = pane.selectAbove) := by
  have unplaced : ({} : Pane).Encloses := nofun
  have unscrolled : ({} : Pane).InBounds := Nat.zero_le _
  have bounds := inBounds_run_iff unplaced unscrolled motions
  simp only [InBounds, lastOffset] at bounds
  refine ⟨bounds, fun pane => ⟨?_, ?_⟩⟩
  · intro present
    obtain ⟨slot, found⟩ := Option.isSome_iff_exists.mp present
    have shows := showsSelection_select (mem_of_below? found)
    rw [selectBelow_eq, found]
    exact ⟨shows, reveal_of_showsSelection shows⟩
  · intro present
    obtain ⟨slot, found⟩ := Option.isSome_iff_exists.mp present
    have shows := showsSelection_select (mem_of_above? found)
    rw [selectAbove_eq, found]
    exact ⟨shows, reveal_of_showsSelection shows⟩

/-- A pane without rows is scrolled to the end of a canvas of three rows, and then up a page. -/
def pagedWithoutRows : List Motion :=
  let quiet : App := { session := .memory none }
  [.drawn (.blank 20 2) ⟨0, 1, 20, 0⟩ {} ⟨[⟨⟨1, "ada", "One", "", 0, false⟩, []⟩]⟩ none false,
    .handled {} quiet {} .scrollDown, .handled {} quiet {} .scrollDown,
    .handled {} quiet {} .scrollDown, .handled {} quiet {} .pageUp]

/-- The page up goes down, to a fourth row that the canvas does not have. -/
theorem offset_pagedWithoutRows :
    (({} : Pane).run pagedWithoutRows).offset = 4 ∧
      (({} : Pane).run pagedWithoutRows).contentHeight = 3 ∧
      (({} : Pane).run pagedWithoutRows).area.height = 0 := by
  decide +kernel

end Pane

end Colloquy
