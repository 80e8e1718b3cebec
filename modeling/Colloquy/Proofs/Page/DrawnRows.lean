import Colloquy.Page.PaneView
import Colloquy.Proofs.Page.Controls
import Colloquy.Proofs.Screen.PlainText

/-!
# Drawn rows

A row draws its thread lines first, and then only text that stands right of them. So the lines can
still be seen when the row is finished, and so can the bar, which is drawn last.
-/

namespace Colloquy

open Screen

/-- The cells of an area that thread lines run through, with a line of the comment's own or
without. -/
def threadRegion (area : Area) (levels : Nat) (own : Bool) : Region := fun x y =>
  area.y ≤ y ∧ y < area.bottom ∧ x < area.right ∧
    ∃ level, (level < levels ∨ own = true ∧ level = levels) ∧ x = area.x + level * threadIndent

/-! ## Thread lines -/

namespace Screen.Grid

variable (grid : Grid) (area : Area)

theorem stamps_drawThreadLine (y level : Nat) (style : Style) :
    Stamps threadLineSymbol
      (fun column row => row = y ∧ column < area.right ∧ column = area.x + level * threadIndent)
      grid (grid.drawThreadLine area y level style) := by
  unfold drawThreadLine
  simp only
  split
  next inside =>
    refine (Stamps.put grid _ y threadLineSymbol style).congr fun column row => ?_
    constructor
    · rintro ⟨rfl, rfl⟩
      exact ⟨rfl, inside, rfl⟩
    · rintro ⟨rfl, -, rfl⟩
      exact ⟨rfl, rfl⟩
  next outside =>
    refine (Stamps.none threadLineSymbol grid).congr fun column row => ?_
    refine iff_of_false id ?_
    rintro ⟨-, inside, rfl⟩
    exact outside inside

theorem stamps_drawThreadLines (levels : Nat) (own : Option Style) (y : Nat) :
    Stamps threadLineSymbol
      (fun column row => row = y ∧ column < area.right ∧
        ∃ level, (level < levels ∨ own.isSome = true ∧ level = levels) ∧
          column = area.x + level * threadIndent)
      grid (grid.drawThreadLines area levels own y) := by
  have ancestors := Stamps.foldl (List.range levels) (fun level _ grid =>
    grid.stamps_drawThreadLine area y level (Style.colored .darkGray)) grid
  cases own with
  | none =>
      refine ancestors.congr fun column row => ⟨?_, ?_⟩
      · rintro ⟨level, listed, same, inside, place⟩
        exact ⟨same, inside, level, .inl (List.mem_range.mp listed), place⟩
      · rintro ⟨same, inside, level, below | ⟨absurd, -⟩, place⟩
        · exact ⟨level, List.mem_range.mpr below, same, inside, place⟩
        · contradiction
  | some style =>
      have lines := ancestors.andThen (stamps_drawThreadLine _ area y levels style)
      refine lines.congr fun column row => ⟨?_, ?_⟩
      · rintro (⟨level, listed, same, inside, place⟩ | ⟨same, inside, place⟩)
        · exact ⟨same, inside, level, .inl (List.mem_range.mp listed), place⟩
        · exact ⟨same, inside, levels, .inr ⟨rfl, rfl⟩, place⟩
      · rintro ⟨same, inside, level, below | ⟨-, rfl⟩, place⟩
        · exact .inl ⟨level, List.mem_range.mpr below, same, inside, place⟩
        · exact .inr ⟨same, inside, place⟩

theorem stamps_drawThreads (levels : Nat) (own : Option Style) :
    Stamps threadLineSymbol (threadRegion area levels own.isSome) grid
      (grid.drawThreads area levels own) := by
  have rows := Stamps.foldl (List.range' area.y area.height) (fun y _ grid =>
    grid.stamps_drawThreadLines area levels own y) grid
  refine rows.congr fun column row => ⟨?_, ?_⟩
  · rintro ⟨y, listed, rfl, inside, level, shown, place⟩
    obtain ⟨top, bottom⟩ := List.mem_range'_1.mp listed
    exact ⟨top, bottom, inside, level, shown, place⟩
  · rintro ⟨top, bottom, inside, level, shown, place⟩
    exact ⟨row, List.mem_range'_1.mpr ⟨top, bottom⟩, rfl, inside, level, shown, place⟩

end Screen.Grid

namespace Row

variable (row : Row) (grid : Grid) (area : Area)

/-- Whether the line of a row's own comment runs through a line of the row. -/
def hasOwnLine (line : Nat) : Bool :=
  match row.kind with
  | .full => line != 0
  | .folded => false
  | .openReply => true

theorem hasOwnLine_iff {line : Nat} :
    row.hasOwnLine line = true ↔ row.kind = .openReply ∨ row.kind = .full ∧ line ≠ 0 := by
  unfold hasOwnLine
  cases row.kind with
  | full => simp
  | folded => simp
  | openReply => simp

/-- The cells of an area that the thread lines of a row run through. -/
def lineRegion : Region := fun x y =>
  area.y ≤ y ∧ y < area.bottom ∧
    ∃ level, (level < lineLevels row.depth area.width ∨
        row.hasOwnLine (y - area.y) = true ∧ level = lineLevels row.depth area.width) ∧
      x = area.x + level * threadIndent

/-- The cells of an area right of the thread lines of a row. -/
def textRegion : Region := fun x y =>
  area.y ≤ y ∧ y < area.bottom ∧
    area.x + (lineLevels row.depth area.width +
      if row.hasOwnLine (y - area.y) then 1 else 0) * threadIndent ≤ x

/-- No thread line runs through text. -/
theorem not_textRegion {x y : Nat} (line : row.lineRegion area x y) : ¬row.textRegion area x y := by
  obtain ⟨-, -, level, shown, rfl⟩ := line
  rintro ⟨-, -, right⟩
  have reached := Nat.le_of_mul_le_mul_right (Nat.le_of_add_le_add_left right) (by decide)
  rcases shown with ancestor | ⟨own, rfl⟩
  · omega
  · simp only [own, if_true] at reached
    omega

variable {area}

/-- There is room for all thread lines. -/
theorem line_lt_right (wide : 0 < area.width) (level : Nat)
    (shown : level ≤ lineLevels row.depth area.width) :
    area.x + level * threadIndent < area.right := by
  have half : lineLevels row.depth area.width ≤ area.width / 2 / threadIndent :=
    Nat.min_le_right _ _
  simp only [threadIndent, Area.right] at half ⊢
  omega

/-- A row draws a symbol wherever a thread line runs. -/
theorem stamps_drawLines (wide : 0 < area.width) (high : 0 < area.height) (selected : Bool) :
    Stamps threadLineSymbol (row.lineRegion area) grid (row.drawLines grid area selected) := by
  have inside := row.line_lt_right wide
  cases kind : row.kind with
  | folded =>
      simp only [drawLines, kind]
      refine (grid.stamps_drawThreads area _ none).congr fun x y => ?_
      simp only [lineRegion, hasOwnLine, kind]
      constructor
      · rintro ⟨top, bottom, -, shown⟩
        exact ⟨top, bottom, shown⟩
      · rintro ⟨top, bottom, level, shown, rfl⟩
        exact ⟨top, bottom, inside level (by omega), level, shown, rfl⟩
  | full =>
      simp only [drawLines, kind]
      let own := Style.colored (if selected then .cyan else .gray)
      refine ((grid.stamps_drawThreads { area with height := 1 } _ none).andThen
        (Grid.stamps_drawThreads _ { area with y := area.y + 1, height := area.height - 1 } _
          (some own))).congr fun x y => ?_
      simp only [lineRegion, hasOwnLine, kind, threadRegion, Area.bottom]
      constructor
      · rintro (⟨top, bottom, -, level, shown | ⟨absurd, -⟩, place⟩ |
          ⟨top, bottom, -, level, shown | ⟨-, last⟩, place⟩)
        · exact ⟨top, by omega, level, .inl shown, place⟩
        · contradiction
        · exact ⟨by omega, by omega, level, .inl shown, place⟩
        · exact ⟨by omega, by omega, level, .inr ⟨by simp; omega, last⟩, place⟩
      · rintro ⟨top, bottom, level, shown, rfl⟩
        by_cases header : y = area.y
        · subst header
          refine .inl ⟨top, by omega, inside level (by omega), level, ?_, rfl⟩
          simpa using shown
        · refine .inr ⟨by omega, by omega, inside level (by omega), level, ?_, rfl⟩
          exact shown.imp_right fun own => ⟨rfl, own.2⟩
  | openReply =>
      simp only [drawLines, kind]
      refine (grid.stamps_drawThreads { area with width := textColumn row.depth area.width } _
        (some (Style.colored .gray))).congr fun x y => ?_
      simp only [threadRegion, lineRegion, hasOwnLine, kind, Option.isSome_some]
      constructor
      · rintro ⟨top, bottom, -, shown⟩
        exact ⟨top, bottom, shown⟩
      · rintro ⟨top, bottom, level, shown, rfl⟩
        have beside : area.x + level * threadIndent < area.x + textColumn row.depth area.width := by
          simp only [textColumn, threadIndent]
          omega
        exact ⟨top, bottom, beside, level, shown, rfl⟩

/-! ## The bar -/

variable (area)

/-- The line of the bar. -/
def barLine : Nat := area.y + 1 + wrapCoordinate (row.wrappedBody area.width).length

/-- The character of the bar in a cell of the area. -/
def barCharacter? (x y : Nat) : Option Char :=
  if y = row.barLine area ∧ y < area.bottom ∧ area.x + textColumn row.depth area.width ≤ x then
    (Controls.ofScore row.score).text.toList[x - (area.x + textColumn row.depth area.width)]?
  else none

theorem changes_drawBar :
    ChangesWithin (fun x y => y = row.barLine area ∧ y < area.bottom ∧
      area.x + textColumn row.depth area.width ≤ x) grid (row.drawBar grid area) := by
  unfold drawBar
  simp only
  split
  next fits =>
    refine (grid.changes_write _ (row.barLine area) _ _ _).mono fun x y inside => ?_
    obtain ⟨right, top, bottom⟩ := inside
    have here : y = row.barLine area := by omega
    exact ⟨here, here ▸ fits, right⟩
  next => exact .refl _ grid

variable {grid area}

/-- The cells of the bar show its characters, and the bar changes no other cell. -/
theorem content_drawBar (full : grid.Full) {x y : Nat} (inWidth : x < grid.width)
    (inHeight : y < grid.height) (inside : x < area.right) :
    ((row.drawBar grid area).cell x y).content =
      ((row.barCharacter? area x y).map fun character => String.ofList [character]).or
        (grid.cell x y).content := by
  have plain := Controls.plain_text row.score
  unfold barCharacter?
  split
  next here =>
    obtain ⟨onLine, fits, right⟩ := here
    rw [onLine] at fits inHeight ⊢
    obtain ⟨column, rfl⟩ := Nat.exists_eq_add_of_le right
    have drawn : row.drawBar grid area = (grid.write (area.x + textColumn row.depth area.width)
        (row.barLine area) (Controls.ofScore row.score).text
        (area.right - (area.x + textColumn row.depth area.width)) (Style.colored .gray)).1 :=
      if_pos fits
    rw [drawn, Nat.add_sub_cancel_left]
    cases there : (Controls.ofScore row.score).text.toList[column]? with
    | some character =>
        rw [Grid.content_write_plain plain full there (by omega) inWidth inHeight]
        rfl
    | none =>
        have beyond := List.getElem?_eq_none_iff.mp there
        rw [(Grid.changes_write_plain plain grid _).outside _ _ fun ⟨_, _, stop⟩ => by omega]
        rfl
  next elsewhere =>
    rw [(row.changes_drawBar grid area).outside x y elsewhere]
    rfl

/-! ## Text -/

variable (grid)

theorem changes_drawBody (x : Nat) (y : Nat) (lines : List String) :
    ChangesWithin (.band x y area.bottom) grid (drawBody area x y lines grid) := by
  induction lines generalizing y grid with
  | nil => exact .refl _ grid
  | cons line rest ih =>
      simp only [drawBody]
      split
      · exact .refl _ grid
      · refine .trans ((grid.changes_write x y line _ _).mono ?_) ((ih _ _).mono ?_)
        · rintro column row ⟨right, top, bottom⟩
          exact ⟨right, top, by omega⟩
        · rintro column row ⟨right, top, bottom⟩
          exact ⟨right, by omega, bottom⟩

/-- What a folded comment draws over its thread lines is text. -/
theorem changes_drawFolded (kind : row.kind = .folded) (high : 0 < area.height) :
    ChangesWithin (row.textRegion area) (row.drawLines grid area false)
      (row.drawFolded grid area) := by
  refine (Grid.changes_writeLine _ _ _ _ _).mono ?_
  rintro x y ⟨right, top, bottom⟩
  have inside : y < area.bottom := by
    rw [Area.bottom]
    omega
  refine ⟨top, inside, ?_⟩
  simpa [hasOwnLine, kind] using right

/-- The header of a full row is text. -/
theorem header_subset_textRegion (kind : row.kind = .full) (high : 0 < area.height) {x y : Nat}
    (inside : Region.rowFrom (area.x + lineLevels row.depth area.width * threadIndent) area.y x y) :
    row.textRegion area x y := by
  obtain ⟨right, top, bottom⟩ := inside
  obtain rfl : y = area.y := by omega
  refine ⟨top, Nat.lt_add_of_pos_right high, ?_⟩
  simpa [hasOwnLine, kind] using right

/-- So is everything below it that stands beside the comment's own line. -/
theorem body_subset_textRegion (kind : row.kind = .full) {x y : Nat}
    (inside : Region.band (area.x + textColumn row.depth area.width) (area.y + 1) area.bottom x y) :
    row.textRegion area x y := by
  obtain ⟨right, top, bottom⟩ := inside
  have own : row.hasOwnLine (y - area.y) = true :=
    row.hasOwnLine_iff.mpr (.inr ⟨kind, by omega⟩)
  exact ⟨by omega, bottom, by simpa [own, textColumn] using right⟩

theorem bar_subset_body {x y : Nat} (inside : y = row.barLine area ∧ y < area.bottom ∧
    area.x + textColumn row.depth area.width ≤ x) :
    Region.band (area.x + textColumn row.depth area.width) (area.y + 1) area.bottom x y := by
  obtain ⟨here, bottom, right⟩ := inside
  rw [barLine] at here
  exact ⟨right, by omega, bottom⟩

/-- A full row draws text over its thread lines, then the bar, and at last perhaps changes the look
of the header. -/
theorem exists_written (kind : row.kind = .full) (high : 0 < area.height) (selected : Bool) :
    ∃ written, ChangesWithin (row.textRegion area) (row.drawLines grid area selected) written ∧
      ChangesWithin (.rowFrom (area.x + lineLevels row.depth area.width * threadIndent) area.y)
        (row.drawBar written area) (row.drawFull grid area selected) := by
  let headerX := area.x + lineLevels row.depth area.width * threadIndent
  let lined := row.drawLines grid area selected
  let headed := lined.writeLine headerX area.y row.header (area.right - headerX)
  let written := drawBody area (area.x + textColumn row.depth area.width) (area.y + 1)
    (row.wrappedBody area.width) headed
  have head : ChangesWithin (row.textRegion area) lined headed :=
    (lined.changes_writeLine _ _ _ _).mono fun _ _ => row.header_subset_textRegion kind high
  have body : ChangesWithin (row.textRegion area) headed written :=
    (changes_drawBody headed _ _ _).mono fun _ _ => row.body_subset_textRegion kind
  refine ⟨written, head.trans body, ?_⟩
  unfold drawFull
  simp only
  split
  · exact Grid.changes_restyle (row.drawBar written area)
      ⟨headerX, area.y, area.right - headerX, 1⟩ { background := some .darkGray }
  · exact .refl _ _

/-- What a full row draws over its thread lines is text. -/
theorem changes_drawFull (kind : row.kind = .full) (high : 0 < area.height) (selected : Bool) :
    ChangesWithin (row.textRegion area) (row.drawLines grid area selected)
      (row.drawFull grid area selected) := by
  obtain ⟨written, text, header⟩ := row.exists_written grid kind high selected
  have bar : ChangesWithin (row.textRegion area) written (row.drawBar written area) :=
    (row.changes_drawBar written area).mono fun _ _ inside =>
      row.body_subset_textRegion kind (row.bar_subset_body inside)
  exact (text.trans bar).trans (header.mono fun _ _ => row.header_subset_textRegion kind high)

/-- Only the line of a full row's own comment shows whether the row is selected. -/
theorem drawLines_eq_of_ne_full (kind : row.kind ≠ .full) (selected other : Bool) :
    row.drawLines grid area selected = row.drawLines grid area other := by
  unfold drawLines
  grind

theorem lineRegion_subset_band {x y : Nat} (inside : row.lineRegion area x y) : area.band x y := by
  obtain ⟨top, bottom, level, -, rfl⟩ := inside
  exact ⟨Nat.le_add_right _ _, top, bottom⟩

theorem textRegion_subset_band {x y : Nat} (inside : row.textRegion area x y) : area.band x y :=
  ⟨Nat.le_of_add_right_le inside.2.2, inside.1, inside.2.1⟩

end Row

/-! ## Rows in their slots -/

namespace Pane

variable (pane : Pane) (view : View) (focus : Focus) (canvas : Grid) (row : Row) (slot : Slot)

/-- The slot of a row on a canvas. -/
def field : Area := ⟨0, slot.top, canvas.width, slot.height⟩

/-- What a row draws in its slot over its thread lines is text. -/
theorem changes_drawRow_lines (high : 0 < slot.height)
    (opened : row.kind = .openReply → (view.openReply? slot.id).isSome) :
    ChangesWithin (row.textRegion (field canvas slot))
      (row.drawLines canvas (field canvas slot) (pane.selected == some slot.id))
      (pane.drawRow view focus canvas row slot) := by
  cases kind : row.kind with
  | full =>
      simp only [drawRow, Row.draw, kind]
      exact row.changes_drawFull canvas kind high _
  | folded =>
      simp only [drawRow, Row.draw, kind]
      rw [row.drawLines_eq_of_ne_full canvas (by simp [kind]) _ false]
      exact row.changes_drawFolded canvas kind high
  | openReply =>
      obtain ⟨reply, written⟩ := Option.isSome_iff_exists.mp (opened kind)
      simp only [drawRow, kind, written]
      rw [row.drawLines_eq_of_ne_full canvas (by simp [kind]) _ false]
      refine (Grid.changes_drawTextPanel _ _ _ _ _ _ _).mono ?_
      rintro x y ⟨right, top, bottom⟩
      refine ⟨top, bottom, ?_⟩
      simpa [Row.hasOwnLine, kind, field, Row.boxColumn, textColumn] using right

theorem stamps_field (wide : 0 < canvas.width) (high : 0 < slot.height) (selected : Bool) :
    Stamps threadLineSymbol (row.lineRegion (field canvas slot)) canvas
      (row.drawLines canvas (field canvas slot) selected) :=
  row.stamps_drawLines canvas wide high selected

/-- A row is drawn in its slot. -/
theorem changes_drawRow (wide : 0 < canvas.width) (high : 0 < slot.height)
    (opened : row.kind = .openReply → (view.openReply? slot.id).isSome) :
    ChangesWithin (.band 0 slot.top slot.bottom) canvas (pane.drawRow view focus canvas row slot) :=
  ((stamps_field canvas row slot wide high (pane.selected == some slot.id)).toChangesWithin.mono
      fun _ _ => row.lineRegion_subset_band).trans
    ((pane.changes_drawRow_lines view focus canvas row slot high opened).mono
      fun _ _ => row.textRegion_subset_band)

variable {pane view focus canvas row slot}

/-- The thread lines of a row that is drawn can be seen. -/
theorem content_line (full : canvas.Full) (high : 0 < slot.height)
    (opened : row.kind = .openReply → (view.openReply? slot.id).isSome) {x y : Nat}
    (inWidth : x < canvas.width) (inHeight : y < canvas.height)
    (line : row.lineRegion (field canvas slot) x y) :
    ((pane.drawRow view focus canvas row slot).cell x y).content = some threadLineSymbol := by
  have text := pane.changes_drawRow_lines view focus canvas row slot high opened
  rw [text.outside x y (row.not_textRegion _ line)]
  exact (stamps_field canvas row slot (Nat.zero_lt_of_lt inWidth) high _).inside
    full x y line inWidth inHeight

/-- The bar of a full row that is drawn can be seen. -/
theorem content_bar (full : canvas.Full) (kind : row.kind = .full) (high : 0 < slot.height)
    {x y : Nat} (inWidth : x < canvas.width) (inHeight : y < canvas.height) {character : Char}
    (shown : row.barCharacter? (field canvas slot) x y = some character) :
    ((pane.drawRow view focus canvas row slot).cell x y).content =
      some (String.ofList [character]) := by
  have wide : 0 < canvas.width := Nat.zero_lt_of_lt inWidth
  have lines := stamps_field canvas row slot wide high (pane.selected == some slot.id)
  have solid : 0 < (field canvas slot).height := high
  obtain ⟨written, text, header⟩ := row.exists_written canvas kind solid
    (pane.selected == some slot.id)
  have below : y = row.barLine (field canvas slot) :=
    (Option.ite_none_right_eq_some.mp shown).1.1
  have size : written.width = canvas.width ∧ written.height = canvas.height :=
    ⟨text.width.trans lines.width, text.height.trans lines.height⟩
  have bar : ((row.drawBar written (field canvas slot)).cell x y).content = _ :=
    row.content_drawBar (text.full (lines.full full)) (size.1 ▸ inWidth) (size.2 ▸ inHeight)
      (by simpa [field, Area.right] using inWidth)
  rw [shown] at bar
  simp only [drawRow, Row.draw, kind]
  have apart : ¬Region.rowFrom ((field canvas slot).x +
      lineLevels row.depth (field canvas slot).width * threadIndent) (field canvas slot).y x y := by
    rintro ⟨-, -, bottom⟩
    rw [Row.barLine] at below
    omega
  exact (congrArg Cell.content (header.outside x y apart)).trans bar

end Pane

end Colloquy
