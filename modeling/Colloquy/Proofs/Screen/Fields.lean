import Colloquy.Proofs.Screen.Cells

/-!
# Drawing keeps to its field

Text, lines, panels and paragraphs change no cell left of where they start, and none in a row outside
their field.
-/

namespace Colloquy.Screen

/-- The cells of an area's rows from its first column on. -/
def Area.band (area : Area) : Region := .band area.x area.y area.bottom

namespace ChangesWithin

variable {before after : Grid}

/-- What changes a row from a column on changes it from every column before that on. -/
theorem leftwards {x y left row : Nat} (changes : ChangesWithin (.rowFrom x y) before after)
    (start : left ≤ x) (same : y = row) : ChangesWithin (.rowFrom left row) before after :=
  changes.mono fun _ _ inside => ⟨Nat.le_trans start inside.1, same ▸ inside.2⟩

/-- What changes some rows of an area from a column in it on keeps to the area. -/
theorem inArea {area : Area} {left top bottom : Nat}
    (changes : ChangesWithin (.band left top bottom) before after) (start : area.x ≤ left)
    (above : area.y ≤ top) (below : bottom ≤ area.bottom) : ChangesWithin area.band before after :=
  changes.mono fun _ _ inside =>
    ⟨Nat.le_trans start inside.1, Nat.le_trans above inside.2.1, Nat.lt_of_lt_of_le inside.2.2 below⟩

theorem modifyFrom (grid : Grid) {x left : Nat} (y : Nat) (change : Cell → Cell)
    (start : left ≤ x) : ChangesWithin (.rowFrom left y) grid (grid.modify x y change) :=
  (ChangesWithin.modify grid x y change).mono fun column row here => by
    obtain ⟨rfl, rfl⟩ := here
    exact ⟨start, Nat.le.refl, Nat.lt_succ_self _⟩

/-- The visible part of an area lies in the area. -/
theorem ofVisible {area : Area}
    (changes : ChangesWithin (area.intersect before.area).band before after) :
    ChangesWithin area.band before after := by
  refine changes.inArea (Nat.le_max_left _ _) (Nat.le_max_left _ _) ?_
  simp only [Area.intersect, Area.bottom, Grid.area]
  omega

end ChangesWithin

namespace Grid

/-! ## Rectangles -/

theorem changes_modifyRow (change : Cell → Cell) (x y count : Nat) (grid : Grid) :
    ChangesWithin (.rowFrom x y) grid (modifyRow change x y count grid) := by
  induction count generalizing x grid with
  | zero => exact .refl _ grid
  | succ count ih =>
      exact (ChangesWithin.modifyFrom grid y change Nat.le.refl).trans
        ((ih (x + 1) _).leftwards (Nat.le_succ x) rfl)

theorem changes_modifyRows (change : Cell → Cell) (x y width count : Nat) (grid : Grid) :
    ChangesWithin (.band x y (y + count)) grid (modifyRows change x y width count grid) := by
  induction count generalizing y grid with
  | zero => exact .refl _ grid
  | succ count ih =>
      refine ((changes_modifyRow change x y width grid).mono ?_).trans ((ih (y + 1) _).mono ?_)
      · rintro column row ⟨right, top, bottom⟩
        exact ⟨right, top, by omega⟩
      · rintro column row ⟨right, top, bottom⟩
        exact ⟨right, by omega, by omega⟩

theorem changes_modifyArea (grid : Grid) (area : Area) (change : Cell → Cell) :
    ChangesWithin area.band grid (grid.modifyArea area change) :=
  .ofVisible (changes_modifyRows change _ _ _ _ grid)

theorem changes_restyle (grid : Grid) (area : Area) (style : Style) :
    ChangesWithin area.band grid (grid.restyle area style) :=
  grid.changes_modifyArea area _

/-! ## Text -/

theorem changes_writeClusters (y : Nat) (style : Style) (x room : Nat)
    (clusters : List Text.Cluster) (grid : Grid) :
    x ≤ (writeClusters y style x room clusters grid).2 ∧
      ChangesWithin (.rowFrom x y) grid (writeClusters y style x room clusters grid).1 := by
  induction clusters generalizing x room grid with
  | nil => exact ⟨Nat.le.refl, .refl _ grid⟩
  | cons cluster rest ih =>
      simp only [writeClusters]
      split
      · exact ih x room grid
      · split
        · exact ⟨Nat.le.refl, .refl _ grid⟩
        · let written := grid.modify x y fun cell => cell.put (String.ofList cluster) style
          let cleared := modifyRow (fun _ => Cell.blank) (x + 1) y (cluster.width - 1) written
          obtain ⟨further, later⟩ := ih (x + cluster.width) (room - cluster.width) cleared
          refine ⟨Nat.le_of_add_right_le further, ?_⟩
          exact ((ChangesWithin.modifyFrom grid y _ Nat.le.refl).trans
            ((changes_modifyRow _ _ y _ written).leftwards (Nat.le_succ x) rfl)).trans
            (later.leftwards (Nat.le_add_right x _) rfl)

theorem changes_write (grid : Grid) (x y : Nat) (text : String) (limit : Nat) (style : Style) :
    ChangesWithin (.rowFrom x y) grid (grid.write x y text limit style).1 :=
  (changes_writeClusters y style x _ _ grid).2

theorem changes_writeSpans (y : Nat) (lineStyle : Style) (x room : Nat) (spans : List Span)
    (grid : Grid) : ChangesWithin (.rowFrom x y) grid (writeSpans y lineStyle x room spans grid) := by
  induction spans generalizing x room grid with
  | nil => exact .refl _ grid
  | cons span rest ih =>
      simp only [writeSpans]
      split
      · exact .refl _ grid
      · obtain ⟨further, first⟩ := changes_writeClusters y (lineStyle.patch span.style) x
          (min (grid.width - x) room) (Text.clusters span.text.toList) grid
        exact first.trans ((ih _ _ _).leftwards further rfl)

theorem changes_writeLine (grid : Grid) (x y : Nat) (line : Line) (limit : Nat) :
    ChangesWithin (.rowFrom x y) grid (grid.writeLine x y line limit) :=
  changes_writeSpans y line.style x limit line.spans grid

theorem changes_showClusters {start : Nat} (stop y : Nat) (style : Style) (isFirst : Bool) {x : Nat}
    (reached : start ≤ x) (clusters : List Text.Cluster) (grid : Grid) :
    ChangesWithin (.rowFrom start y) grid
      (showClusters start stop y style isFirst x clusters grid) := by
  induction clusters generalizing isFirst x grid with
  | nil => exact .refl _ grid
  | cons cluster rest ih =>
      simp only [showClusters]
      split
      · exact .refl _ grid
      · have cleared (shown : Grid) := (changes_modifyRow (fun _ => Cell.blank) (x + 1) y
          (cluster.width - 1) shown).leftwards (Nat.le_succ_of_le reached) rfl
        refine .trans ?_ ((cleared _).trans (ih false (Nat.le_add_right_of_le reached) _))
        split
        · exact .modifyFrom grid y _ reached
        · split
          · exact .modifyFrom grid y _ reached
          · split
            · exact .modifyFrom grid y _ (by omega)
            · exact .modifyFrom grid y _ reached

theorem changes_showSpan (grid : Grid) (field : Area) (span : Span) :
    ChangesWithin (.rowFrom field.x field.y) grid (grid.showSpan field span) := by
  unfold showSpan
  simp only
  split
  · exact .refl _ grid
  · exact (changes_showClusters _ _ _ _ Nat.le.refl _ grid).leftwards (Nat.le_max_left _ _)
      (Nat.max_eq_left (Nat.zero_le _))

theorem changes_showSpans (field : Area) (spans : List (Span × Nat)) (grid : Grid) :
    ChangesWithin (.rowFrom field.x field.y) grid (showSpans field spans grid) := by
  induction spans generalizing field grid with
  | nil => exact .refl _ grid
  | cons placed rest ih =>
      obtain ⟨span, offset⟩ := placed
      simp only [showSpans]
      split
      · exact .refl _ grid
      · let start := field.indent offset
        have indented : field.x ≤ start.x := Nat.le_add_right _ _
        have later := ih (start.indent span.width) (grid.showSpan start span)
        exact ((changes_showSpan grid start span).leftwards indented rfl).trans
          (later.leftwards (Nat.le_add_right_of_le indented) rfl)

theorem changes_showLine (grid : Grid) (field : Area) (line : Line) :
    ChangesWithin (.rowFrom field.x field.y) grid (grid.showLine field line) := by
  unfold showLine
  simp only
  split
  · exact .refl _ grid
  · let row : Area := { field.intersect grid.area with height := 1 }
    have right : field.x ≤ row.x := Nat.le_max_left _ _
    have level : row.y = field.y := Nat.max_eq_left (Nat.zero_le _)
    have styled : ChangesWithin (.rowFrom field.x field.y) grid (grid.restyle row line.style) :=
      (grid.changes_restyle row line.style).leftwards right level
    split
    · exact styled.trans
        ((changes_showSpans _ _ _).leftwards (Nat.le_add_right_of_le right) level)
    · exact styled.trans ((changes_showSpans _ _ _).leftwards right level)

/-! ## Panels -/

/-- A border is drawn within the area that it surrounds. -/
theorem changes_drawBorder (grid : Grid) {area : Area} (solid : area.isEmpty = false)
    (border : Border) (style : Style) :
    ChangesWithin area.band grid (grid.drawBorder area border style) := by
  obtain ⟨wide, high⟩ : 0 < area.width ∧ 0 < area.height := by
    simpa [Area.isEmpty, Nat.pos_iff_ne_zero] using solid
  have last : area.x ≤ area.right - 1 := by
    rw [Area.right]
    omega
  have floor : area.y ≤ area.bottom - 1 ∧ area.bottom - 1 < area.bottom := by
    rw [Area.bottom]
    omega
  have side (part : Area) (change : Cell → Cell) (next : Grid) (start : area.x ≤ part.x)
      (above : area.y ≤ part.y) (below : part.bottom ≤ area.bottom) :
      ChangesWithin area.band next (next.modifyArea part change) :=
    (next.changes_modifyArea part change).inArea start above below
  have corner (x y : Nat) (change : Cell → Cell) (next : Grid) (start : area.x ≤ x)
      (above : area.y ≤ y) (below : y < area.bottom) :
      ChangesWithin area.band next (next.modify x y change) :=
    (ChangesWithin.modifyFrom next y change Nat.le.refl).inArea start above below
  have first : area.y < area.bottom := by omega
  unfold drawBorder
  refine .trans ?_ (corner area.x area.y _ _ Nat.le.refl Nat.le.refl first)
  refine .trans ?_ (corner area.x (area.bottom - 1) _ _ Nat.le.refl floor.1 floor.2)
  refine .trans ?_ (corner (area.right - 1) area.y _ _ last Nat.le.refl first)
  refine .trans ?_ (corner (area.right - 1) (area.bottom - 1) _ _ last floor.1 floor.2)
  refine .trans ?_ (side ⟨area.x, area.bottom - 1, area.width, 1⟩ _ _ Nat.le.refl floor.1 ?_)
  · refine .trans ?_ (side ⟨area.right - 1, area.y, 1, area.height⟩ _ _ last Nat.le.refl Nat.le.refl)
    refine .trans ?_ (side ⟨area.x, area.y, area.width, 1⟩ _ _ Nat.le.refl Nat.le.refl first)
    exact side ⟨area.x, area.y, 1, area.height⟩ _ _ Nat.le.refl Nat.le.refl Nat.le.refl
  · exact floor.2

theorem changes_showTitle (grid : Grid) (row : Area) (title : Line) :
    ChangesWithin (.rowFrom row.x row.y) grid (grid.showTitle row title) := by
  have start : row.x ≤ row.x + min 1 row.width := Nat.le_add_right _ _
  unfold showTitle
  simp only
  split
  · refine (changes_showLine grid _ title).leftwards ?_ rfl
    exact Nat.le_trans start (Nat.le_max_left _ _)
  · exact (changes_showLine grid _ title).leftwards start rfl
  · exact (changes_showLine grid _ title).leftwards start rfl

theorem changes_drawPanel (grid : Grid) (area : Area) (panel : Panel) :
    ChangesWithin area.band grid (grid.drawPanel area panel) := by
  unfold drawPanel
  simp only
  cases empty : (area.intersect grid.area).isEmpty with
  | true => exact .refl _ grid
  | false =>
      let visible := area.intersect grid.area
      have rows : visible.y < visible.bottom := by
        have high : 0 < visible.height := by
          simp only [Area.isEmpty, Bool.or_eq_false_iff, beq_eq_false_iff_ne] at empty
          exact Nat.pos_of_ne_zero empty.2
        rw [Area.bottom]
        omega
      have title (row : Area) (line : Line) (next : Grid) (start : visible.x ≤ row.x)
          (above : visible.y ≤ row.y) (below : row.y < visible.bottom) :
          ChangesWithin visible.band next (next.showTitle row line) :=
        (changes_showTitle next row line).inArea start above below
      have drawn : ChangesWithin visible.band grid
          ((grid.drawBorder visible panel.border panel.style).showTitle
            { visible with height := 1 } panel.title) :=
        (changes_drawBorder grid empty _ _).trans
          (title _ _ _ Nat.le.refl Nat.le.refl rows)
      simp only [Bool.false_eq_true, if_false]
      apply ChangesWithin.ofVisible
      split
      · exact drawn.trans (title _ _ _ Nat.le.refl (Nat.le_sub_one_of_lt rows)
          (Nat.sub_one_lt_of_lt rows))
      · exact drawn

/-! ## Paragraphs -/

theorem changes_drawClusters (y : Nat) (style : Style) (x : Nat) (clusters : List Text.Cluster)
    (grid : Grid) : ChangesWithin (.rowFrom x y) grid (drawClusters y style x clusters grid) := by
  induction clusters generalizing x grid with
  | nil => exact .refl _ grid
  | cons cluster rest ih =>
      simp only [drawClusters]
      split
      · exact ih x grid
      · exact (ChangesWithin.modifyFrom grid y _ Nat.le.refl).trans
          ((ih _ _).leftwards (Nat.le_add_right x _) rfl)

theorem changes_drawLines (field : Area) (style : Style) (alignment : Alignment) (row : Nat)
    (lines : List (List Text.Cluster)) (grid : Grid) :
    ChangesWithin field.band grid (drawLines field style alignment row lines grid) := by
  induction lines generalizing row grid with
  | nil => exact .refl _ grid
  | cons line rest ih =>
      simp only [drawLines]
      split
      · exact .refl _ grid
      · refine .trans ?_ (ih (row + 1) _)
        refine (changes_drawClusters (field.y + row) style _ line grid).inArea
          (Nat.le_add_right _ _) (Nat.le_add_right _ _) ?_
        rw [Area.bottom]
        omega

theorem changes_drawParagraph (grid : Grid) (field : Area) (text : String) (style : Style)
    (alignment : Alignment) (overflow : Overflow) :
    ChangesWithin field.band grid (grid.drawParagraph field text style alignment overflow) := by
  unfold drawParagraph
  simp only
  split
  · exact .refl _ grid
  · exact .ofVisible ((changes_restyle grid _ style).trans (changes_drawLines _ _ _ _ _ _))

theorem changes_drawTextPanel (grid : Grid) (area : Area) (panel : Panel) (text : String)
    (style : Style) (alignment : Alignment) (overflow : Overflow) :
    ChangesWithin area.band grid
      (grid.drawTextPanel area panel text style alignment overflow) := by
  let visible := area.intersect grid.area
  have inner : visible.inside.bottom ≤ visible.bottom := by
    simp only [Area.inside, Area.bottom]
    omega
  have framed := (changes_restyle grid visible style).trans (changes_drawPanel _ visible panel)
  exact .ofVisible (framed.trans ((changes_drawParagraph _ visible.inside text style alignment
    overflow).inArea (Nat.le_add_right _ _) (Nat.le_add_right _ _) inner))

end Grid

end Colloquy.Screen
