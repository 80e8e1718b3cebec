import Colloquy.Screen.Panel

/-!
# What drawing changes

Drawing changes cells of a region and leaves every other cell as it was. Drawing one symbol into all
cells of a region is told apart, since it can then be said what they show. Both follow a drawing from
step to step: the regions of the steps are put together.
-/

namespace Colloquy.Screen

/-- A part of a screen, by columns and rows. -/
abbrev Region := Nat → Nat → Prop

namespace Region

/-- One cell. -/
def point (x y : Nat) : Region := fun column row => column = x ∧ row = y

/-- The cells of some rows from a column on. -/
def band (left top bottom : Nat) : Region := fun x y => left ≤ x ∧ top ≤ y ∧ y < bottom

/-- The cells of one row from a column on. -/
def rowFrom (left y : Nat) : Region := band left y (y + 1)

end Region

namespace Grid

/-- Every position of the grid has a cell. -/
def Full (grid : Grid) : Prop := grid.cells.size = grid.width * grid.height

theorem full_blank (width height : Nat) : (blank width height).Full := by
  simp [Full, blank]

@[simp] theorem cell_blank (width height x y : Nat) :
    (blank width height).cell x y = Cell.blank := by
  unfold cell
  split
  · simp [blank, Array.getElem?_replicate]
    grind
  · rfl

/-- Different positions of a grid are different places in its store. -/
theorem place_inj {width x y x' y' : Nat} (inside : x < width) (inside' : x' < width)
    (same : y * width + x = y' * width + x') : x = x' ∧ y = y' := by
  have columns := congrArg (· % width) same
  have rows := congrArg (· / width) same
  have positive : 0 < width := by omega
  simp only [Nat.mul_comm _ width, Nat.mul_add_mod, Nat.mod_eq_of_lt inside,
    Nat.mod_eq_of_lt inside'] at columns
  simp only [Nat.mul_comm _ width, Nat.mul_add_div positive, Nat.div_eq_of_lt inside,
    Nat.div_eq_of_lt inside'] at rows
  exact ⟨columns, by simpa using rows⟩

theorem cell_modify_of_ne (grid : Grid) {x y x' y' : Nat} (change : Cell → Cell)
    (apart : ¬Region.point x y x' y') : (grid.modify x y change).cell x' y' = grid.cell x' y' := by
  unfold modify
  split
  next inside =>
    unfold cell
    split
    next inside' =>
      have elsewhere : y * grid.width + x ≠ y' * grid.width + x' := fun same =>
        have ⟨columns, rows⟩ := place_inj inside.1 inside'.1 same
        apart ⟨columns.symm, rows.symm⟩
      simp [Array.getD_eq_getD_getElem?, Array.getElem?_modify, elsewhere]
    next => rfl
  next => rfl

theorem cell_modify_self {grid : Grid} (full : grid.Full) {x y : Nat} (change : Cell → Cell)
    (inWidth : x < grid.width) (inHeight : y < grid.height) :
    (grid.modify x y change).cell x y = change (grid.cell x y) := by
  have stored : y * grid.width + x < grid.cells.size := by
    rw [full, Nat.mul_comm grid.width]
    have below : (y + 1) * grid.width ≤ grid.height * grid.width :=
      Nat.mul_le_mul_right _ inHeight
    rw [Nat.succ_mul] at below
    omega
  simp [modify, cell, inWidth, inHeight, stored, Array.getElem_modify]

end Grid

/-- One grid comes from another by changing cells of a region only. -/
structure ChangesWithin (region : Region) (before after : Grid) : Prop where
  width : after.width = before.width
  height : after.height = before.height
  full : before.Full → after.Full
  outside : ∀ x y, ¬region x y → after.cell x y = before.cell x y

namespace ChangesWithin

variable {region larger : Region} {first second third : Grid}

theorem refl (region : Region) (grid : Grid) : ChangesWithin region grid grid :=
  ⟨rfl, rfl, id, fun _ _ _ => rfl⟩

theorem trans (left : ChangesWithin region first second)
    (right : ChangesWithin region second third) : ChangesWithin region first third :=
  ⟨right.width.trans left.width, right.height.trans left.height, right.full ∘ left.full,
    fun x y apart => (right.outside x y apart).trans (left.outside x y apart)⟩

theorem mono (changes : ChangesWithin region first second)
    (within : ∀ x y, region x y → larger x y) : ChangesWithin larger first second :=
  ⟨changes.width, changes.height, changes.full,
    fun x y apart => changes.outside x y fun inside => apart (within x y inside)⟩

theorem modify (grid : Grid) (x y : Nat) (change : Cell → Cell) :
    ChangesWithin (.point x y) grid (grid.modify x y change) := by
  refine ⟨?_, ?_, ?_, fun _ _ apart => grid.cell_modify_of_ne change apart⟩
  all_goals
    unfold Grid.modify
    split
    · simp [Grid.Full]
    · simp

end ChangesWithin

/-- One grid comes from another by putting a symbol into every cell of a region. -/
structure Stamps (symbol : String) (region : Region) (before after : Grid) : Prop
    extends ChangesWithin region before after where
  inside : before.Full → ∀ x y, region x y → x < before.width → y < before.height →
    (after.cell x y).content = some symbol

namespace Stamps

variable {symbol : String} {region other : Region} {first second third : Grid}

theorem none (symbol : String) (grid : Grid) : Stamps symbol (fun _ _ => False) grid grid :=
  ⟨.refl _ grid, fun _ _ _ absurd => absurd.elim⟩

theorem congr (stamps : Stamps symbol region first second)
    (same : ∀ x y, region x y ↔ other x y) : Stamps symbol other first second := by
  have equal : region = other := funext fun x => funext fun y => propext (same x y)
  exact equal ▸ stamps

/-- The regions of two drawings are put together. -/
theorem andThen (left : Stamps symbol region first second)
    (right : Stamps symbol other second third) :
    Stamps symbol (fun x y => region x y ∨ other x y) first third := by
  refine ⟨(left.mono fun _ _ => .inl).trans (right.mono fun _ _ => .inr), ?_⟩
  intro full x y inside inWidth inHeight
  by_cases again : other x y
  · exact right.inside (left.full full) x y again (left.width ▸ inWidth) (left.height ▸ inHeight)
  · rw [right.outside x y again]
    exact left.inside full x y (inside.resolve_right again) inWidth inHeight

theorem foldl {α : Type} {draw : Grid → α → Grid} {region : α → Region} (items : List α)
    (each : ∀ item ∈ items, ∀ grid, Stamps symbol (region item) grid (draw grid item))
    (grid : Grid) :
    Stamps symbol (fun x y => ∃ item ∈ items, region item x y) grid (items.foldl draw grid) := by
  induction items generalizing grid with
  | nil => exact (none symbol grid).congr (by simp)
  | cons item rest ih =>
      have later := ih (fun other member => each other (List.mem_cons_of_mem item member))
        (draw grid item)
      exact ((each item List.mem_cons_self grid).andThen later).congr (by simp)

theorem put (grid : Grid) (x y : Nat) (symbol : String) (style : Style) :
    Stamps symbol (.point x y) grid (grid.modify x y fun cell => cell.put symbol style) := by
  refine ⟨.modify grid x y _, ?_⟩
  rintro full _ _ ⟨rfl, rfl⟩ inWidth inHeight
  rw [Grid.cell_modify_self full _ inWidth inHeight]
  rfl

end Stamps

end Colloquy.Screen
