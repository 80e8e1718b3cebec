import Colloquy.Text.Flow

/-!
# Screens

A screen is a grid of cells, each with a symbol and a look. Drawing writes symbols into cells and
changes looks; what lies outside the grid is not drawn. A symbol that is two columns wide stands in
its first cell, and the cell after it is cleared.
-/

namespace Colloquy.Screen

/-- The colours that are used; `reset` is the terminal's own. -/
inductive Color where
  | reset
  | red
  | green
  | blue
  | cyan
  | gray
  | darkGray
  deriving DecidableEq, Repr, Inhabited

/-- Emphasis of a symbol. -/
structure Emphasis where
  bold : Bool := false
  dim : Bool := false
  italic : Bool := false
  deriving DecidableEq, Repr, Inhabited

/-- Both emphases together. -/
def Emphasis.union (left right : Emphasis) : Emphasis :=
  ⟨left.bold || right.bold, left.dim || right.dim, left.italic || right.italic⟩

/-- A change of look: colours to set, if any, and emphasis to add. -/
structure Style where
  foreground : Option Color := none
  background : Option Color := none
  emphasis : Emphasis := {}
  deriving DecidableEq, Repr, Inhabited

namespace Style

/-- Change nothing. -/
def plain : Style := {}

/-- Set the foreground. -/
def colored (color : Color) : Style := { foreground := some color }

/-- Add bold. -/
def bold (style : Style) : Style :=
  { style with emphasis := { style.emphasis with bold := true } }

/-- Add dim. -/
def dim (style : Style) : Style :=
  { style with emphasis := { style.emphasis with dim := true } }

/-- Add italic. -/
def italic (style : Style) : Style :=
  { style with emphasis := { style.emphasis with italic := true } }

/-- One change after another. -/
def patch (style next : Style) : Style :=
  ⟨next.foreground.or style.foreground, next.background.or style.background,
    style.emphasis.union next.emphasis⟩

end Style

/-- One cell of a screen. A cell in which nothing was put shows a space. -/
structure Cell where
  content : Option String := none
  foreground : Color := .reset
  background : Color := .reset
  emphasis : Emphasis := {}
  deriving DecidableEq, Repr, Inhabited

namespace Cell

/-- An empty cell. -/
def blank : Cell := {}

/-- Change the look of a cell. -/
def restyle (cell : Cell) (style : Style) : Cell :=
  { cell with
    foreground := style.foreground.getD cell.foreground
    background := style.background.getD cell.background
    emphasis := cell.emphasis.union style.emphasis }

/-- What a cell shows. -/
def symbol (cell : Cell) : String :=
  cell.content.getD " "

/-- Put a symbol into a cell and change its look. -/
def put (cell : Cell) (symbol : String) (style : Style) : Cell :=
  { cell with content := some symbol }.restyle style

/-- Put marks behind what was put into a cell and change its look. -/
def append (cell : Cell) (marks : String) (style : Style) : Cell :=
  { cell with content := some (cell.content.getD "" ++ marks) }.restyle style

end Cell

/-- A rectangle of cells. -/
structure Area where
  x : Nat
  y : Nat
  width : Nat
  height : Nat
  deriving DecidableEq, Repr, Inhabited

namespace Area

/-- The column after the last one. -/
def right (area : Area) : Nat := area.x + area.width

/-- The row after the last one. -/
def bottom (area : Area) : Nat := area.y + area.height

/-- Whether the rectangle has no cell. -/
def isEmpty (area : Area) : Bool := area.width == 0 || area.height == 0

/-- Whether a position lies inside. -/
def contains (area : Area) (x y : Nat) : Bool :=
  area.x ≤ x && x < area.right && area.y ≤ y && y < area.bottom

/-- The common part of two rectangles. -/
def intersect (left right : Area) : Area :=
  let x := max left.x right.x
  let y := max left.y right.y
  ⟨x, y, min left.right right.right - x, min left.bottom right.bottom - y⟩

/-- The rectangle without some columns on its left. -/
def indent (area : Area) (columns : Nat) : Area :=
  ⟨area.x + min columns area.width, area.y, area.width - columns, area.height⟩

/-- The rectangle inside a border one cell wide. -/
def inside (area : Area) : Area :=
  ⟨area.x + min 1 area.width, area.y + min 1 area.height, area.width - 2, area.height - 2⟩

end Area

/-- A grid of cells, stored row after row. -/
structure Grid where
  width : Nat
  height : Nat
  cells : Array Cell
  deriving Repr, Inhabited

namespace Grid

/-- An empty grid. -/
def blank (width height : Nat) : Grid :=
  ⟨width, height, Array.replicate (width * height) Cell.blank⟩

/-- The whole grid as a rectangle. -/
def area (grid : Grid) : Area := ⟨0, 0, grid.width, grid.height⟩

/-- The cell at a position; outside the grid there are empty cells. -/
def cell (grid : Grid) (x y : Nat) : Cell :=
  if x < grid.width ∧ y < grid.height then grid.cells.getD (y * grid.width + x) Cell.blank
  else Cell.blank

/-- Change the cell at a position. -/
def modify (grid : Grid) (x y : Nat) (change : Cell → Cell) : Grid :=
  if x < grid.width ∧ y < grid.height then
    { grid with cells := grid.cells.modify (y * grid.width + x) change }
  else grid

/-- Change every cell of a row from a column on. -/
def modifyRow (change : Cell → Cell) (x y : Nat) : Nat → Grid → Grid
  | 0, grid => grid
  | count + 1, grid => modifyRow change (x + 1) y count (grid.modify x y change)

/-- Change every cell of some rows from a position on. -/
def modifyRows (change : Cell → Cell) (x y width : Nat) : Nat → Grid → Grid
  | 0, grid => grid
  | count + 1, grid => modifyRows change x (y + 1) width count (modifyRow change x y width grid)

/-- Change every cell of a rectangle. -/
def modifyArea (grid : Grid) (area : Area) (change : Cell → Cell) : Grid :=
  let visible := area.intersect grid.area
  modifyRows change visible.x visible.y visible.width visible.height grid

/-- Change the look of a rectangle. -/
def restyle (grid : Grid) (area : Area) (style : Style) : Grid :=
  grid.modifyArea area fun cell => cell.restyle style

/-- Empty a rectangle. -/
def clear (grid : Grid) (area : Area) : Grid :=
  grid.modifyArea area fun _ => Cell.blank

/-- Write clusters from a position on, into so many columns at most. Clusters that cannot be drawn
or have no width are left out, and the first one that does not fit ends the text. Gives the column
after the text. -/
def writeClusters (y : Nat) (style : Style) : Nat → Nat → List Text.Cluster → Grid → Grid × Nat
  | x, _, [], grid => (grid, x)
  | x, room, cluster :: rest, grid =>
      let width := cluster.width
      if !cluster.isDrawable || width = 0 then writeClusters y style x room rest grid
      else if room < width then (grid, x)
      else
        let written := grid.modify x y fun cell => cell.put (String.ofList cluster) style
        let cleared := modifyRow (fun _ => Cell.blank) (x + 1) y (width - 1) written
        writeClusters y style (x + width) (room - width) rest cleared

/-- Write text from a position on, into so many columns at most. -/
def write (grid : Grid) (x y : Nat) (text : String) (limit : Nat) (style : Style) : Grid × Nat :=
  writeClusters y style x (min (grid.width - x) limit) (Text.clusters text.toList) grid

/-- The cells of a row. -/
def row (grid : Grid) (y : Nat) : List Cell :=
  (List.range grid.width).map fun x => grid.cell x y

end Grid

end Colloquy.Screen
