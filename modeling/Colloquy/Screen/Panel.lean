import Colloquy.Screen.Line

/-!
# Panels

Bordered panels with titles, and paragraphs of text inside them.
-/

namespace Colloquy.Screen

/-- The eight symbols of a border. -/
structure Border where
  vertical : String := "│"
  horizontal : String := "─"
  topLeft : String
  topRight : String
  bottomLeft : String
  bottomRight : String
  deriving Repr, Inhabited

namespace Border

/-- A border with round corners. -/
def rounded : Border :=
  { topLeft := "╭", topRight := "╮", bottomLeft := "╰", bottomRight := "╯" }

/-- A border with square corners. -/
def square : Border :=
  { topLeft := "┌", topRight := "┐", bottomLeft := "└", bottomRight := "┘" }

end Border

/-- A bordered panel with a title in its top border and perhaps one in its bottom border. -/
structure Panel where
  border : Border
  style : Style := {}
  title : Line
  bottomTitle : Option Line := none
  deriving Inhabited

namespace Grid

/-- Draw a border along the edge of a rectangle. In a rectangle one cell high or wide the sides
fall together, and the upper left corner is drawn last. -/
def drawBorder (grid : Grid) (area : Area) (border : Border) (style : Style) : Grid :=
  let put (symbol : String) (cell : Cell) : Cell := cell.put symbol style
  let last := area.right - 1
  let floor := area.bottom - 1
  let grid := grid.modifyArea ⟨area.x, area.y, 1, area.height⟩ (put border.vertical)
  let grid := grid.modifyArea ⟨area.x, area.y, area.width, 1⟩ (put border.horizontal)
  let grid := grid.modifyArea ⟨last, area.y, 1, area.height⟩ (put border.vertical)
  let grid := grid.modifyArea ⟨area.x, floor, area.width, 1⟩ (put border.horizontal)
  let grid := grid.modify last floor (put border.bottomRight)
  let grid := grid.modify last area.y (put border.topRight)
  let grid := grid.modify area.x floor (put border.bottomLeft)
  grid.modify area.x area.y (put border.topLeft)

/-- Show a title in a border row, between the corners. -/
def showTitle (grid : Grid) (row : Area) (title : Line) : Grid :=
  let room : Area := ⟨row.x + min 1 row.width, row.y, row.width - 2, 1⟩
  let width := min title.width room.width
  match title.alignment with
  | .right => grid.showLine ⟨max room.x (room.right - title.width), room.y, width, 1⟩ title
  | .left | .center => grid.showLine { room with width } title

/-- Draw a panel. -/
def drawPanel (grid : Grid) (area : Area) (panel : Panel) : Grid :=
  let visible := area.intersect grid.area
  if visible.isEmpty then grid
  else
    let grid := grid.drawBorder visible panel.border panel.style
    let grid := grid.showTitle { visible with height := 1 } panel.title
    match panel.bottomTitle with
    | some title => grid.showTitle { visible with y := visible.bottom - 1, height := 1 } title
    | none => grid

/-- How a paragraph treats lines that are too long: cut off, or flowing on with or without the
blanks that would start a line. -/
inductive Overflow where
  | cut
  | flow (dropLeading : Bool)
  deriving DecidableEq, Repr

/-- The lines of a paragraph in a field of the given width. -/
def paragraphLines (text : String) (overflow : Overflow) (width : Nat) :
    List (List Text.Cluster) :=
  if width = 0 then []
  else
    (Text.displayLines text.toList).flatMap fun line =>
      match overflow with
      | .cut => [Text.truncateLine width width (Text.drawable line)]
      | .flow dropLeading => Text.Flow.line width dropLeading line

/-- Draw the clusters of a paragraph's line. -/
def drawClusters (y : Nat) (style : Style) : Nat → List Text.Cluster → Grid → Grid
  | _, [], grid => grid
  | x, cluster :: rest, grid =>
      if cluster.width = 0 then drawClusters y style x rest grid
      else
        drawClusters y style (x + cluster.width) rest
          (grid.modify x y fun cell => cell.put (String.ofList cluster) style)

/-- Draw lines of clusters one below the other. -/
def drawLines (field : Area) (style : Style) (alignment : Alignment) :
    Nat → List (List Text.Cluster) → Grid → Grid
  | _, [], grid => grid
  | row, line :: rest, grid =>
      if field.height ≤ row then grid
      else
        let width := Text.totalWidth line
        let offset :=
          match alignment with
          | .left => 0
          | .center => field.width / 2 - width / 2
          | .right => field.width - width
        drawLines field style alignment (row + 1) rest
          (drawClusters (field.y + row) style (field.x + offset) line grid)

/-- Draw a paragraph in a field. -/
def drawParagraph (grid : Grid) (field : Area) (text : String) (style : Style)
    (alignment : Alignment) (overflow : Overflow) : Grid :=
  let visible := field.intersect grid.area
  if visible.isEmpty then grid
  else
    drawLines visible style alignment 0 (paragraphLines text overflow visible.width)
      (grid.restyle visible style)

/-- Draw a panel with a paragraph inside. The look of the paragraph applies to the whole panel. -/
def drawTextPanel (grid : Grid) (area : Area) (panel : Panel) (text : String) (style : Style)
    (alignment : Alignment) (overflow : Overflow) : Grid :=
  let visible := area.intersect grid.area
  let grid := (grid.restyle visible style).drawPanel visible panel
  grid.drawParagraph visible.inside text style alignment overflow

end Grid

end Colloquy.Screen
