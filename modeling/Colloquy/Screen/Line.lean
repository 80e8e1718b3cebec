import Colloquy.Screen.Grid

/-!
# Styled lines

A line of text in differently styled spans, written from the left up to a limit or shown in a field
with an alignment. A line that is too long for its field loses its end, or its start if it is
aligned to the right.
-/

namespace Colloquy.Screen

/-- Text with one look. -/
structure Span where
  text : String
  style : Style := {}
  deriving DecidableEq, Repr, Inhabited

/-- Where a line stands in its field. -/
inductive Alignment where
  | left
  | center
  | right
  deriving DecidableEq, Repr, Inhabited

/-- A line of spans. The look of the line applies to its whole field. -/
structure Line where
  spans : List Span
  style : Style := {}
  alignment : Alignment := .left
  deriving Repr, Inhabited

namespace Span

/-- The columns of a span. -/
def width (span : Span) : Nat := Text.width span.text

end Span

namespace Line

/-- A line with one look; the text is cut into spans at line feeds. -/
def styled (text : String) (style : Style) : Line :=
  let spans := if text.isEmpty then [] else
    (Text.displayLines text.toList).map fun part => { text := String.ofList part : Span }
  { spans, style }

/-- The columns of a line. -/
def width (line : Line) : Nat :=
  line.spans.foldl (fun columns span => columns + span.width) 0

/-- Drop clusters from the start until the rest fits the columns. -/
def fitEnd (columns : Nat) : List Text.Cluster → List Text.Cluster
  | [] => []
  | cluster :: rest =>
      if Text.totalWidth (cluster :: rest) ≤ columns then cluster :: rest
      else fitEnd columns rest

/-- The spans that are left when columns are cut off at the start. Each comes with the columns it
is indented by. -/
def dropColumns : Nat → List Span → List (Span × Nat)
  | _, [] => []
  | columns, span :: rest =>
      if span.width ≤ columns then dropColumns (columns - span.width) rest
      else
        let room := span.width - columns
        let kept :=
          if columns = 0 then Text.clusters span.text.toList
          else fitEnd room (Text.clusters span.text.toList)
        let shown := { span with text := String.ofList kept.flatten }
        (shown, if columns = 0 then 0 else room - shown.width) ::
          dropColumns 0 rest

end Line

namespace Grid

/-- Write the spans of a line from a position on, into so many columns at most. -/
def writeSpans (y : Nat) (lineStyle : Style) : Nat → Nat → List Span → Grid → Grid
  | _, _, [], grid => grid
  | x, room, span :: rest, grid =>
      if room = 0 then grid
      else
        let (written, stop) := grid.write x y span.text room (lineStyle.patch span.style)
        writeSpans y lineStyle stop (room - (stop - x)) rest written

/-- Write a line from a position on, into so many columns at most. -/
def writeLine (grid : Grid) (x y : Nat) (line : Line) (limit : Nat) : Grid :=
  writeSpans y line.style x limit line.spans grid

/-- Show clusters in a row up to a column. Clusters without width join the symbol before them, or
the first cell if nothing else is in it. -/
def showClusters (start stop y : Nat) (style : Style) :
    Bool → Nat → List Text.Cluster → Grid → Grid
  | _, _, [], grid => grid
  | isFirst, x, cluster :: rest, grid =>
      if stop < x + cluster.width then grid
      else
        let symbol := String.ofList cluster
        let shown :=
          if isFirst then grid.modify x y fun cell => cell.put symbol style
          else if x = start then grid.modify x y fun cell => cell.append symbol style
          else if cluster.width = 0 then grid.modify (x - 1) y fun cell => cell.append symbol style
          else grid.modify x y fun cell => cell.put symbol style
        let cleared := modifyRow (fun _ => Cell.blank) (x + 1) y (cluster.width - 1) shown
        showClusters start stop y style false (x + cluster.width) rest cleared

/-- Show a span at the start of a field one row high. -/
def showSpan (grid : Grid) (field : Area) (span : Span) : Grid :=
  let visible := field.intersect grid.area
  if visible.isEmpty then grid
  else
    showClusters visible.x visible.right visible.y span.style true visible.x
      (Text.drawable span.text.toList) grid

/-- Show spans one after the other. -/
def showSpans : Area → List (Span × Nat) → Grid → Grid
  | _, [], grid => grid
  | field, (span, offset) :: rest, grid =>
      let start := field.indent offset
      if start.isEmpty then grid
      else showSpans (start.indent span.width) rest (grid.showSpan start span)

/-- Show a line in the first row of a field. -/
def showLine (grid : Grid) (field : Area) (line : Line) : Grid :=
  let visible := field.intersect grid.area
  if visible.isEmpty || line.width = 0 then grid
  else
    let row := { visible with height := 1 }
    let styled := grid.restyle row line.style
    if line.width ≤ row.width then
      let offset :=
        match line.alignment with
        | .left => 0
        | .center => (row.width - line.width) / 2
        | .right => row.width - line.width
      showSpans (row.indent offset) (line.spans.map fun span => (span, 0)) styled
    else
      let cut :=
        match line.alignment with
        | .left => 0
        | .center => (line.width - row.width) / 2
        | .right => line.width - row.width
      showSpans row (Line.dropColumns cut line.spans) styled

end Grid

end Colloquy.Screen
