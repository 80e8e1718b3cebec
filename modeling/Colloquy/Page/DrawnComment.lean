import Colloquy.Discussion.Row
import Colloquy.Screen.Panel
import Colloquy.Text.Blank
import Colloquy.Text.Wrap

/-!
# Drawn comments

One comment as it is drawn: a header, the wrapped body and a bar with the vote and reply controls,
or a single line if it is folded. On the left stand the thread lines, one for every ancestor; a
comment that is not folded has one of its own beside everything but the header.

Deep in a discussion only the nearest ancestors get a line, so that half of the width is left for
text.
-/

namespace Colloquy

/-- The columns of one thread line. -/
def threadIndent : Nat := 2

/-- The number of ancestors that get a thread line. -/
def lineLevels (depth width : Nat) : Nat :=
  min depth (width / 2 / threadIndent)

/-- The first column of the text beside the thread lines, the comment's own line included. -/
def textColumn (depth width : Nat) : Nat :=
  (lineLevels depth width + 1) * threadIndent

/-- Where the controls of a comment stand, in columns from the start of the bar. -/
structure Controls where
  text : String
  upvote : Nat
  downvote : Nat
  reply : Nat
  deriving DecidableEq, Repr, Inhabited

/-- The bar for a score. -/
def Controls.ofScore (score : Int64) : Controls :=
  let shown := toString score.toInt
  let downvote := 2 + shown.length + 1
  { text := "▲ " ++ shown ++ " ▼  Reply"
    upvote := 0
    downvote
    reply := downvote + 3 }

namespace Row

open Screen

/-- The lines of the body. -/
def wrappedBody (row : Row) (width : Nat) : List String :=
  let body := Text.trim row.comment.body
  if body.isEmpty then [""]
  else
    (Text.Wrap.wrap (width - textColumn row.depth width) body.toList).map String.ofList

/-- The number of rows of the screen that a comment takes. -/
def height (row : Row) (width : Nat) : Except Fault Nat :=
  match row.kind with
  | .folded => .ok 1
  | .full | .openReply => coordinate (1 + wrapCoordinate (row.wrappedBody width).length + 1)

end Row

namespace Screen

/-- The symbol of a thread line. -/
def threadLineSymbol : String := "│"

/-- Draw the thread line of a level in one row. -/
def Grid.drawThreadLine (grid : Grid) (area : Area) (y level : Nat) (style : Style) : Grid :=
  let x := area.x + level * threadIndent
  if x < area.right then grid.modify x y fun cell => cell.put threadLineSymbol style else grid

/-- Draw a thread line for every level in one row, and one more if a look for it is given. -/
def Grid.drawThreadLines (grid : Grid) (area : Area) (levels : Nat) (own : Option Style)
    (y : Nat) : Grid :=
  let ancestors := (List.range levels).foldl
    (fun grid level => grid.drawThreadLine area y level (Style.colored .darkGray)) grid
  match own with
  | some style => ancestors.drawThreadLine area y levels style
  | none => ancestors

/-- Draw the thread lines of a rectangle. -/
def Grid.drawThreads (grid : Grid) (area : Area) (levels : Nat) (own : Option Style) : Grid :=
  (List.range' area.y area.height).foldl
    (fun grid y => grid.drawThreadLines area levels own y) grid

end Screen

namespace Row

open Screen

/-- Who wrote the comment and when. -/
def header (row : Row) : Line :=
  let comment := row.comment
  let poster := (Style.colored .blue).bold
  let author : Span :=
    ⟨"u/" ++ comment.author, if comment.byPostAuthor then poster else Style.plain.bold⟩
  let age : List Span :=
    if comment.label.isEmpty then [] else [⟨" · " ++ comment.label, Style.colored .darkGray⟩]
  let mark : List Span := if comment.byPostAuthor then [⟨" [OP]", poster⟩] else []
  { spans := author :: age ++ mark }

/-- What a folded comment shows. -/
def foldedLine (row : Row) : Line :=
  { spans :=
      [⟨"[+] ", (Style.colored .cyan).bold⟩,
        ⟨"u/" ++ row.comment.author, Style.colored .darkGray⟩,
        ⟨" Comment hidden", (Style.colored .darkGray).italic⟩] }

/-- Draw the thread lines that run through a row. A reply under way stands beside the line of the
comment it answers. -/
def drawLines (row : Row) (grid : Grid) (area : Area) (selected : Bool) : Grid :=
  let levels := lineLevels row.depth area.width
  match row.kind with
  | .folded => grid.drawThreads area levels none
  | .full =>
      let own := Style.colored (if selected then .cyan else .gray)
      let header := grid.drawThreads { area with height := 1 } levels none
      header.drawThreads { area with y := area.y + 1, height := area.height - 1 } levels own
  | .openReply =>
      grid.drawThreads { area with width := textColumn row.depth area.width } levels
        (Style.colored .gray)

/-- Draw a folded comment. -/
def drawFolded (row : Row) (grid : Grid) (area : Area) : Grid :=
  let x := area.x + lineLevels row.depth area.width * threadIndent
  (row.drawLines grid area false).writeLine x area.y row.foldedLine (area.right - x)

/-- Draw the lines of a body as far as they fit. -/
def drawBody (area : Area) (x : Nat) : Nat → List String → Grid → Grid
  | _, [], grid => grid
  | y, line :: rest, grid =>
      if area.bottom ≤ y then grid
      else drawBody area x (y + 1) rest (grid.write x y line (area.right - x) Style.plain).1

/-- Draw the bar with the controls below a body, if there is a row for it. -/
def drawBar (row : Row) (grid : Grid) (area : Area) : Grid :=
  let x := area.x + textColumn row.depth area.width
  let y := area.y + 1 + wrapCoordinate (row.wrappedBody area.width).length
  if y < area.bottom then
    (grid.write x y (Controls.ofScore row.score).text (area.right - x) (Style.colored .gray)).1
  else grid

/-- Draw a comment that is not folded. The header of the selected comment stands out. -/
def drawFull (row : Row) (grid : Grid) (area : Area) (selected : Bool) : Grid :=
  let headerX := area.x + lineLevels row.depth area.width * threadIndent
  let headerWidth := area.right - headerX
  let lined := row.drawLines grid area selected
  let headed := lined.writeLine headerX area.y row.header headerWidth
  let written := drawBody area (area.x + textColumn row.depth area.width) (area.y + 1)
    (row.wrappedBody area.width) headed
  let finished := row.drawBar written area
  if selected then
    finished.restyle ⟨headerX, area.y, headerWidth, 1⟩ { background := some .darkGray }
  else finished

/-- Draw a comment. A reply under way is drawn by its own box. -/
def draw (row : Row) (grid : Grid) (area : Area) (selected : Bool) : Grid :=
  match row.kind with
  | .folded => row.drawFolded grid area
  | .full => row.drawFull grid area selected
  | .openReply => grid

end Row

end Colloquy
