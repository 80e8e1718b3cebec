import Colloquy.Fault
import Colloquy.Reply.OpenReply
import Colloquy.Screen.Panel
import Colloquy.Text.Offset

/-!
# Reply panels

A reply under way, drawn as a panel with the text inside. The height of the panel and the place of
the caret are measured by wrapping the text to the width inside the border; the text is drawn by
letting it flow.
-/

namespace Colloquy.ReplyPanel

open Screen

/-- The width inside the border. -/
def textWidth (width : Nat) : Nat := width - 2

/-- Whether text ends a line that has something on it. The wrapped lines are given. -/
def opensLine (text : List Char) (lines : List (List Char)) : Bool :=
  text.getLast? == some '\n' && lines.getLast? != some []

/-- The number of lines of wrapped text; there is always one. -/
def textHeight (text : List Char) (width : Nat) : Except Fault Nat :=
  if width = 0 || text.isEmpty then .ok 1
  else
    let lines := Text.Wrap.wrap width text
    let count := max (wrapCoordinate lines.length) 1
    if opensLine text lines then coordinate (count + 1) else .ok count

/-- The height of the box for a text. -/
def height (content : String) (width : Nat) : Except Fault Nat := do
  let count ← textHeight content.toList (textWidth width)
  coordinate (count + 2)

/-- Where a caret stands behind some text, as column and row: at the end of the last wrapped line,
or on the next row if that line is full. -/
def offsetBehind (before : List Char) (width : Nat) : Except Fault (Nat × Nat) :=
  if before.isEmpty || width = 0 then .ok (0, 0)
  else if before.getLast? = some '\n' then do
    let count ← textHeight before width
    return (0, count - 1)
  else
    let lines := Text.Wrap.wrap width before
    let row := wrapCoordinate (lines.length - 1)
    let column := wrapCoordinate (Text.columns (lines.getLast?.getD []))
    if width ≤ column then do
      let next ← coordinate (row + 1)
      return (0, next)
    else .ok (column, row)

/-- Where a caret stands inside the wrapped text, as column and row. A caret beyond the end stands
at the end. -/
def caretOffset (content : String) (caret width : Nat) : Except Fault (Nat × Nat) :=
  let text := content.toList
  match Text.split? text (min caret (Text.byteLength text)) with
  | some (before, _) => offsetBehind before width
  | none => .error .caretInsideCharacter

/-- Where a caret stands inside the box, as column and row. -/
def caretPosition (content : String) (caret width : Nat) : Except Fault (Nat × Nat) := do
  let (column, row) ← caretOffset content caret (textWidth width)
  return (← coordinate (column + 1), ← coordinate (row + 1))

/-- What is said at the bottom of the box. -/
def hint (openReply : OpenReply) (focused : Bool) : String :=
  if openReply.isPosting then " Posting... "
  else if focused then " Enter post · Esc cancel · Tab browse "
  else " r to edit "

/-- What an empty box shows. -/
def placeholder : String := "What are your thoughts?"

/-- The look of the border. -/
def accent (focused : Bool) : Style :=
  if focused then Style.colored .cyan else (Style.colored .cyan).dim

/-- The panel of a box that replies to someone. The hint stands out if the reply can be posted. -/
def panel (openReply : OpenReply) (replyingTo : String) (focused : Bool) : Panel :=
  let accent := accent focused
  let hintStyle := if openReply.isReady then accent.bold else Style.colored .darkGray
  { border := .rounded
    style := accent
    title := Line.styled (" Reply to u/" ++ replyingTo ++ " ") accent
    bottomTitle :=
      some { Line.styled (hint openReply focused) hintStyle with alignment := .right } }

/-- Draw a reply under way. -/
def draw (grid : Grid) (area : Area) (openReply : OpenReply) (replyingTo : String)
    (focused : Bool) : Grid :=
  let (text, style) :=
    if openReply.content.isEmpty then (placeholder, Style.colored .darkGray)
    else (openReply.content, Style.plain)
  grid.drawTextPanel area (panel openReply replyingTo focused) text style .left (.flow false)

end Colloquy.ReplyPanel
