import Colloquy.Reply.Notice
import Colloquy.Screen.Panel

/-!
# Notice stack

Notices as small panels in the lower right corner, the newest at the bottom. Those that find no
room are not drawn, and none is drawn where the page is too narrow.
-/

namespace Colloquy.NoticeStack

open Screen

/-- The greatest width of a notice. -/
def maxWidth : Nat := 44

/-- The least width in which notices are drawn. -/
def minWidth : Nat := 8

/-- The rows of a notice. -/
def noticeHeight : Nat := 3

/-- The color of a notice and the sign in its title. -/
def mark : NoticeLevel → Color × String
  | .success => (.green, " ✓ ")
  | .error => (.red, " ✗ ")

/-- The panel of a notice. -/
def panel (level : NoticeLevel) : Panel :=
  let (color, sign) := mark level
  { border := .rounded, style := Style.colored color, title := { spans := [{ text := sign }] } }

/-- Draw notices upwards, each above the one before. -/
def drawUpwards (area : Area) (width : Nat) : Nat → List Notice → Grid → Grid
  | _, [], grid => grid
  | bottom, notice :: older, grid =>
      if bottom < area.y + noticeHeight then grid
      else
        let field : Area := ⟨area.right - width, bottom - noticeHeight, width, noticeHeight⟩
        let drawn := (grid.clear field).drawTextPanel field (panel notice.level) notice.message
          Style.plain .left .cut
        drawUpwards area width (bottom - noticeHeight) older drawn

/-- Draw the notices that are shown. -/
def draw (grid : Grid) (area : Area) (queue : Notices) : Grid :=
  let width := min maxWidth area.width
  if width < minWidth then grid
  else drawUpwards area width area.bottom queue.shown.reverse grid

end Colloquy.NoticeStack
