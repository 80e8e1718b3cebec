import Colloquy.App.State
import Colloquy.Screen.Line

/-!
# Heading

The first line of the page: which post is shown, and what the program is doing about it.
-/

namespace Colloquy.Heading

open Screen

/-- The frames of the sign that something is going on. -/
def spinner : List String := ["⠋", "⠙", "⠹", "⠸", "⠼", "⠴", "⠦", "⠧", "⠇", "⠏"]

/-- The spinner's sign in a frame of the page; the frames repeat. -/
def spinnerSign (frame : Nat) : String :=
  spinner.getD (frame % spinner.length) ""

/-- What the heading says. -/
def line (app : App) (frame : Nat) : Line :=
  let status : List Span :=
    if app.loading then [{ text := " | " ++ spinnerSign frame ++ " " ++ app.status }]
    else if app.status.isEmpty then []
    else [{ text := " | " ++ app.status }]
  { spans :=
      ⟨"Threadline", (Style.colored .cyan).bold⟩ ::
        { text := " | post #" ++ toString app.postId.toNat } :: status }

/-- Draw the heading. -/
def draw (grid : Grid) (area : Area) (app : App) (frame : Nat) : Grid :=
  grid.showLine area (line app frame)

end Colloquy.Heading
