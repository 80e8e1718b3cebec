import Colloquy.App.Update
import Colloquy.Page.Draft
import Colloquy.Page.PaneView
import Colloquy.Page.Heading
import Colloquy.Page.NoticeStack

/-!
# The page

The whole screen, and what keys and clicks do. Keys either browse the discussion or edit the reply
below one comment. Scrolling, clicking and leaving work the same in both modes. An event yields at
most one action, and the page answers with what has to be done because of it.
-/

namespace Colloquy

/-- What keys do: browse the discussion, or edit the reply below a comment. -/
inductive Mode where
  | browse
  | compose (id : CommentId)
  deriving DecidableEq, Repr, Inhabited

/-- The state of the page. -/
structure Page where
  pane : Pane := {}
  mode : Mode := .browse
  /-- The byte offset of the caret in every reply that was edited. -/
  carets : List (CommentId × Nat) := []
  deriving Repr, Inhabited

/-- The state after an event, and what has to be done because of it. -/
structure Turn where
  app : App
  page : Page
  outcome : Except Fault Effect

namespace Page

/-- The caret in the reply below a comment, if it was edited. -/
def caret? (page : Page) (id : CommentId) : Option Nat :=
  page.carets.lookup id

/-- Keep the caret of a reply. -/
def setCaret (page : Page) (id : CommentId) (caret : Nat) : Page :=
  { page with carets := (id, caret) :: page.carets.filter fun entry => entry.1 != id }

/-- Forget the caret of a reply. -/
def dropCaret (page : Page) (id : CommentId) : Page :=
  { page with carets := page.carets.filter fun entry => entry.1 != id }

/-- The carets, ordered by the ids of the comments. -/
def sortedCarets (page : Page) : List (CommentId × Nat) :=
  page.carets.mergeSort fun left right => left.1 ≤ right.1

/-- The reply that has the keyboard. -/
def focus (page : Page) : Focus :=
  match page.mode with
  | .browse => none
  | .compose id => some (id, (page.caret? id).getD 0)

/-- Forget the carets of replies that are no longer open, and browse again if the reply that was
edited is gone. -/
def sync (page : Page) (app : App) : Page :=
  let isOpen (id : CommentId) : Bool := (app.view.openReply? id).isSome
  { page with
    carets := page.carets.filter fun entry => isOpen entry.1
    mode :=
      match page.mode with
      | .compose id => if isOpen id then .compose id else .browse
      | .browse => .browse }

/-- Nothing has to be done. -/
def rest (page : Page) (app : App) : Turn := ⟨app, page, .ok .none⟩

/-- Let an action happen. -/
def act (page : Page) (app : App) (moment : Moment) (action : Action) : Turn :=
  let (next, outcome) := app.update moment action
  ⟨next, page, outcome⟩

/-- Select a comment. -/
def selecting (page : Page) (id : Option CommentId) : Page :=
  { page with pane := { page.pane with selected := id } }

/-- Start or discard a reply to a comment; one that was started gets the keyboard. -/
def toggleReply (page : Page) (app : App) (moment : Moment) (id : CommentId) : Turn :=
  let turn := page.act app moment (.toggleReply id)
  if (turn.app.view.openReply? id).isSome then
    { turn with page := { turn.page with mode := .compose id } }
  else turn

/-- What a click does. -/
def click (page : Page) (app : App) (moment : Moment) (column row : Nat) : Turn :=
  match page.pane.hit? column row with
  | none => page.rest app
  | some (.threadLine id) => page.act app moment (.fold id)
  | some (.unfold id) => (page.selecting id).act app moment (.unfold id)
  | some (.vote id vote) => page.act app moment (.vote id vote)
  | some (.reply id) => (page.selecting id).toggleReply app moment id
  | some (.openReply id) => { page with mode := .compose id }.rest app
  | some (.comment id) => (page.selecting id).rest app

/-- Let something happen to the selected comment, if there is one. -/
def onSelected (page : Page) (app : App) (turn : CommentId → Turn) : Turn :=
  match page.pane.selected with
  | some id => turn id
  | none => page.rest app

/-- What a key does while browsing. -/
def browse (page : Page) (app : App) (moment : Moment) (event : InputEvent) : Turn :=
  match event with
  | .up | .char 'k' => { page with pane := page.pane.selectAbove }.rest app
  | .down | .char 'j' => { page with pane := page.pane.selectBelow }.rest app
  | .home => { page with pane := (page.selecting none).pane.selectBelow }.rest app
  | .char 'q' => page.act app moment .quit
  | .submit | .char ' ' =>
      page.onSelected app fun id => page.act app moment (.toggleFold id)
  | .char 'r' => page.onSelected app fun id => page.toggleReply app moment id
  | .char '+' => page.onSelected app fun id => page.act app moment (.vote id .up)
  | .char '-' => page.onSelected app fun id => page.act app moment (.vote id .down)
  | .tab =>
      page.onSelected app fun id =>
        if (app.view.openReply? id).isSome then { page with mode := .compose id }.rest app
        else page.rest app
  | _ => page.rest app

/-- What a key does while the reply below a comment is edited. -/
def compose (page : Page) (app : App) (moment : Moment) (id : CommentId) (event : InputEvent) :
    Turn :=
  match app.view.openReply? id with
  | none => { page with mode := .browse }.rest app
  | some openReply =>
      let caret := (page.caret? id).getD (Text.byteLength openReply.content.toList)
      let (draft, outcome) := Draft.handle ⟨openReply.content, caret⟩ openReply.isPosting event
      let view := app.view.setOpenReply id { openReply with content := draft.content }
      let app := { app with view }
      let page := page.setCaret id draft.caret
      match outcome with
      | .error fault => ⟨app, page, .error fault⟩
      | .ok (some .submit) => page.act app moment (.postReply id)
      | .ok (some .cancel) =>
          ({ page with mode := .browse }.dropCaret id).act app moment (.discardReply id)
      | .ok (some .blur) => { page with mode := .browse }.rest app
      | .ok (some .edited) | .ok none => page.rest app

/-- What an event does. -/
def handle (page : Page) (app : App) (moment : Moment) (event : InputEvent) : Turn :=
  match event with
  | .resize => page.rest app
  | .leave => page.act app moment .quit
  | .scrollUp | .scrollDown | .pageUp | .pageDown =>
      { page with pane := page.pane.scroll event }.rest app
  | .click column row => page.click app moment column row
  | event =>
      match page.mode with
      | .browse => page.browse app moment event
      | .compose id => page.compose app moment id event

open Screen

/-- What the last line of the page says about the keys. -/
def help : Mode → String
  | .browse => "↑/↓ select · Space collapse · r reply · +/- vote · Tab edit reply · q quit"
  | .compose _ => "Enter post · Esc cancel · Tab browse · Ctrl+J newline"

/-- The parts of a page: title, pane and help. The help comes first where rows are short, and the
pane last. -/
def parts (width height : Nat) : Area × Area × Area :=
  let title := min (height - 1) 1
  (⟨0, 0, width, title⟩, ⟨0, title, width, height - 2⟩, ⟨0, height - 1, width, min height 1⟩)

/-- Draw why there are no comments to show. -/
def drawError (grid : Grid) (area : Area) (message : String) : Grid :=
  let red := Style.colored .red
  let panel : Panel := { border := .square, title := Line.styled "ERROR" Style.plain }
  grid.drawTextPanel area panel message red .center (.flow true)

/-- Draw the pane, or why there is nothing to show in it. -/
def drawMain (page : Page) (app : App) (grid : Grid) (area : Area) : Except Fault (Page × Grid) :=
  match app.loadError with
  | some message => .ok (page, drawError grid area message)
  | none => do
      let (pane, drawn) ← page.pane.draw grid area app.view app.rows page.focus app.loading
      return ({ page with pane }, drawn)

/-- Draw the page on a blank screen. The frame counts up while something is going on. -/
def draw (page : Page) (app : App) (width height frame : Nat) : Except Fault (Page × Grid) := do
  let (title, main, bottom) := parts width height
  let titled := Heading.draw (Grid.blank width height) title app frame
  let (drawnPage, drawn) ← page.drawMain app titled main
  let noticed := NoticeStack.draw drawn main app.notices
  return (drawnPage,
    noticed.showLine bottom (Line.styled (help page.mode) (Style.colored .darkGray)))

end Page

end Colloquy
