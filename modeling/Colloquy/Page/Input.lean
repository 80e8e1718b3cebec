/-!
# Input

What the terminal reports, and what it means to the page. Keys are read the same way in every mode;
only the page knows whether a letter is typed into a reply or is a command.
-/

namespace Colloquy

/-- What a user did, as the page sees it. -/
inductive InputEvent where
  /-- Leave at once, whatever is going on. -/
  | leave
  | resize
  | char (character : Char)
  | paste (text : String)
  | backspace
  | delete
  | submit
  | escape
  | tab
  | left
  | right
  | up
  | down
  | home
  | finish
  | scrollUp
  | scrollDown
  | pageUp
  | pageDown
  | click (column row : Nat)
  deriving DecidableEq, Repr, Inhabited

/-- A key of the keyboard; keys that mean nothing here are alike. -/
inductive Key where
  | char (character : Char)
  | enter
  | backspace
  | delete
  | escape
  | tab
  | left
  | right
  | up
  | down
  | home
  | finish
  | pageUp
  | pageDown
  | other
  deriving DecidableEq, Repr, Inhabited

/-- The keys held while another is struck. -/
structure Held where
  shift : Bool := false
  control : Bool := false
  alt : Bool := false
  superKey : Bool := false
  hyper : Bool := false
  metaKey : Bool := false
  deriving DecidableEq, Repr, Inhabited

/-- Only the control key is held. -/
def Held.onlyControl : Held := { control := true }

/-- What happened to a key. -/
inductive Stroke where
  | pressed
  | repeated
  | released
  deriving DecidableEq, Repr, Inhabited

/-- What happened to the mouse; most of it means nothing here. -/
inductive MouseAction where
  | leftPressed
  | wheelUp
  | wheelDown
  | other
  deriving DecidableEq, Repr, Inhabited

/-- A report of the terminal. -/
inductive TerminalReport where
  | key (key : Key) (held : Held) (stroke : Stroke)
  | mouse (action : MouseAction) (column row : Nat)
  | paste (text : String)
  | resize
  | focus
  deriving DecidableEq, Repr, Inhabited

namespace InputEvent

/-- What a key means when it is struck. Shift with the enter key, and control with `j`, start a new
line in the text. -/
def ofKey? (key : Key) (held : Held) : Option InputEvent :=
  match key with
  | .char character =>
      if held = .onlyControl && character = 'c' then some .leave
      else if held = .onlyControl && character = 'j' then some (.char '\n')
      else some (.char character)
  | .enter => some (if held.shift then .char '\n' else .submit)
  | .backspace => some .backspace
  | .delete => some .delete
  | .escape => some .escape
  | .tab => some .tab
  | .left => some .left
  | .right => some .right
  | .up => some .up
  | .down => some .down
  | .home => some .home
  | .finish => some .finish
  | .pageUp => some .pageUp
  | .pageDown => some .pageDown
  | .other => none

/-- What a report of the terminal means, if anything. A key counts when it goes down, not when it
comes up. -/
def ofReport? : TerminalReport → Option InputEvent
  | .key key held stroke => if stroke = .released then none else ofKey? key held
  | .mouse .leftPressed column row => some (.click column row)
  | .mouse .wheelUp _ _ => some .scrollUp
  | .mouse .wheelDown _ _ => some .scrollDown
  | .mouse .other _ _ => none
  | .paste text => some (.paste text)
  | .resize => some .resize
  | .focus => none

/-- What typed characters mean, one after the other: arrow keys arrive as an escape character with
two more behind it, and a line feed only ends the line. -/
def ofTyped : List Char → List InputEvent
  | [] => []
  | '\x1b' :: '[' :: 'A' :: rest => .up :: ofTyped rest
  | '\x1b' :: '[' :: 'B' :: rest => .down :: ofTyped rest
  | '\x1b' :: '[' :: 'C' :: rest => .right :: ofTyped rest
  | '\x1b' :: '[' :: 'D' :: rest => .left :: ofTyped rest
  | '\x1b' :: rest => .escape :: ofTyped rest
  | '\t' :: rest => .tab :: ofTyped rest
  | '\r' :: rest => .submit :: ofTyped rest
  | '\x08' :: rest => .backspace :: ofTyped rest
  | '\x7f' :: rest => .backspace :: ofTyped rest
  | '\n' :: rest => ofTyped rest
  | character :: rest => .char character :: ofTyped rest

end InputEvent

end Colloquy
