import Colloquy.Fault
import Colloquy.Page.Input
import Colloquy.Text.Offset

/-!
# Drafts

The text of a reply with its caret, a byte offset into it, and what keys do to them. A draft that is
being posted is locked: its text does not change, but it can still be left.
-/

namespace Colloquy

/-- Text with a caret. -/
structure Draft where
  content : String
  /-- A byte offset into the text. -/
  caret : Nat
  deriving DecidableEq, Repr, Inhabited

/-- What became of a key that was struck in a draft. -/
inductive DraftEvent where
  /-- Post the draft. -/
  | submit
  /-- Throw the draft away. -/
  | cancel
  /-- Leave the draft for later. -/
  | blur
  /-- The text or the caret has been changed. -/
  | edited
  deriving DecidableEq, Repr, Inhabited

namespace Draft

/-- The bytes of the text. -/
def size (draft : Draft) : Nat :=
  Text.byteLength draft.content.toList

/-- Bring a caret from beyond the end back to the end. -/
def clamp (draft : Draft) : Draft :=
  { draft with caret := min draft.caret draft.size }

/-- Put text in place of the bytes between two offsets and move the caret. -/
def replace? (draft : Draft) (start stop : Nat) (inserted : List Char) (caret : Nat) :
    Option Draft := do
  let (before, _) ← Text.split? draft.content.toList start
  let (_, after) ← Text.split? draft.content.toList stop
  return ⟨String.ofList (before ++ inserted ++ after), caret⟩

/-- Insert text at the caret; the caret goes behind it. -/
def insert? (draft : Draft) (inserted : List Char) : Option Draft :=
  draft.replace? draft.caret draft.caret inserted (draft.caret + Text.byteLength inserted)

/-- Move the caret to a place that is found from the text before and after it. -/
def move? (draft : Draft) (target : List Char → List Char → Nat) : Option Draft := do
  let (before, after) ← Text.split? draft.content.toList draft.caret
  return { draft with caret := target before after }

/-- Whether a key does something to a draft: deleting and moving do nothing at the ends. -/
def isEdited (draft : Draft) : InputEvent → Bool
  | .char _ | .paste _ | .home | .finish => true
  | .backspace | .left => 0 < draft.caret
  | .delete | .right => draft.caret < draft.size
  | _ => false

/-- What a key does to the text, if the caret is between characters. -/
def applied? (draft : Draft) : InputEvent → Option Draft
  | .char character => draft.insert? [character]
  | .paste text => draft.insert? text.toList
  | .backspace => do
      let moved ← draft.move? fun before _ => Text.previousBoundary before
      draft.replace? moved.caret draft.caret [] moved.caret
  | .delete => do
      let moved ← draft.move? Text.nextBoundary
      draft.replace? draft.caret moved.caret [] draft.caret
  | .left => draft.move? fun before _ => Text.previousBoundary before
  | .right => draft.move? Text.nextBoundary
  | .home => draft.move? fun before _ => Text.lineStart before
  | .finish => draft.move? Text.lineEnd
  | _ => some draft

/-- What a key does to a draft with a caret inside its text. A key that would edit the text around a
caret inside a character stops the program. -/
def edit (draft : Draft) (event : InputEvent) : Draft × Except Fault (Option DraftEvent) :=
  if draft.isEdited event then
    match draft.applied? event with
    | some edited => (edited, .ok (some .edited))
    | none => (draft, .error .caretInsideCharacter)
  else (draft, .ok none)

/-- What a key does to a draft, locked or not. -/
def handle (draft : Draft) (locked : Bool) (event : InputEvent) :
    Draft × Except Fault (Option DraftEvent) :=
  let draft := draft.clamp
  match event with
  | .submit => (draft, .ok (some .submit))
  | .escape => (draft, .ok (some .cancel))
  | .tab => (draft, .ok (some .blur))
  | event => if locked then (draft, .ok none) else draft.edit event

end Draft

end Colloquy
