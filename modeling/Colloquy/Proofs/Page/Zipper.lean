import Mathlib.Data.List.DropRight
import Colloquy.Proofs.Page.Draft

/-!
# Drafts as zippers

A caret between two characters divides a text into the characters before it and the characters after
it. On the two lists every key is a step across the caret or a change beside it. A draft does the
same with byte offsets into UTF-8, one to four bytes a character, and never leaves the boundaries
between characters.
-/

namespace Colloquy

open Text

/-- A text divided by a caret. -/
structure Zipper where
  before : List Char
  after : List Char
  deriving DecidableEq, Repr

namespace Zipper

/-- The whole text. -/
def text (zipper : Zipper) : List Char :=
  zipper.before ++ zipper.after

/-- The text with the offset of its caret, which is the size in UTF-8 of what stands before it. -/
def draft (zipper : Zipper) : Draft :=
  ⟨String.ofList zipper.text, (String.ofList zipper.before).utf8ByteSize⟩

/-- What a key does to the characters on both sides of the caret. Home goes just after the last line
feed before it, or to the start of the text, and end just before the first line feed after it, or to
the end of the text. Keys that are not for editing do nothing. -/
def press (zipper : Zipper) : InputEvent → Zipper
  | .char character => ⟨zipper.before ++ [character], zipper.after⟩
  | .paste text => ⟨zipper.before ++ text.toList, zipper.after⟩
  | .backspace => ⟨zipper.before.dropLast, zipper.after⟩
  | .delete => ⟨zipper.before, zipper.after.tail⟩
  | .left => ⟨zipper.before.dropLast, zipper.before.getLast?.toList ++ zipper.after⟩
  | .right => ⟨zipper.before ++ zipper.after.head?.toList, zipper.after.tail⟩
  | .home =>
      ⟨zipper.before.rdropWhile (· ≠ '\n'), zipper.before.rtakeWhile (· ≠ '\n') ++ zipper.after⟩
  | .finish =>
      ⟨zipper.before ++ zipper.after.takeWhile (· ≠ '\n'), zipper.after.dropWhile (· ≠ '\n')⟩
  | _ => zipper

/-- What a key does while the text is locked or not. -/
def strike (zipper : Zipper) (locked : Bool) (event : InputEvent) : Zipper :=
  if locked then zipper else zipper.press event

/-- What keys do one after the other, each with whether the text is locked when it is struck. -/
def strikeAll (zipper : Zipper) (keys : List (Bool × InputEvent)) : Zipper :=
  keys.foldl (fun zipper key => zipper.strike key.1 key.2) zipper

end Zipper

/-- What keys do to a draft one after the other, each with whether the draft is locked when it is
struck. A key that stops the program is the last one. -/
def Draft.handleAll (draft : Draft) : List (Bool × InputEvent) → Except Fault Draft
  | [] => .ok draft
  | (locked, event) :: rest =>
      match draft.handle locked event with
      | (edited, .ok _) => edited.handleAll rest
      | (_, .error fault) => .error fault

namespace Zipper

/-! ## Offsets -/

/-- A text has as many bytes as its characters. -/
theorem utf8ByteSize_ofList (characters : List Char) :
    (String.ofList characters).utf8ByteSize = byteLength characters := by
  induction characters with
  | nil => rfl
  | cons character rest ih =>
      have split : String.ofList (character :: rest) =
          String.singleton character ++ String.ofList rest := by
        rw [String.singleton_eq_ofList, ← String.ofList_append, List.singleton_append]
      rw [split, String.utf8ByteSize_append, String.utf8ByteSize_singleton, ih, byteLength_cons]

variable (zipper : Zipper)

theorem caret_draft : zipper.draft.caret = byteLength zipper.before :=
  utf8ByteSize_ofList zipper.before

theorem content_draft : zipper.draft.content.toList = zipper.before ++ zipper.after :=
  String.toList_ofList

theorem size_draft : zipper.draft.size = byteLength zipper.before + byteLength zipper.after := by
  rw [Draft.size, content_draft, byteLength_append]

/-- The caret stands inside the text already. -/
theorem clamp_draft : zipper.draft.clamp = zipper.draft := by
  rw [Draft.clamp, size_draft, caret_draft, Nat.min_eq_left (Nat.le_add_right _ _), ← caret_draft]

/-- The caret stands between characters of the text. -/
theorem caret_isValid : (⟨zipper.draft.caret⟩ : String.Pos.Raw).IsValid zipper.draft.content := by
  apply String.Pos.Raw.isValid_iff_exists_append.mpr
  exact ⟨String.ofList zipper.before, String.ofList zipper.after, String.ofList_append, rfl⟩

theorem byteLength_pos {characters : List Char} (some : characters ≠ []) :
    0 < byteLength characters := by
  cases characters with
  | nil => contradiction
  | cons character rest =>
      rw [byteLength_cons]
      exact Nat.lt_of_lt_of_le character.utf8Size_pos (Nat.le_add_right _ _)

/-! ## Steps -/

variable {zipper}

/-- The caret goes to where a text is divided anew. -/
theorem move?_draft {moved : Zipper} (same : moved.text = zipper.text)
    {target : List Char → List Char → Nat}
    (reaches : target zipper.before zipper.after = byteLength moved.before) :
    zipper.draft.move? target = some moved.draft := by
  have split : split? zipper.draft.content.toList zipper.draft.caret =
      some (zipper.before, zipper.after) :=
    split?_eq_some_iff.mpr ⟨content_draft zipper, (caret_draft zipper).symm⟩
  rw [Draft.move?, split]
  simp only [Option.bind_eq_bind, Option.bind_some, reaches, ← caret_draft moved]
  rw [draft, draft, same]
  rfl

/-- Text goes in before the caret. -/
theorem insert?_draft (inserted : List Char) :
    zipper.draft.insert? inserted =
      some (⟨zipper.before ++ inserted, zipper.after⟩ : Zipper).draft := by
  rw [Draft.insert?_of_split (content_draft zipper) (caret_draft zipper).symm inserted,
    ← utf8ByteSize_ofList]
  rfl

/-- What stands between two places of the text is taken out, and the caret stands at the gap. -/
theorem replace?_draft {kept dropped rest : List Char} (whole : zipper.text = kept ++ dropped ++ rest) :
    zipper.draft.replace? (byteLength kept) (byteLength (kept ++ dropped)) [] (byteLength kept) =
      some (⟨kept, rest⟩ : Zipper).draft := by
  have first : zipper.draft.content.toList = kept ++ (dropped ++ rest) := by
    rw [content_draft, ← List.append_assoc]
    exact whole
  have last : zipper.draft.content.toList = kept ++ dropped ++ rest :=
    (content_draft zipper).trans whole
  rw [Draft.replace?_of_split first last, List.append_nil, ← utf8ByteSize_ofList]
  rfl

theorem dropLast_append_getLast? (characters : List Char) :
    characters.dropLast ++ characters.getLast?.toList = characters := by
  rcases List.eq_nil_or_concat' characters with rfl | ⟨first, last, rfl⟩
  · rfl
  · simp

theorem head?_append_tail (characters : List Char) :
    characters.head?.toList ++ characters.tail = characters := by
  cases characters with
  | nil => rfl
  | cons first rest => rfl

/-- A key applied around the caret does what it does to the characters on both sides. -/
theorem applied?_draft (event : InputEvent) :
    zipper.draft.applied? event = some (zipper.press event).draft := by
  have left : zipper.draft.move? (fun before _ => previousBoundary before) =
      some (zipper.press .left).draft := by
    apply move?_draft
    · change zipper.before.dropLast ++ (zipper.before.getLast?.toList ++ zipper.after) = zipper.text
      rw [← List.append_assoc, dropLast_append_getLast?]
      rfl
    · rfl
  have right : zipper.draft.move? nextBoundary = some (zipper.press .right).draft := by
    apply move?_draft
    · change zipper.before ++ zipper.after.head?.toList ++ zipper.after.tail = zipper.text
      rw [List.append_assoc, head?_append_tail]
      rfl
    · change _ = byteLength (zipper.before ++ zipper.after.head?.toList)
      rw [nextBoundary, byteLength_append, List.take_one]
  cases event with
  | char character => exact insert?_draft [character]
  | paste text => exact insert?_draft text.toList
  | left => exact left
  | right => exact right
  | backspace =>
      have applied : zipper.draft.applied? .backspace = (zipper.draft.move? fun before _ =>
          previousBoundary before).bind fun moved =>
            zipper.draft.replace? moved.caret zipper.draft.caret [] moved.caret := rfl
      have whole : zipper.text =
          zipper.before.dropLast ++ zipper.before.getLast?.toList ++ zipper.after := by
        rw [dropLast_append_getLast?]
        rfl
      have removed := replace?_draft whole
      rw [dropLast_append_getLast?] at removed
      rw [applied, left, Option.bind_some, caret_draft, caret_draft]
      exact removed
  | delete =>
      have applied : zipper.draft.applied? .delete = (zipper.draft.move? nextBoundary).bind
          fun moved => zipper.draft.replace? zipper.draft.caret moved.caret [] zipper.draft.caret :=
        rfl
      have whole : zipper.text =
          zipper.before ++ zipper.after.head?.toList ++ zipper.after.tail := by
        rw [List.append_assoc, head?_append_tail]
        rfl
      rw [applied, right, Option.bind_some, caret_draft, caret_draft]
      exact replace?_draft whole
  | home =>
      change zipper.draft.move? (fun before _ => lineStart before) = _
      apply move?_draft
      · change zipper.before.rdropWhile _ ++ (zipper.before.rtakeWhile _ ++ zipper.after) = zipper.text
        rw [← List.append_assoc, List.rdropWhile_append_rtakeWhile]
        rfl
      · change _ = byteLength (zipper.before.rdropWhile _)
        rw [lineStart, List.rdropWhile, byteLength_reverse]
  | finish =>
      change zipper.draft.move? lineEnd = _
      apply move?_draft
      · change zipper.before ++ zipper.after.takeWhile _ ++ zipper.after.dropWhile _ = zipper.text
        rw [List.append_assoc, List.takeWhile_append_dropWhile]
        rfl
      · change _ = byteLength (zipper.before ++ zipper.after.takeWhile _)
        rw [lineEnd, byteLength_append]
  | _ => rfl

/-- Keys that have nothing to do at an end of the text, or nothing to do with it, change nothing. -/
theorem press_of_not_edited {event : InputEvent} (idle : zipper.draft.isEdited event = false) :
    zipper.press event = zipper := by
  have atStart (nothing : ¬0 < zipper.draft.caret) : zipper.before = [] := by
    apply Classical.byContradiction
    intro some
    exact nothing (caret_draft zipper ▸ byteLength_pos some)
  have atEnd (nothing : ¬zipper.draft.caret < zipper.draft.size) : zipper.after = [] := by
    apply Classical.byContradiction
    intro some
    have room := byteLength_pos some
    rw [caret_draft, size_draft] at nothing
    exact nothing (Nat.lt_add_of_pos_right room)
  obtain ⟨before, after⟩ := zipper
  cases event with
  | char | paste | home | finish => contradiction
  | backspace | left =>
      have empty := atStart (of_decide_eq_false idle)
      cases empty
      rfl
  | delete =>
      have empty := atEnd (of_decide_eq_false idle)
      cases empty
      rfl
  | right =>
      have empty := atEnd (of_decide_eq_false idle)
      cases empty
      exact congrArg (Zipper.mk · []) (List.append_nil before)
  | _ => rfl

/-- One key does to a draft what it does to the characters on both sides of the caret. -/
theorem handle_draft (zipper : Zipper) (locked : Bool) (event : InputEvent) :
    ∃ outcome, zipper.draft.handle locked event = ((zipper.strike locked event).draft, .ok outcome) := by
  have edit : ∃ outcome,
      zipper.draft.edit event = ((zipper.press event).draft, .ok outcome) := by
    cases touched : zipper.draft.isEdited event with
    | true =>
        apply Exists.intro
        rw [Draft.edit, if_pos touched, applied?_draft]
    | false =>
        apply Exists.intro
        rw [Draft.edit, touched, press_of_not_edited touched]
        rfl
  unfold Draft.handle
  simp only [clamp_draft, strike]
  cases locked with
  | true => cases event <;> exact ⟨_, rfl⟩
  | false =>
      cases event with
      | submit | escape | tab => exact ⟨_, rfl⟩
      | _ => exact edit

/-! ## Runs -/

/-- However a text is divided by a caret, and whatever keys are struck one after the other, locked or
not, the draft ends with the text and the caret that the keys make of the characters on both sides;
no key stops the program, and the caret stands between characters. As this holds for any keys, it
holds after each of them. -/
theorem handleAll_draft (zipper : Zipper) (keys : List (Bool × InputEvent)) :
    zipper.draft.handleAll keys = .ok (zipper.strikeAll keys).draft ∧
      (⟨(zipper.strikeAll keys).draft.caret⟩ : String.Pos.Raw).IsValid
        (zipper.strikeAll keys).draft.content := by
  constructor
  · induction keys generalizing zipper with
    | nil => rfl
    | cons key rest ih =>
        obtain ⟨outcome, struck⟩ := handle_draft zipper key.1 key.2
        rw [Draft.handleAll, struck]
        exact ih (zipper.strike key.1 key.2)
  · exact caret_isValid (zipper.strikeAll keys)

end Zipper

end Colloquy
