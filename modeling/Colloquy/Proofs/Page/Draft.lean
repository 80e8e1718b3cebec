import Colloquy.Page.Draft
import Colloquy.Proofs.Text.Offset

/-!
# Carets in drafts

A draft whose caret stands between two characters, or at an end of the text, can be edited by every
key, and the caret stands so again afterwards. A locked draft keeps its text.
-/

namespace Colloquy.Draft

open Text

/-- The caret stands between two characters, or at an end of the text. -/
def InText (draft : Draft) : Prop :=
  IsBoundary draft.content.toList draft.caret

variable {draft : Draft}

theorem replace?_of_split {before dropped kept after inserted : List Char}
    (first : draft.content.toList = before ++ dropped)
    (last : draft.content.toList = kept ++ after) (caret : Nat) :
    draft.replace? (byteLength before) (byteLength kept) inserted caret =
      some ⟨String.ofList (before ++ inserted ++ after), caret⟩ := by
  have start := split?_eq_some_iff.mpr ⟨first, rfl⟩
  have stop := split?_eq_some_iff.mpr ⟨last, rfl⟩
  simp [replace?, start, stop]

/-- Text is inserted where the caret stands, and the caret goes behind it. -/
theorem insert?_of_split {before after : List Char}
    (split : draft.content.toList = before ++ after) (bytes : byteLength before = draft.caret)
    (inserted : List Char) :
    draft.insert? inserted =
      some ⟨String.ofList (before ++ inserted ++ after), byteLength (before ++ inserted)⟩ := by
  rw [insert?, ← bytes, replace?_of_split split split, byteLength_append]

/-- A caret moves to another place of the text. -/
theorem exists_move? (inside : draft.InText) {target : List Char → List Char → Nat}
    (reaches : ∀ before after, IsBoundary (before ++ after) (target before after)) :
    ∃ caret, draft.move? target = some { draft with caret } ∧
      IsBoundary draft.content.toList caret := by
  obtain ⟨before, after, split⟩ := inside.split
  refine ⟨target before after, by simp [move?, split], ?_⟩
  rw [(split?_eq_some_iff.mp split).1]
  exact reaches before after

/-- What lies between two places of the text is taken out, and the caret stands at the gap. -/
theorem exists_remove? {start stop : Nat} (first : IsBoundary draft.content.toList start)
    (last : IsBoundary draft.content.toList stop) :
    ∃ edited, draft.replace? start stop [] start = some edited ∧ edited.InText := by
  obtain ⟨before, dropped, whole, rfl⟩ := first
  obtain ⟨kept, after, same, rfl⟩ := last
  refine ⟨_, replace?_of_split whole same _, before, after, ?_, rfl⟩
  simp

/-- Every key can be applied around a caret between characters, and leaves it so. -/
theorem exists_applied? (inside : draft.InText) (event : InputEvent) :
    ∃ edited, draft.applied? event = some edited ∧ edited.InText := by
  have inserts (inserted : List Char) :
      ∃ edited, draft.insert? inserted = some edited ∧ edited.InText := by
    obtain ⟨before, after, whole, bytes⟩ := inside
    exact ⟨_, insert?_of_split whole bytes inserted, before ++ inserted, after, by simp, rfl⟩
  cases event with
  | char character => exact inserts [character]
  | paste text => exact inserts text.toList
  | backspace =>
      obtain ⟨caret, moved, reached⟩ :=
        exists_move? inside fun before after => isBoundary_previousBoundary before after
      have applied : draft.applied? .backspace = (draft.move? fun before _ =>
          previousBoundary before).bind fun moved =>
            draft.replace? moved.caret draft.caret [] moved.caret := rfl
      rw [applied, moved]
      exact exists_remove? reached inside
  | delete =>
      obtain ⟨caret, moved, reached⟩ := exists_move? inside isBoundary_nextBoundary
      have applied : draft.applied? .delete = (draft.move? nextBoundary).bind fun moved =>
          draft.replace? draft.caret moved.caret [] draft.caret := rfl
      rw [applied, moved]
      exact exists_remove? inside reached
  | left =>
      obtain ⟨caret, moved, reached⟩ :=
        exists_move? inside fun before after => isBoundary_previousBoundary before after
      exact ⟨_, moved, reached⟩
  | right =>
      obtain ⟨caret, moved, reached⟩ := exists_move? inside isBoundary_nextBoundary
      exact ⟨_, moved, reached⟩
  | home =>
      obtain ⟨caret, moved, reached⟩ :=
        exists_move? inside fun before after => isBoundary_lineStart before after
      exact ⟨_, moved, reached⟩
  | finish =>
      obtain ⟨caret, moved, reached⟩ := exists_move? inside isBoundary_lineEnd
      exact ⟨_, moved, reached⟩
  | _ => exact ⟨draft, rfl, inside⟩

theorem InText.edit (inside : draft.InText) (event : InputEvent) :
    ∃ edited outcome, draft.edit event = (edited, .ok outcome) ∧ edited.InText := by
  obtain ⟨edited, applied, within⟩ := exists_applied? inside event
  cases touched : draft.isEdited event with
  | true => exact ⟨edited, some .edited, by simp [Draft.edit, touched, applied], within⟩
  | false => exact ⟨draft, none, by simp [Draft.edit, touched], inside⟩

/-- No key stops the program at a draft whose caret, brought back from beyond the end, stands
between characters; and the caret stands so afterwards. -/
theorem InText.handle (inside : draft.clamp.InText) (locked : Bool) (event : InputEvent) :
    ∃ edited outcome, draft.handle locked event = (edited, .ok outcome) ∧ edited.InText := by
  unfold Draft.handle
  split
  · exact ⟨draft.clamp, _, rfl, inside⟩
  · exact ⟨draft.clamp, _, rfl, inside⟩
  · exact ⟨draft.clamp, _, rfl, inside⟩
  · cases locked with
    | true => exact ⟨draft.clamp, _, rfl, inside⟩
    | false => exact inside.edit event

/-- An edit neither submits a draft nor discards it. -/
theorem edit_outcome (draft : Draft) (event : InputEvent) :
    (draft.edit event).2 ≠ .ok (some .submit) ∧ (draft.edit event).2 ≠ .ok (some .cancel) := by
  unfold Draft.edit
  split
  · split
    · simp
    · simp
  · simp

/-- A draft that is submitted or discarded has its text as it was. -/
theorem handle_eq_clamp {locked : Bool} {event : InputEvent}
    (leaves : (draft.handle locked event).2 = .ok (some .submit) ∨
      (draft.handle locked event).2 = .ok (some .cancel)) :
    (draft.handle locked event).1 = draft.clamp := by
  unfold Draft.handle at leaves ⊢
  split
  · rfl
  · rfl
  · rfl
  · cases locked with
    | true => rfl
    | false => simp [edit_outcome] at leaves

/-- A locked draft keeps its text. -/
theorem content_handle_locked (draft : Draft) (event : InputEvent) :
    (draft.handle true event).1.content = draft.content := by
  cases event <;> rfl

end Colloquy.Draft
