import Mathlib.Data.List.Basic
import Colloquy.Text.Offset

/-!
# Offsets between characters

An offset splits a text exactly if it is the number of bytes of some first part of the text. Every
place to which a caret moves is the end of such a part.
-/

namespace Colloquy.Text

theorem foldl_utf8Size (characters : List Char) (bytes : Nat) :
    characters.foldl (fun total character => total + character.utf8Size) bytes =
      bytes + byteLength characters := by
  induction characters generalizing bytes with
  | nil => rfl
  | cons character rest ih =>
      calc
        rest.foldl _ (bytes + character.utf8Size) = bytes + (0 + character.utf8Size +
            byteLength rest) := by rw [ih, Nat.zero_add, Nat.add_assoc]
        _ = bytes + rest.foldl _ (0 + character.utf8Size) := by rw [ih]
        _ = bytes + byteLength (character :: rest) := rfl

@[simp] theorem byteLength_nil : byteLength [] = 0 := rfl

@[simp] theorem byteLength_cons (character : Char) (rest : List Char) :
    byteLength (character :: rest) = character.utf8Size + byteLength rest := by
  rw [byteLength, Wrap.byteLength, List.foldl_cons, foldl_utf8Size, Nat.zero_add]

@[simp] theorem byteLength_append (before after : List Char) :
    byteLength (before ++ after) = byteLength before + byteLength after := by
  induction before with
  | nil => simp
  | cons character rest ih => simp [ih, Nat.add_assoc]

@[simp] theorem byteLength_reverse (characters : List Char) :
    byteLength characters.reverse = byteLength characters := by
  induction characters with
  | nil => rfl
  | cons character rest ih => simp [ih, Nat.add_comm]

/-! ## Splitting -/

theorem splitFrom?_append (gathered before after : List Char) :
    splitFrom? gathered (byteLength before) (before ++ after) =
      some (gathered.reverse ++ before, after) := by
  induction before generalizing gathered with
  | nil => simp [splitFrom?]
  | cons character rest ih =>
      have positive := character.utf8Size_pos
      obtain ⟨offset, more⟩ : ∃ offset, character.utf8Size + byteLength rest = offset + 1 :=
        ⟨character.utf8Size + byteLength rest - 1, by omega⟩
      have fits : character.utf8Size ≤ offset + 1 := by omega
      have remains : offset + 1 - character.utf8Size = byteLength rest := by omega
      rw [byteLength_cons, List.cons_append, more, splitFrom?, if_pos fits, remains, ih]
      simp

theorem append_of_splitFrom? {gathered text before after : List Char} {offset : Nat}
    (split : splitFrom? gathered offset text = some (before, after)) :
    ∃ first, before = gathered.reverse ++ first ∧ text = first ++ after ∧
      byteLength first = offset := by
  induction text generalizing gathered offset with
  | nil =>
      cases offset with
      | zero =>
          obtain ⟨rfl, rfl⟩ := by simpa [splitFrom?] using split
          exact ⟨[], by simp⟩
      | succ offset => simp [splitFrom?] at split
  | cons character rest ih =>
      cases offset with
      | zero =>
          obtain ⟨rfl, rfl⟩ := by simpa [splitFrom?] using split
          exact ⟨[], by simp⟩
      | succ offset =>
          simp only [splitFrom?, Option.ite_none_right_eq_some] at split
          obtain ⟨fits, split⟩ := split
          obtain ⟨first, rfl, rfl, bytes⟩ := ih split
          refine ⟨character :: first, by simp, rfl, ?_⟩
          rw [byteLength_cons, bytes]
          omega

/-- An offset splits a text where as many bytes stand before it. -/
theorem split?_eq_some_iff {text before after : List Char} {offset : Nat} :
    split? text offset = some (before, after) ↔
      text = before ++ after ∧ byteLength before = offset := by
  constructor
  · intro split
    obtain ⟨first, rfl, rfl, bytes⟩ := append_of_splitFrom? split
    exact ⟨by simp, by simpa using bytes⟩
  · rintro ⟨rfl, rfl⟩
    exact splitFrom?_append [] before after

/-- An offset lies between two characters of a text, or at one of its ends. -/
def IsBoundary (text : List Char) (offset : Nat) : Prop :=
  ∃ before after, text = before ++ after ∧ byteLength before = offset

/-- A text ends at an offset between characters. -/
theorem isBoundary_byteLength (text : List Char) : IsBoundary text (byteLength text) :=
  ⟨text, [], by simp, rfl⟩

theorem IsBoundary.le {text : List Char} {offset : Nat} (boundary : IsBoundary text offset) :
    offset ≤ byteLength text := by
  obtain ⟨before, after, rfl, rfl⟩ := boundary
  simp

theorem IsBoundary.split {text : List Char} {offset : Nat} (boundary : IsBoundary text offset) :
    ∃ before after, split? text offset = some (before, after) := by
  obtain ⟨before, after, split⟩ := boundary
  exact ⟨before, after, split?_eq_some_iff.mpr split⟩

/-! ## Where a caret moves -/

variable (before after : List Char)

theorem isBoundary_previousBoundary :
    IsBoundary (before ++ after) (previousBoundary before) := by
  rcases List.eq_nil_or_concat' before with rfl | ⟨first, last, rfl⟩
  · exact ⟨[], after, rfl, rfl⟩
  · exact ⟨first, last :: after, by simp, by simp [previousBoundary]⟩

theorem isBoundary_nextBoundary : IsBoundary (before ++ after) (nextBoundary before after) := by
  refine ⟨before ++ after.take 1, after.drop 1, ?_, ?_⟩
  · rw [List.append_assoc, List.take_append_drop]
  · rw [byteLength_append, nextBoundary]

theorem isBoundary_lineStart : IsBoundary (before ++ after) (lineStart before) := by
  have parts := List.takeWhile_append_dropWhile (p := (· ≠ '\n')) (l := before.reverse)
  have whole := congrArg List.reverse parts
  rw [List.reverse_append, List.reverse_reverse] at whole
  refine ⟨(before.reverse.dropWhile (· ≠ '\n')).reverse,
    (before.reverse.takeWhile (· ≠ '\n')).reverse ++ after, ?_, by rw [byteLength_reverse, lineStart]⟩
  rw [← List.append_assoc, whole]

theorem isBoundary_lineEnd : IsBoundary (before ++ after) (lineEnd before after) := by
  refine ⟨before ++ after.takeWhile (· ≠ '\n'), after.dropWhile (· ≠ '\n'), ?_, ?_⟩
  · rw [List.append_assoc, List.takeWhile_append_dropWhile]
  · rw [byteLength_append, lineEnd]

end Colloquy.Text
