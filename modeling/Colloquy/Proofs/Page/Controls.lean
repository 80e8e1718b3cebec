import Colloquy.Page.Layout
import Colloquy.Proofs.Text.Plain

/-!
# The controls of a comment

The bar below a comment is plain text. Each of its controls is where a character of the bar is, and a
click in the bar means a control exactly if it is on such a character.
-/

namespace Colloquy

/-- A score is written with digits and perhaps a sign. -/
theorem mem_of_mem_score {value : Int} {character : Char}
    (member : character ∈ (toString value).toList) : character ∈ "-0123456789".toList := by
  have digits : ∀ code < 58, 48 ≤ code → Char.ofNat code ∈ "-0123456789".toList := by decide
  have written (number : Nat) (inside : character ∈ number.repr.toList) :
      character ∈ "-0123456789".toList := by
    rw [Nat.toList_repr] at inside
    have digit := Nat.isDigit_of_mem_toDigits (by decide) (by decide) inside
    simp only [Char.isDigit, Bool.and_eq_true, decide_eq_true_eq] at digit
    rw [← Char.ofNat_toNat character]
    exact digits _ (Nat.lt_succ_of_le digit.2) digit.1
  cases value with
  | ofNat number => exact written number member
  | negSucc number =>
      have split : (toString (Int.negSucc number)).toList = '-' :: (number + 1).repr.toList := by
        simp [Int.repr]
      rw [split] at member
      rcases List.mem_cons.mp member with rfl | inside
      · decide
      · exact written _ inside

namespace Controls

variable (score : Int64)

/-- The bar, character by character. -/
theorem toList_text :
    (ofScore score).text.toList = '▲' :: ' ' :: ((toString score.toInt).toList ++
      [' ', '▼', ' ', ' ', 'R', 'e', 'p', 'l', 'y']) := by
  simp [ofScore]

theorem plain_text : ∀ character ∈ (ofScore score).text.toList, Text.Plain character := by
  have plain : "▲▼ -0123456789Reply".toList.all (Text.Plain ·) = true := by decide +kernel
  have score : "-0123456789".toList ⊆ "▲▼ -0123456789Reply".toList := by decide
  intro character member
  apply of_decide_eq_true
  apply List.all_eq_true.mp plain
  rw [toList_text, List.mem_cons, List.mem_cons, List.mem_append] at member
  rcases member with rfl | rfl | digit | rest
  · decide
  · decide
  · exact score (mem_of_mem_score digit)
  · have others : [' ', '▼', ' ', ' ', 'R', 'e', 'p', 'l', 'y'] ⊆ "▲▼ -0123456789Reply".toList := by
      decide
    exact others rest

/-- Every control is where its character is, and only there. -/
theorem of_getElem?_text {place : Nat} {character : Char}
    (shown : (ofScore score).text.toList[place]? = some character) :
    (character = '▲' ↔ place = (ofScore score).upvote) ∧
      (character = '▼' ↔ place = (ofScore score).downvote) ∧
      (character ∈ "Reply".toList ↔ (ofScore score).reply ≤ place) := by
  have reply : (ofScore score).reply = 2 + (toString score.toInt).length + 1 + 3 := rfl
  have downvote : (ofScore score).downvote = 2 + (toString score.toInt).length + 1 := rfl
  have upvote : (ofScore score).upvote = 0 := rfl
  rw [toList_text] at shown
  rw [upvote, downvote, reply, ← String.length_toList]
  rcases place with _ | _ | place
  · obtain rfl : '▲' = character := by simpa using shown
    simp
  · obtain rfl : ' ' = character := by simpa using shown
    simp
  · rw [List.getElem?_cons_succ, List.getElem?_cons_succ, List.getElem?_append] at shown
    split at shown
    next inScore =>
      have apart : "-0123456789".toList.all (fun other =>
          other ≠ '▲' ∧ other ≠ '▼' ∧ other ∉ "Reply".toList) = true := by decide
      obtain ⟨up, down, letter⟩ := of_decide_eq_true
        (List.all_eq_true.mp apart character (mem_of_mem_score (List.mem_of_getElem? shown)))
      refine ⟨iff_of_false up (by omega), iff_of_false down (by omega),
        iff_of_false letter (by omega)⟩
    next behind =>
      have apart : ∀ column : Fin 9, ∀ other,
          [' ', '▼', ' ', ' ', 'R', 'e', 'p', 'l', 'y'].get column = other →
            other ≠ '▲' ∧ (other = '▼' ↔ column.val = 1) ∧
              (other ∈ "Reply".toList ↔ 4 ≤ column.val) := by
        rintro column _ rfl
        revert column
        decide
      obtain ⟨inside, same⟩ := List.getElem?_eq_some_iff.mp shown
      obtain ⟨up, down, letter⟩ := apart ⟨_, inside⟩ character same
      rw [down, letter]
      exact ⟨iff_of_false up (by omega), by dsimp only; omega, by dsimp only; omega⟩

/-- The bar ends with its last control. -/
theorem length_text : (ofScore score).text.toList.length = (ofScore score).reply + 5 := by
  rw [toList_text]
  simp only [List.length_cons, List.length_append, List.length_nil, String.length_toList, ofScore]
  omega

theorem width_text : Text.width (ofScore score).text = (ofScore score).text.toList.length :=
  Text.columns_of_plain (plain_text score)

end Controls

namespace Slot

variable (slot : Slot) (column : Nat)

/-- What is written at a column of the bar. -/
def barCharacter? : Option Char :=
  (Controls.ofScore slot.score).text.toList[column]?

/-- A click in the bar means a vote exactly on the sign for it, and a reply exactly on a letter of
the word. -/
theorem barHit?_iff :
    (slot.barHit? column = some (.vote slot.id .up) ↔ slot.barCharacter? column = some '▲') ∧
      (slot.barHit? column = some (.vote slot.id .down) ↔ slot.barCharacter? column = some '▼') ∧
      (slot.barHit? column = some (.reply slot.id) ↔
        ∃ letter ∈ "Reply".toList, slot.barCharacter? column = some letter) := by
  have long := Controls.length_text slot.score
  have order : (Controls.ofScore slot.score).upvote < (Controls.ofScore slot.score).downvote ∧
      (Controls.ofScore slot.score).downvote < (Controls.ofScore slot.score).reply := by
    simp only [Controls.ofScore]
    omega
  unfold barHit?
  simp only [Controls.width_text]
  cases shown : slot.barCharacter? column with
  | none =>
      have beyond := List.getElem?_eq_none_iff.mp shown
      rw [if_neg (by omega), if_neg (by omega), if_neg (by simp; omega)]
      simp
  | some character =>
      obtain ⟨up, down, letter⟩ := Controls.of_getElem?_text slot.score shown
      have inside := (List.getElem?_eq_some_iff.mp shown).1
      have written : (∃ other ∈ "Reply".toList, some character = some other) ↔
          (Controls.ofScore slot.score).reply ≤ column := by
        rw [← letter]
        simp
      rw [Option.some.injEq, Option.some.injEq, up, down, written]
      grind

end Slot

end Colloquy
