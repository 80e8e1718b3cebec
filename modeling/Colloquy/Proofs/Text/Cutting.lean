import Colloquy.Proofs.Text.Pieces
import Colloquy.Proofs.Text.Rows

/-!
# Pieces put together

The pieces of a line, with the spaces behind them, are the line again: nothing is lost when it is cut at
spaces, at hyphens and inside words that are too wide.
-/

namespace Colloquy.Text.Wrap

@[simp] theorem rowText_nil : rowText [] = [] := rfl

@[simp] theorem rowText_cons (piece : Piece) (row : List Piece) :
    rowText (piece :: row) =
      piece.characters ++ List.replicate piece.spaces ' ' ++ rowText row := rfl

@[simp] theorem rowText_append (front back : List Piece) :
    rowText (front ++ back) = rowText front ++ rowText back :=
  List.flatMap_append

/-- The text of the words of a line. -/
def wordsText (words : List (List Char × Nat)) : List Char :=
  words.flatMap fun word => word.1 ++ List.replicate word.2 ' '

theorem wordsText_wordsFrom (word : List Char) (spaces : Nat) (line : List Char) :
    wordsText (wordsFrom word spaces line) = word.reverse ++ List.replicate spaces ' ' ++ line := by
  induction line generalizing word spaces with
  | nil =>
      by_cases nothing : word = [] ∧ spaces = 0
      · obtain ⟨rfl, rfl⟩ := nothing
        rfl
      · rw [wordsFrom_nil (by tauto)]
        simp [wordsText]
  | cons character rest ih =>
      rw [wordsFrom]
      split
      next space => simp [ih, space, List.replicate_succ', List.append_assoc]
      next =>
        split
        next unspaced => simp [ih, unspaced]
        next =>
          have others := ih [character] 0
          simp only [wordsText] at others
          simp [wordsText, others]

theorem partsFrom_ne_nil (part word : List Char) : partsFrom part word ≠ [] := by
  cases word with
  | nil => exact List.cons_ne_nil _ _
  | cons character rest =>
      obtain ⟨front, last, cut, -⟩ := partsFrom_concat part (character :: rest) ' '
      simp [cut]

theorem flatten_partsFrom (part word : List Char) :
    (partsFrom part word).flatten = part.reverse ++ word := by
  induction word generalizing part with
  | nil => simp [partsFrom]
  | cons character rest ih =>
      rw [partsFrom]
      split
      · simp [ih]
      · simp [ih]

theorem rowText_shortenFrom (width spaces columns : Nat) {part text : List Char}
    (some : part ≠ [] ∨ text ≠ []) :
    rowText (shortenFrom width spaces part columns text) =
      part.reverse ++ text ++ List.replicate spaces ' ' := by
  fun_induction shortenFrom width spaces part columns text with
  | case1 part columns empty => simp_all
  | case2 part columns filled => simp
  | case3 part columns rest left taken ih =>
      have whole : taken ++ left = rest := take_append_afterEscape rest
      simp [ih (.inl (by simp)), ← whole]
  | case4 part columns character rest plain wide ih => simp [ih]
  | case5 part columns character rest plain fits ih => simp [ih]

/-- A part that is cut keeps its text, and its spaces stay behind it. -/
theorem rowText_shorten (width spaces : Nat) (part : List Char) :
    rowText (shorten width (.ofPart spaces part)) = part ++ List.replicate spaces ' ' := by
  by_cases some : part = []
  · subst some
    simp [shorten_ofPart_nil]
  · rw [shorten_eq_shortenFrom width spaces some, rowText_shortenFrom _ _ _ (.inr some)]
    simp

theorem rowText_shorten_parts (width : Nat) (word : List Char) (spaces : Nat) :
    rowText ((parts word spaces).flatMap (shorten width)) =
      word ++ List.replicate spaces ' ' := by
  obtain ⟨front, last, cut⟩ :=
    (List.eq_nil_or_concat' (partsFrom [] word)).resolve_left (partsFrom_ne_nil [] word)
  have whole := flatten_partsFrom [] word
  have unspaced : ∀ front : List (List Char),
      rowText ((front.map (Piece.ofPart 0)).flatMap (shorten width)) = front.flatten := by
    intro front
    induction front with
    | nil => rfl
    | cons part rest ih => simp [rowText_shorten, ih]
  rw [cut] at whole
  have joined : front.flatten ++ last = word := by simpa using whole
  rw [parts_eq spaces cut, List.flatMap_append, rowText_append, unspaced]
  simp [rowText_shorten, ← joined]

/-- The pieces of a line are the line. -/
theorem rowText_pieces (width : Nat) (line : List Char) : rowText (pieces width line) = line := by
  have cut : ∀ words : List (List Char × Nat),
      rowText ((words.flatMap fun word => parts word.1 word.2).flatMap (shorten width)) =
        wordsText words := by
    intro words
    induction words with
    | nil => rfl
    | cons word rest ih =>
        rw [List.flatMap_cons, List.flatMap_append, rowText_append, rowText_shorten_parts, ih]
        rfl
  rw [pieces, cut, words, wordsText_wordsFrom]
  rfl

end Colloquy.Text.Wrap
