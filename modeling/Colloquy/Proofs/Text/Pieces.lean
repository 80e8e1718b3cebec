import Colloquy.Proofs.Text.Breaks
import Colloquy.Proofs.Text.Offset

/-!
# Pieces of a growing line

A line that goes on by a character keeps its pieces up to the last one. That one gets wider, or gets
spaces behind it, or is followed by another one. Hence a text takes at least as many lines as any first
part of it.
-/

namespace Colloquy.Text.Wrap

/-! ## Control sequences -/

theorem afterCommand_suffix (last : Char) (text : List Char) :
    afterEscape.afterCommand last text <:+ text := by
  induction text generalizing last with
  | nil => exact List.suffix_rfl
  | cons next rest ih =>
      rw [afterEscape.afterCommand]
      split
      · exact List.suffix_cons next rest
      · exact (ih next).trans (List.suffix_cons next rest)

/-- A control sequence has at least one character. -/
theorem afterEscape_tail_suffix (opening : Char) (rest : List Char) :
    afterEscape (opening :: rest) <:+ rest := by
  by_cases bracket : opening = '['
  · subst bracket
    rw [afterEscape]
    exact (List.drop_suffix _ _).trans (List.dropWhile_suffix _)
  · by_cases command : opening = ']'
    · subst command
      exact afterCommand_suffix ']' rest
    · simp only [afterEscape.eq_4 _ _ bracket command, List.suffix_rfl]

theorem afterEscape_suffix (text : List Char) : afterEscape text <:+ text := by
  cases text with
  | nil => exact List.suffix_rfl
  | cons opening rest =>
      exact (afterEscape_tail_suffix opening rest).trans (List.suffix_cons opening rest)

theorem take_append_afterEscape (rest : List Char) :
    rest.take (rest.length - (afterEscape rest).length) ++ afterEscape rest = rest := by
  have behind : afterEscape rest = rest.drop (rest.length - (afterEscape rest).length) :=
    List.suffix_iff_eq_drop.mp (afterEscape_suffix rest)
  calc
    _ = rest.take (rest.length - (afterEscape rest).length) ++
          rest.drop (rest.length - (afterEscape rest).length) := by rw [← behind]
    _ = rest := List.take_append_drop _ rest

theorem afterCommand_concat (last : Char) (text : List Char) (character : Char) :
    afterEscape.afterCommand last (text ++ [character]) =
        afterEscape.afterCommand last text ++ [character] ∨
      afterEscape.afterCommand last text = [] ∧
        afterEscape.afterCommand last (text ++ [character]) = [] := by
  induction text generalizing last with
  | nil => exact .inr ⟨rfl, by simp [afterEscape.afterCommand]⟩
  | cons next rest ih =>
      rw [List.cons_append, afterEscape.afterCommand, afterEscape.afterCommand]
      split
      · exact .inl rfl
      · exact ih next

/-- A character behind a control sequence is left, unless it is the sequence's own. -/
theorem afterEscape_concat (text : List Char) (character : Char) :
    afterEscape (text ++ [character]) = afterEscape text ++ [character] ∨
      afterEscape text = [] ∧ afterEscape (text ++ [character]) = [] := by
  rcases text with _ | ⟨opening, rest⟩
  · refine .inr ⟨rfl, ?_⟩
    exact List.suffix_nil.mp (afterEscape_tail_suffix character [])
  · by_cases bracket : opening = '['
    · subst bracket
      rw [List.cons_append, afterEscape, afterEscape, List.dropWhile_append]
      cases rest.dropWhile fun c => !(0x40 ≤ c.toNat && c.toNat ≤ 0x7e) with
      | nil =>
          refine .inr ⟨rfl, ?_⟩
          rw [List.isEmpty_nil, if_pos rfl, List.dropWhile_cons]
          split
          · rfl
          · rfl
      | cons final behind => exact .inl rfl
    · by_cases command : opening = ']'
      · subst command
        exact afterCommand_concat ']' rest character
      · left
        rw [List.cons_append, afterEscape.eq_4 _ _ bracket command,
          afterEscape.eq_4 _ _ bracket command]

/-! ## Words -/

/-- How the words of a line change when a character follows. -/
inductive WordsGrown (character : Char) :
    List (List Char × Nat) → List (List Char × Nat) → Prop where
  | followed (words : List (List Char × Nat)) (word : List Char × Nat) :
      WordsGrown character words (words ++ [word])
  | spaced (front : List (List Char × Nat)) (word : List Char) (spaces : Nat) :
      WordsGrown character (front ++ [(word, spaces)]) (front ++ [(word, spaces + 1)])
  | extended (front : List (List Char × Nat)) (word : List Char) :
      WordsGrown character (front ++ [(word, 0)]) (front ++ [(word ++ [character], 0)])

theorem WordsGrown.cons {character : Char} {words longer : List (List Char × Nat)}
    (grown : WordsGrown character words longer) (first : List Char × Nat) :
    WordsGrown character (first :: words) (first :: longer) := by
  cases grown with
  | followed _ word => exact .followed (first :: words) word
  | spaced front word spaces => exact .spaced (first :: front) word spaces
  | extended front word => exact .extended (first :: front) word

theorem wordsFrom_nil {word : List Char} {spaces : Nat} (some : word ≠ [] ∨ spaces ≠ 0) :
    wordsFrom word spaces [] = [(word.reverse, spaces)] := by
  rw [wordsFrom, if_neg]
  simpa [imp_iff_not_or] using some

/-- A space goes behind the last word; another character goes to it, or starts a word behind its
spaces. -/
theorem wordsFrom_concat (word : List Char) (spaces : Nat) (line : List Char) (character : Char) :
    WordsGrown character (wordsFrom word spaces line)
      (wordsFrom word spaces (line ++ [character])) := by
  induction line generalizing word spaces with
  | nil =>
      have fresh : character :: word ≠ [] ∨ 0 ≠ 0 := .inl (List.cons_ne_nil character word)
      by_cases nothing : word = [] ∧ spaces = 0
      · obtain ⟨rfl, rfl⟩ := nothing
        have empty : wordsFrom [] 0 [] = [] := rfl
        rw [empty, List.nil_append, wordsFrom]
        split
        · rw [wordsFrom_nil (.inr Nat.one_ne_zero)]
          exact .followed [] _
        · rw [if_pos rfl, wordsFrom_nil fresh]
          exact .followed [] _
      · rw [wordsFrom_nil (by tauto), List.nil_append, wordsFrom]
        split
        · rw [wordsFrom_nil (.inr (Nat.succ_ne_zero spaces))]
          exact .spaced [] word.reverse spaces
        · split
          next unspaced =>
            rw [wordsFrom_nil fresh, unspaced, List.reverse_cons]
            exact .extended [] word.reverse
          next =>
            rw [wordsFrom_nil (.inl (List.cons_ne_nil character []))]
            exact .followed [_] ([character], 0)
  | cons next rest ih =>
      rw [List.cons_append, wordsFrom, wordsFrom]
      split
      · exact ih word (spaces + 1)
      · split
        · exact ih (next :: word) 0
        · exact (ih [next] 0).cons (word.reverse, spaces)

/-! ## Parts of words -/

/-- A character goes to the last part of a word, or is a part of its own if it is what a hyphen at the
end needs behind it. -/
theorem partsFrom_concat (part word : List Char) (character : Char) :
    ∃ front last, partsFrom part word = front ++ [last] ∧
      (partsFrom part (word ++ [character]) = front ++ [last ++ [character]] ∨
        partsFrom part (word ++ [character]) = front ++ [last, [character]]) := by
  have single (part : List Char) (character : Char) :
      partsFrom part [character] = [part.reverse ++ [character]] := by
    have blank : isAlphanumeric ' ' = false := by decide
    simp [partsFrom, blank]
  induction word generalizing part with
  | nil => exact ⟨[], part.reverse, rfl, .inl (single part character)⟩
  | cons next rest ih =>
      cases rest with
      | nil =>
          refine ⟨[], part.reverse ++ [next], single part next, ?_⟩
          rw [List.cons_append, List.nil_append, partsFrom]
          split
          · right
            rw [single, List.reverse_cons]
            rfl
          · left
            rw [single, List.reverse_cons]
            rfl
      | cons other others =>
          have step (tail : List Char) : partsFrom part (next :: other :: tail) =
              if next = '-' && isAlphanumeric (part.headD ' ') && isAlphanumeric other then
                (next :: part).reverse :: partsFrom [] (other :: tail)
              else partsFrom (next :: part) (other :: tail) := rfl
          rw [List.cons_append, List.cons_append, step, step]
          split
          · obtain ⟨front, last, whole, grown⟩ := ih []
            refine ⟨(next :: part).reverse :: front, last, by rw [whole]; rfl, ?_⟩
            exact grown.imp (congrArg (_ :: ·)) (congrArg (_ :: ·))
          · exact ih (next :: part)

/-- A part of a word with the spaces behind it. -/
def Piece.ofPart (spaces : Nat) (part : List Char) : Piece :=
  ⟨part, charColumns part, spaces⟩

theorem parts_eq {word last : List Char} {front : List (List Char)} (spaces : Nat)
    (cut : partsFrom [] word = front ++ [last]) :
    parts word spaces = front.map (Piece.ofPart 0) ++ [Piece.ofPart spaces last] := by
  rw [parts, cut, List.dropLast_concat]
  simp [Piece.ofPart]

/-! ## Short pieces -/

@[simp] theorem charColumns_escape (rest : List Char) :
    charColumns (escape :: rest) = charColumns (afterEscape rest) := by
  rw [charColumns, if_pos rfl]

theorem charColumns_plain {character : Char} (plain : character ≠ escape) (rest : List Char) :
    charColumns (character :: rest) = charWidth character + charColumns rest := by
  rw [charColumns, if_neg plain]

variable (width : Nat)

theorem shortenFrom_nil {spaces columns : Nat} {part : List Char} (some : part ≠ []) :
    shortenFrom width spaces part columns [] = [⟨part.reverse, columns, spaces⟩] := by
  rw [shortenFrom, if_neg (by simpa using some)]

/-- Text that fits is not cut. -/
theorem shortenFrom_of_narrow {spaces columns : Nat} {part text : List Char}
    (narrow : columns + charColumns text ≤ width) (some : part ≠ [] ∨ text ≠ []) :
    shortenFrom width spaces part columns text =
      [⟨part.reverse ++ text, columns + charColumns text, spaces⟩] := by
  fun_induction shortenFrom width spaces part columns text with
  | case1 part columns empty => simp_all
  | case2 part columns filled => simp [charColumns]
  | case3 part columns rest left taken ih =>
      have whole : taken ++ left = rest := take_append_afterEscape rest
      rw [charColumns_escape] at narrow ⊢
      rw [ih narrow (.inl (by simp))]
      simp [whole, left]
  | case4 part columns character rest plain wide ih =>
      rw [charColumns_plain plain] at narrow
      simp only [Bool.and_eq_true, decide_eq_true_eq] at wide
      omega
  | case5 part columns character rest plain fits ih =>
      rw [charColumns_plain plain] at narrow ⊢
      rw [ih (by omega) (.inl (List.cons_ne_nil _ _))]
      simp [Nat.add_assoc]

/-- A piece is cut only where it has to be. -/
theorem shorten_eq_shortenFrom {part : List Char} (spaces : Nat) (some : part ≠ []) :
    shorten width (.ofPart spaces part) = shortenFrom width spaces [] 0 part := by
  unfold shorten Piece.ofPart
  split
  · rfl
  next narrow =>
    have fits : 0 + charColumns part ≤ width := by
      rw [Nat.zero_add]
      exact Nat.le_of_not_lt narrow
    rw [shortenFrom_of_narrow width fits (.inr some)]
    simp

theorem shorten_ofPart_nil (spaces : Nat) :
    shorten width (.ofPart spaces []) = [⟨[], 0, spaces⟩] := by
  simp [shorten, Piece.ofPart, charColumns]

/-- Spaces are put behind the last part. -/
theorem grown_shortenFrom_spaces (part text : List Char) (columns spaces more : Nat) :
    Grown (shortenFrom width spaces part columns text)
      (shortenFrom width more part columns text) := by
  fun_induction shortenFrom width spaces part columns text with
  | case1 => exact .followed [] _
  | case2 part columns filled =>
      rw [shortenFrom, if_neg filled]
      exact .widened [] _ _ [] Nat.le.refl
  | case3 part columns rest left taken ih =>
      rw [shortenFrom, if_pos rfl]
      exact ih
  | case4 part columns character rest plain wide ih =>
      rw [shortenFrom, if_neg plain, if_pos wide]
      exact ih.prepend [_]
  | case5 part columns character rest plain fits ih =>
      rw [shortenFrom, if_neg plain, if_neg fits]
      exact ih

/-- A character goes to the last part if there is room, and else is a part of its own. -/
theorem grown_shortenFrom_concat (part text : List Char) (columns spaces more : Nat)
    (character : Char) :
    Grown (shortenFrom width spaces part columns text)
      (shortenFrom width more part columns (text ++ [character])) := by
  fun_induction shortenFrom width spaces part columns text with
  | case1 => exact .followed [] _
  | case2 part columns filled =>
      rw [List.nil_append, shortenFrom]
      split
      · have nothing : afterEscape [] = [] := rfl
        simp only [nothing]
        rw [shortenFrom_nil width (by simp)]
        exact .widened [] _ _ [] Nat.le.refl
      · split
        · exact .widened [] _ _ _ Nat.le.refl
        · rw [shortenFrom_nil width (by simp)]
          exact .widened [] _ _ [] (Nat.le_add_right _ _)
  | case3 part columns rest left taken ih =>
      rw [List.cons_append, shortenFrom, if_pos rfl]
      rcases afterEscape_concat rest character with kept | ⟨gone, own⟩
      · have same : (rest ++ [character]).take ((rest ++ [character]).length -
            (afterEscape rest ++ [character]).length) = taken := by
          rw [List.take_append_of_le_length (by simp)]
          simp [taken, left]
        simp only [kept, same]
        exact ih
      · simp only [own, left, gone]
        rw [shortenFrom_nil width (by simp), shortenFrom_nil width (by simp)]
        exact .widened [] _ _ [] Nat.le.refl
  | case4 part columns character rest plain wide ih =>
      rw [List.cons_append, shortenFrom, if_neg plain, if_pos wide]
      exact ih.prepend [_]
  | case5 part columns character rest plain fits ih =>
      rw [List.cons_append, shortenFrom, if_neg plain, if_neg fits]
      exact ih

/-- More spaces behind a part of a word. -/
theorem grown_shorten_spaces (part : List Char) (spaces more : Nat) :
    Grown (shorten width (.ofPart spaces part)) (shorten width (.ofPart more part)) := by
  unfold shorten Piece.ofPart
  split
  · exact grown_shortenFrom_spaces width [] part 0 spaces more
  · exact .widened [] _ _ [] Nat.le.refl

/-- One more character in a part of a word. -/
theorem grown_shorten_concat (part : List Char) (spaces more : Nat) (character : Char) :
    Grown (shorten width (.ofPart spaces part))
      (shorten width (.ofPart more (part ++ [character]))) := by
  have longer : part ++ [character] ≠ [] := by simp
  rw [shorten_eq_shortenFrom width more longer]
  by_cases some : part = []
  · subst some
    obtain ⟨piece, alone⟩ : ∃ piece, shortenFrom width more [] 0 [character] = [piece] := by
      rw [shortenFrom]
      split
      · exact ⟨_, shortenFrom_nil width (by simp)⟩
      · rw [if_neg (by simp)]
        exact ⟨_, shortenFrom_nil width (by simp)⟩
    rw [shorten_ofPart_nil, List.nil_append, alone]
    exact .widened [] _ _ _ (Nat.zero_le piece.columns)
  · rw [shorten_eq_shortenFrom width spaces some]
    exact grown_shortenFrom_concat width [] part 0 spaces more character

/-! ## Lines -/

/-- The pieces of words. -/
def piecesOf (words : List (List Char × Nat)) : List Piece :=
  (words.flatMap fun word => parts word.1 word.2).flatMap (shorten width)

theorem piecesOf_append (front back : List (List Char × Nat)) :
    piecesOf width (front ++ back) = piecesOf width front ++ piecesOf width back := by
  simp [piecesOf]

theorem grown_piecesOf {character : Char} {words longer : List (List Char × Nat)}
    (grown : WordsGrown character words longer) :
    Grown (piecesOf width words) (piecesOf width longer) := by
  cases grown with
  | followed _ word =>
      rw [piecesOf_append]
      exact .followed _ _
  | spaced front word spaces =>
      rw [piecesOf_append, piecesOf_append]
      apply Grown.prepend
      obtain ⟨cut, last, whole, -⟩ := partsFrom_concat [] word character
      simp only [piecesOf, List.flatMap_singleton, parts_eq _ whole, List.flatMap_append]
      exact (grown_shorten_spaces width last spaces (spaces + 1)).prepend _
  | extended front word =>
      rw [piecesOf_append, piecesOf_append]
      apply Grown.prepend
      obtain ⟨cut, last, whole, joined | apart⟩ := partsFrom_concat [] word character
      · simp only [piecesOf, List.flatMap_singleton, parts_eq _ whole, parts_eq _ joined,
          List.flatMap_append]
        exact (grown_shorten_concat width last 0 0 character).prepend _
      · have severed : partsFrom [] (word ++ [character]) = (cut ++ [last]) ++ [[character]] := by
          rw [apart, List.append_assoc]
          rfl
        simp only [piecesOf, List.flatMap_singleton, parts_eq _ whole, parts_eq _ severed,
          List.flatMap_append, List.map_append, List.map_singleton]
        exact .followed _ _

/-- The pieces of a line that goes on by a character. -/
theorem grown_pieces (line : List Char) (character : Char) :
    Grown (pieces width line) (pieces width (line ++ [character])) :=
  grown_piecesOf width (wordsFrom_concat [] 0 line character)

/-- A line that goes on takes no fewer lines. -/
theorem length_wrapLine_concat (line : List Char) (character : Char) :
    (wrapLine width line).length ≤ (wrapLine width (line ++ [character])).length := by
  have longer : byteLength line ≤ byteLength (line ++ [character]) := by
    change Text.byteLength line ≤ Text.byteLength (line ++ [character])
    rw [byteLength_append]
    exact Nat.le_add_right _ _
  have grown := length_fill_le_of_grown width (grown_pieces width line character)
  have some := length_fill_pos width (pieces width (line ++ [character]))
  unfold wrapLine
  split
  · split
    · exact Nat.le.refl
    · exact some
  · rw [if_neg (by omega)]
    exact grown

/-! ## Text -/

/-- A line feed opens a line; any other character goes to the last one. -/
theorem linesFrom_concat (line text : List Char) (character : Char) :
    ∃ front last, linesFrom line text = front ++ [last] ∧
      linesFrom line (text ++ [character]) =
        if character = '\n' then front ++ [last, []] else front ++ [last ++ [character]] := by
  induction text generalizing line with
  | nil =>
      refine ⟨[], line.reverse, rfl, ?_⟩
      rw [List.nil_append, linesFrom]
      split
      · rfl
      · rw [linesFrom, List.reverse_cons]
        rfl
  | cons next rest ih =>
      rw [List.cons_append, linesFrom, linesFrom]
      split
      · obtain ⟨front, last, whole, grown⟩ := ih []
        refine ⟨line.reverse :: front, last, by rw [whole]; rfl, ?_⟩
        rw [grown]
        split
        · rfl
        · rfl
      · exact ih (next :: line)

theorem wrapLine_nil {width : Nat} (positive : 0 < width) : wrapLine width [] = [[]] := by
  have short : byteLength [] < width := positive
  rw [wrapLine, if_pos short]
  rfl

/-- A line feed opens an empty line. -/
theorem wrap_lineFeed (text : List Char) :
    wrap width (text ++ ['\n']) = wrap width text ++ [[]] := by
  have positive : 0 < max width 1 := Nat.lt_of_lt_of_le Nat.one_pos (Nat.le_max_right width 1)
  obtain ⟨front, last, whole, grown⟩ := linesFrom_concat [] text '\n'
  rw [wrap, wrap, grown, if_pos rfl, whole]
  simp [wrapLine_nil positive]

theorem wrap_lineFeeds (count : Nat) :
    wrap width (List.replicate count '\n') = List.replicate (count + 1) [] := by
  have positive : 0 < max width 1 := Nat.lt_of_lt_of_le Nat.one_pos (Nat.le_max_right width 1)
  induction count with
  | zero => simp [wrap, linesFrom, wrapLine_nil positive]
  | succ count ih => rw [List.replicate_succ', wrap_lineFeed, ih, ← List.replicate_succ']

/-- The first part of a text takes no more lines than the text. -/
theorem length_wrap_append (before after : List Char) :
    (wrap width before).length ≤ (wrap width (before ++ after)).length := by
  induction after using List.reverseRecOn with
  | nil => rw [List.append_nil]
  | append_singleton after character ih =>
      refine ih.trans ?_
      rw [← List.append_assoc]
      by_cases lineFeed : character = '\n'
      · rw [lineFeed, wrap_lineFeed, List.length_append]
        exact Nat.le_add_right _ _
      · obtain ⟨front, last, whole, grown⟩ := linesFrom_concat [] (before ++ after) character
        rw [wrap, wrap, whole, grown, if_neg lineFeed]
        simp only [List.flatMap_append, List.flatMap_singleton, List.length_append]
        exact Nat.add_le_add_left (length_wrapLine_concat (max width 1) last character) _

theorem length_wrap_pos (text : List Char) : 0 < (wrap width text).length := by
  have first := length_wrap_append width [] text
  rwa [← List.replicate_zero, wrap_lineFeeds] at first

end Colloquy.Text.Wrap
