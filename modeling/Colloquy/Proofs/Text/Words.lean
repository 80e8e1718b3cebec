import Mathlib.Data.List.Chain
import Colloquy.Proofs.Text.Cutting
import Colloquy.Proofs.Text.Plain

/-!
# Ordinary words

A line of words with single spaces between them, whose characters are clusters by themselves and whose
words have no hyphen at which they could be cut, is drawn as it is measured, as long as no row is left
wider than the field.
-/

namespace Colloquy.Text

/-- A character of a word: a cluster by itself that is seen and does not separate words. -/
structure IsLetter (character : Char) : Prop where
  lone : Lone character
  visible : 1 ≤ charWidth character
  word : Cluster.isSeparator [character] = false

namespace IsLetter

variable {character : Char}

theorem ink (letter : IsLetter character) : Cluster.IsInk [character] where
  word := letter.word
  visible := letter.lone.width_cluster ▸ letter.visible
  narrow := letter.lone.width_cluster ▸ charWidth_le_two character

theorem ne_space (letter : IsLetter character) : character ≠ ' ' := by
  rintro rfl
  exact absurd letter.word (by decide)

theorem ne_escape (letter : IsLetter character) : character ≠ Wrap.escape := by
  rintro rfl
  exact absurd letter.lone.control (by decide)

/-- The printable characters of ASCII but the space. -/
theorem of_ascii (low : 0x21 ≤ character.toNat) (high : character.toNat ≤ 0x7e) :
    IsLetter character where
  lone := by
    have notJoiner : character ≠ joiner := by
      rintro rfl
      exact absurd high (by decide)
    constructor
    · simp [isControl]
      omega
    · simp [isContinuation, isMark, notJoiner]
      omega
    · simp [isFlagLetter]
      omega
    · rw [isPictograph, Bool.and_eq_false_iff, decide_eq_false_iff_not]
      exact .inl (by omega)
    · simp only [syllablePart?, Bool.or_eq_true, Bool.and_eq_true, decide_eq_true_eq]
      rw [if_neg (by omega), if_neg (by omega), if_neg (by omega), if_neg (by omega)]
  visible := by
    unfold charWidth
    split_ifs <;> omega
  word := by
    have notBreak : character ≠ emptyBreak := by
      rintro rfl
      exact absurd high (by decide)
    simp [Cluster.isSeparator, isBlank, notBreak]
    omega

end IsLetter

/-- Every character as a cluster. -/
def single (text : List Char) : List Cluster :=
  text.map fun character => [character]

@[simp] theorem single_nil : single [] = [] := rfl

theorem single_append (front back : List Char) : single (front ++ back) = single front ++ single back :=
  List.map_append

theorem totalWidth_single_cons {character : Char} (letter : IsLetter character) (rest : List Char) :
    totalWidth (single (character :: rest)) = charWidth character + totalWidth (single rest) := by
  rw [single, List.map_cons, totalWidth_cons, letter.lone.width_cluster]
  rfl

namespace Wrap

variable {width spaces : Nat}

/-- The parts that a word is cut into, each as wide as the line has room for. -/
inductive Cuts (width spaces : Nat) : List Char → List Piece → Prop where
  | whole {text : List Char} (some : text ≠ []) (narrow : totalWidth (single text) ≤ width) :
      Cuts width spaces text [⟨text, totalWidth (single text), spaces⟩]
  | cut {front rest : List Char} {character : Char} {pieces : List Piece} (some : front ≠ [])
      (narrow : totalWidth (single front) ≤ width)
      (full : width < totalWidth (single front) + charWidth character)
      (others : Cuts width spaces (character :: rest) pieces) :
      Cuts width spaces (front ++ character :: rest)
        (⟨front, totalWidth (single front), 0⟩ :: pieces)

theorem cuts_shortenFrom (wide : 2 ≤ width) {part text : List Char} {columns : Nat}
    (partLetters : ∀ character ∈ part.reverse, IsLetter character)
    (letters : ∀ character ∈ text, IsLetter character)
    (counted : columns = totalWidth (single part.reverse)) (narrow : columns ≤ width)
    (some : part ≠ [] ∨ text ≠ []) :
    Cuts width spaces (part.reverse ++ text) (shortenFrom width spaces part columns text) := by
  fun_induction shortenFrom width spaces part columns text with
  | case1 part columns empty => simp_all
  | case2 part columns filled =>
      subst counted
      rw [List.append_nil]
      exact .whole (by simpa using filled) narrow
  | case3 part columns rest left taken ih => exact absurd rfl (letters _ List.mem_cons_self).ne_escape
  | case4 part columns character rest plain exceeds ih =>
      obtain ⟨letter, others⟩ := List.forall_mem_cons.mp letters
      have own := charWidth_le_two character
      simp only [Bool.and_eq_true, decide_eq_true_eq] at exceeds
      have some : part.reverse ≠ [] := by
        intro none
        rw [counted, none] at exceeds
        exact absurd exceeds.1 (by decide)
      subst counted
      refine .cut some narrow exceeds.2 (ih ?_ others ?_ (by omega) (.inl (by simp)))
      · simpa using letter
      · rw [List.reverse_singleton, totalWidth_single_cons letter]
        rfl
  | case5 part columns character rest plain fits ih =>
      obtain ⟨letter, others⟩ := List.forall_mem_cons.mp letters
      have own := charWidth_le_two character
      simp only [Bool.and_eq_true, decide_eq_true_eq] at fits
      rw [List.append_cons, ← List.reverse_cons]
      refine ih ?_ others ?_ (by omega) (.inl (by simp))
      · simpa [or_imp, forall_and, letter] using partLetters
      · rw [List.reverse_cons, single_append, totalWidth_append, ← counted,
          totalWidth_single_cons letter]
        rfl

theorem cuts_shorten (wide : 2 ≤ width) {word : List Char}
    (letters : ∀ character ∈ word, IsLetter character) (some : word ≠ []) :
    Cuts width spaces word (shorten width (.ofPart spaces word)) := by
  rw [shorten_eq_shortenFrom width spaces some]
  have nothing : ∀ character ∈ ([] : List Char).reverse, IsLetter character := by simp
  exact cuts_shortenFrom wide nothing letters rfl (Nat.zero_le width) (.inr some)

/-- A piece of ordinary text is measured by its characters and fits the line. -/
structure Piece.Fits (width : Nat) (piece : Piece) : Prop where
  letters : ∀ character ∈ piece.characters, IsLetter character
  counted : piece.columns = totalWidth (single piece.characters)
  narrow : piece.columns ≤ width
  singleSpace : piece.spaces ≤ 1
  some : 1 ≤ piece.columns + piece.spaces

/-- A piece with no space behind it is as wide as the line has room for. -/
def Piece.EndsBefore (width : Nat) (piece next : Piece) : Prop :=
  piece.spaces = 0 → ∃ character rest, next.characters = character :: rest ∧
    width < piece.columns + charWidth character

namespace Cuts

variable {word : List Char} {pieces : List Piece}

theorem fits (cuts : Cuts width spaces word pieces)
    (letters : ∀ character ∈ word, IsLetter character) (singleSpace : spaces ≤ 1) :
    ∀ piece ∈ pieces, piece.Fits width := by
  have visible {text : List Char} (some : text ≠ [])
      (letters : ∀ character ∈ text, IsLetter character) : 1 ≤ totalWidth (single text) := by
    obtain ⟨character, rest, rfl⟩ := List.exists_cons_of_ne_nil some
    rw [totalWidth_single_cons (letters character List.mem_cons_self)]
    exact Nat.le_trans (letters character List.mem_cons_self).visible (Nat.le_add_right _ _)
  induction cuts with
  | whole some narrow =>
      rw [List.forall_mem_singleton]
      exact ⟨letters, rfl, narrow, singleSpace, Nat.le_add_right_of_le (visible some letters)⟩
  | cut some narrow full others ih =>
      obtain ⟨first, behind⟩ := List.forall_mem_append.mp letters
      exact List.forall_mem_cons.mpr
        ⟨⟨first, rfl, narrow, Nat.zero_le 1, visible some first⟩, ih behind⟩

/-- The spaces stay behind the last part. -/
theorem exists_last (cuts : Cuts width spaces word pieces) :
    ∃ front last, pieces = front ++ [last] ∧ last.spaces = spaces := by
  induction cuts with
  | whole => exact ⟨[], _, rfl, rfl⟩
  | cut some narrow full others ih =>
      obtain ⟨front, last, rfl, spaced⟩ := ih
      exact ⟨_ :: front, last, rfl, spaced⟩

theorem exists_first (cuts : Cuts width spaces word pieces) {character : Char} {rest : List Char}
    (start : word = character :: rest) :
    ∃ first others more, pieces = first :: others ∧ first.characters = character :: more := by
  cases cuts with
  | whole => exact ⟨_, _, _, rfl, start⟩
  | cut some narrow full others =>
      obtain ⟨first, more, rfl⟩ := List.exists_cons_of_ne_nil some
      obtain rfl : first = character := (List.cons.inj start).1
      exact ⟨_, _, more, rfl, rfl⟩

theorem isChain (cuts : Cuts width spaces word pieces) :
    pieces.IsChain (Piece.EndsBefore width) := by
  induction cuts with
  | whole => exact .singleton _
  | cut some narrow full others ih =>
      obtain ⟨first, behind, more, rfl, start⟩ := others.exists_first rfl
      exact .cons_cons (fun _ => ⟨_, more, start, full⟩) ih

end Cuts

/-- What a word is cut into. -/
theorem shorten_word (wide : 2 ≤ width) {word : List Char}
    (letters : ∀ character ∈ word, IsLetter character) (singleSpace : spaces ≤ 1)
    (some : word ≠ [] ∨ spaces ≠ 0) :
    (∀ piece ∈ shorten width (.ofPart spaces word), piece.Fits width) ∧
      (shorten width (.ofPart spaces word)).IsChain (Piece.EndsBefore width) ∧
      ∃ front last, shorten width (.ofPart spaces word) = front ++ [last] ∧
        last.spaces = spaces := by
  by_cases empty : word = []
  · subst empty
    have spaced : spaces ≠ 0 := some.resolve_left (absurd rfl)
    rw [shorten_ofPart_nil]
    refine ⟨?_, .singleton _, [], _, rfl, rfl⟩
    rw [List.forall_mem_singleton]
    exact ⟨letters, rfl, Nat.zero_le width, singleSpace, by simpa [Nat.one_le_iff_ne_zero] using spaced⟩
  · have cuts : Cuts width spaces word (shorten width (.ofPart spaces word)) :=
      cuts_shorten wide letters empty
    exact ⟨cuts.fits letters singleSpace, cuts.isChain, cuts.exists_last⟩

/-! ## Rows that fit -/

theorem lineCost_le (width columns : Nat) (last alone : Bool) :
    lineCost width columns last alone ≤ 1025 +
      (max width 1 - columns) * (max width 1 - columns) + (columns - max width 1) * 2500 := by
  cases last with
  | false =>
      rw [lineCost_eq]
      omega
  | true =>
      rw [lineCost_last_eq]
      split
      · omega
      · omega

/-- Two rows instead of one that is too wide: their gaps together are no wider than the field. -/
theorem two_rows_cheaper {first space second : Nat} (narrow : width ≤ 38) (fits : first ≤ width)
    (single : space ≤ 1) (some : 1 ≤ first + space) (wide : width < first + space + second) :
    1000 + (width - first) * (width - first) +
        (1025 + (width - second) * (width - second) + (second - width) * 2500) <
      1000 + (first + space + second - width) * 2500 := by
  rcases Nat.le_total second width with inside | beyond
  · have gaps : (width - first) + (width - second) ≤ 38 := by omega
    have squares := Nat.mul_le_mul gaps gaps
    have nothing : second - width = 0 := by omega
    have excess : 1 ≤ first + space + second - width := by omega
    rw [nothing]
    nlinarith [Nat.zero_le ((width - first) * (width - second))]
  · have gap : width - first ≤ 38 := by omega
    have square := Nat.mul_le_mul gap gap
    have nothing : width - second = 0 := by omega
    rw [nothing]
    omega

/-- In a field of 38 columns or fewer it is always cheaper to break behind the first piece of a row than
to leave the row too wide. -/
theorem Cheapest.fits {pieces : List Piece} {breaks : Nat → Break}
    (cheapest : Cheapest (spanCost width pieces) pieces.length breaks) (positive : 1 ≤ width)
    (narrow : width ≤ 38) (fits : ∀ piece ∈ pieces, piece.Fits width) {stop : Nat} (some : 0 < stop)
    (inside : stop ≤ pieces.length) :
    finish pieces stop - origin pieces (breaks stop).start ≤ width := by
  by_contra wide
  have leftmost := cheapest.leftmost stop some inside
  generalize (breaks stop).start = start at leftmost wide
  have before : start < pieces.length := Nat.lt_of_lt_of_le leftmost.lt inside
  have piece := fits pieces[start] (List.getElem_mem before)
  have behind := origin_succ before
  have short := finish_succ before
  have more : start + 1 < stop := by
    rcases Nat.eq_or_lt_of_le (Nat.succ_le_of_lt leftmost.lt) with rfl | more
    · have narrow := piece.narrow
      rw [short] at wide
      omega
    · exact more
  have starts := origin_le_finish more inside
  have cheaper := leftmost.least (start + 1) more
  have earlier := (cheapest.leftmost (start + 1) (Nat.succ_pos start) before).least start
    (Nat.lt_succ_self start)
  rw [← cheapest.total (start + 1) (Nat.succ_pos start) before] at earlier
  have whole : spanCost width pieces start stop =
      1000 + (finish pieces stop - origin pieces start - width) * 2500 := by
    rw [spanCost, lineCost, Nat.max_eq_left positive, if_pos (Nat.lt_of_not_le wide)]
    rfl
  have front : spanCost width pieces start (start + 1) =
      1000 + (width - pieces[start].columns) * (width - pieces[start].columns) := by
    have others : (start + 1 == pieces.length) = false := by
      rw [beq_eq_false_iff_ne]
      omega
    have gap : finish pieces (start + 1) - origin pieces start = pieces[start].columns := by omega
    rw [spanCost, others, lineCost_eq, Nat.max_eq_left positive, gap,
      Nat.sub_eq_zero_of_le piece.narrow, Nat.zero_mul, Nat.add_zero]
  have back := lineCost_le width (finish pieces stop - origin pieces (start + 1))
    (stop == pieces.length) (start + 1 + 1 == stop)
  have columns : finish pieces stop - origin pieces start = pieces[start].columns +
      pieces[start].spaces + (finish pieces stop - origin pieces (start + 1)) := by omega
  have split := two_rows_cheaper narrow piece.narrow piece.singleSpace piece.some
    (columns ▸ Nat.lt_of_not_le wide)
  rw [Nat.max_eq_left positive] at back
  rw [whole, columns] at cheaper
  rw [front] at earlier
  change spanCost width pieces (start + 1) stop ≤ _ at back
  omega

theorem mem_backtrack {breaks : Array Break} {count : Nat}
    (less : ∀ stop, 0 < stop → stop ≤ count → breaks[stop]!.start < stop) {steps stop : Nat}
    (positive : 0 < stop) (inside : stop ≤ count) :
    ∀ span ∈ backtrack breaks steps stop,
      span.1 = breaks[span.2]!.start ∧ 0 < span.2 ∧ span.2 ≤ count := by
  induction steps generalizing stop with
  | zero => simp [backtrack]
  | succ steps ih =>
      have before := less stop positive inside
      rw [backtrack]
      refine List.forall_mem_cons.mpr ⟨⟨rfl, positive, inside⟩, ?_⟩
      split
      next => simp
      next later => exact ih (Nat.pos_of_ne_zero later) (by omega)

/-- The columns of a row without the spaces at its end. -/
theorem exists_last_of_span {pieces : List Piece} {start stop : Nat} (order : start < stop)
    (inside : stop ≤ pieces.length) :
    ∃ front last, (pieces.drop start).take (stop - start) = front ++ [last] ∧
      extent front + last.columns = finish pieces stop - origin pieces start := by
  obtain ⟨final, rfl⟩ : ∃ final, stop = final + 1 := ⟨stop - 1, by omega⟩
  have within : final - start < (pieces.drop start).length := by
    rw [List.length_drop]
    omega
  have place : start + (final - start) = final := by omega
  refine ⟨(pieces.drop start).take (final - start), pieces[final], ?_, ?_⟩
  · rw [Nat.sub_add_comm (Nat.le_of_lt_succ order), List.take_succ_eq_append_getElem within]
    simp [place]
  · have total : origin pieces final =
        origin pieces start + extent ((pieces.drop start).take (final - start)) := by
      rw [origin, origin, ← extent_append, ← List.take_add, place]
    rw [finish_succ inside, total]
    omega

/-- Every row fits. -/
theorem fits_of_mem_rows (positive : 1 ≤ width) (narrow : width ≤ 38) {pieces : List Piece}
    (fits : ∀ piece ∈ pieces, piece.Fits width) :
    ∀ row ∈ rows width pieces, ∃ front last, row = front ++ [last] ∧
      extent front + last.columns ≤ width := by
  intro row member
  have cheapest := cheapest_breaks width pieces
  obtain ⟨⟨start, stop⟩, among, rfl⟩ := List.mem_map.mp member
  have some : 0 < pieces.length := by
    rcases Nat.eq_zero_or_pos pieces.length with none | some
    · rw [none] at among
      simp [backtrack] at among
    · exact some
  obtain ⟨own, positiveStop, inside⟩ := mem_backtrack
    (fun stop positive inside => (cheapest.leftmost stop positive inside).lt) some Nat.le.refl
    (start, stop) (List.mem_reverse.mp among)
  obtain rfl : start = (breaks width pieces)[stop]!.start := own
  obtain ⟨front, last, whole, columns⟩ :=
    exists_last_of_span (cheapest.leftmost stop positiveStop inside).lt inside
  exact ⟨front, last, whole, columns.trans_le (cheapest.fits positive narrow fits positiveStop inside)⟩

/-! ## Words of a line -/

theorem not_mem_wordsFrom {word line : List Char} (unspaced : ' ' ∉ word) (spaces : Nat) :
    ∀ entry ∈ wordsFrom word spaces line, ' ' ∉ entry.1 := by
  fun_induction wordsFrom word spaces line with
  | case1 => simp
  | case2 => simpa using unspaced
  | case3 word spaces rest ih => exact ih unspaced
  | case4 word character rest letter ih => exact ih (by simpa [Ne.symm letter] using unspaced)
  | case5 word spaces character rest letter spaced ih =>
      exact List.forall_mem_cons.mpr ⟨by simpa using unspaced, ih (by simpa using Ne.symm letter)⟩

theorem some_of_mem_wordsFrom (word line : List Char) (spaces : Nat) :
    ∀ entry ∈ wordsFrom word spaces line, entry.1 ≠ [] ∨ entry.2 ≠ 0 := by
  fun_induction wordsFrom word spaces line with
  | case1 => simp
  | case2 word spaces some =>
      rw [List.forall_mem_singleton]
      simpa [imp_iff_not_or] using some
  | case3 word spaces rest ih => exact ih
  | case4 word character rest letter ih => exact ih
  | case5 word spaces character rest letter spaced ih =>
      exact List.forall_mem_cons.mpr ⟨.inr spaced, ih⟩

/-- Every word but the last one has spaces behind it. -/
theorem isChain_wordsFrom (word line : List Char) (spaces : Nat) :
    (wordsFrom word spaces line).IsChain fun entry _ => entry.2 ≠ 0 := by
  fun_induction wordsFrom word spaces line with
  | case1 => exact .nil
  | case2 => exact .singleton _
  | case3 word spaces rest ih => exact ih
  | case4 word character rest letter ih => exact ih
  | case5 word spaces character rest letter spaced ih =>
      exact List.isChain_cons.mpr ⟨fun _ _ => spaced, ih⟩

theorem infix_of_mem_words {line : List Char} {word : List Char × Nat} (member : word ∈ words line) :
    word.1 ++ List.replicate word.2 ' ' <:+: line := by
  obtain ⟨before, after, cut⟩ := List.append_of_mem member
  have whole := wordsText_wordsFrom [] 0 line
  rw [← words, cut] at whole
  refine ⟨wordsText before, wordsText after, ?_⟩
  simpa [wordsText] using whole

/-- A word without a hyphen between letters or numbers is not cut. -/
theorem partsFrom_of_unbroken {part word : List Char}
    (unbroken : ∀ before after, [before, '-', after] <:+: part.reverse ++ word →
      (isAlphanumeric before && isAlphanumeric after) = false) :
    partsFrom part word = [part.reverse ++ word] := by
  induction word generalizing part with
  | nil => simp [partsFrom]
  | cons character rest ih =>
      rw [partsFrom]
      split
      next cut =>
        have blank : isAlphanumeric ' ' = false := by decide
        simp only [Bool.and_eq_true, decide_eq_true_eq] at cut
        obtain ⟨⟨rfl, front⟩, behind⟩ := cut
        cases part with
        | nil => simp [blank] at front
        | cons before earlier =>
            cases rest with
            | nil => simp [blank] at behind
            | cons after later =>
                have kept := unbroken before after ⟨earlier.reverse, later, by simp⟩
                rw [List.headD_cons] at front behind
                rw [front, behind] at kept
                contradiction
      next =>
        rw [ih (by simpa using unbroken)]
        simp

end Wrap

/-- Words with single spaces between them, and no hyphen between letters or numbers. -/
structure Words (line : List Char) : Prop where
  letters : ∀ character ∈ line, character = ' ' ∨ IsLetter character
  singleSpaces : ¬[' ', ' '] <:+: line
  unbroken : ∀ before after, [before, '-', after] <:+: line →
    (isAlphanumeric before && isAlphanumeric after) = false

namespace Words

variable {line : List Char} {width : Nat} (ordinary : Words line)

include ordinary

theorem of_mem_words {word : List Char × Nat} (member : word ∈ Wrap.words line) :
    (∀ character ∈ word.1, IsLetter character) ∧ word.2 ≤ 1 ∧ (word.1 ≠ [] ∨ word.2 ≠ 0) ∧
      Wrap.partsFrom [] word.1 = [word.1] := by
  have inside := Wrap.infix_of_mem_words member
  have front : word.1 <:+: line := (List.infix_append' [] _ _).trans inside
  refine ⟨fun character there => ?_, ?_, Wrap.some_of_mem_wordsFrom [] line 0 word member, ?_⟩
  · refine (ordinary.letters character (front.subset there)).resolve_left ?_
    rintro rfl
    exact Wrap.not_mem_wordsFrom (by simp) 0 word member there
  · by_contra many
    obtain ⟨more, spaces⟩ : ∃ more, word.2 = 2 + more := ⟨word.2 - 2, by omega⟩
    refine ordinary.singleSpaces (List.IsInfix.trans ?_ inside)
    rw [spaces, List.replicate_add]
    exact ⟨word.1, List.replicate more ' ', by simp⟩
  · exact Wrap.partsFrom_of_unbroken fun before after there =>
      ordinary.unbroken before after (there.trans front)

/-- The pieces are the words, cut where they are too wide. -/
theorem pieces_eq : Wrap.pieces width line = (Wrap.words line).flatMap fun word =>
    Wrap.shorten width (.ofPart word.2 word.1) := by
  rw [Wrap.pieces, List.flatMap_assoc]
  refine List.flatMap_congr fun word member => ?_
  have whole : Wrap.partsFrom [] word.1 = [] ++ [word.1] := (ordinary.of_mem_words member).2.2.2
  rw [Wrap.parts_eq word.2 whole]
  simp

theorem fits_of_mem_pieces (wide : 2 ≤ width) :
    ∀ piece ∈ Wrap.pieces width line, piece.Fits width := by
  intro piece member
  rw [ordinary.pieces_eq] at member
  obtain ⟨word, among, inside⟩ := List.mem_flatMap.mp member
  obtain ⟨letters, singleSpace, some, -⟩ := ordinary.of_mem_words among
  exact (Wrap.shorten_word wide letters singleSpace some).1 piece inside

theorem isChain_pieces (wide : 2 ≤ width) :
    (Wrap.pieces width line).IsChain (Wrap.Piece.EndsBefore width) := by
  have cut (word : List Char × Nat) (member : word ∈ Wrap.words line) :=
    (ordinary.of_mem_words member)
  rw [ordinary.pieces_eq, List.flatMap, List.isChain_flatten]
  · refine ⟨?_, ?_⟩
    · intro pieces member
      obtain ⟨word, among, rfl⟩ := List.mem_map.mp member
      obtain ⟨letters, singleSpace, some, -⟩ := ordinary.of_mem_words among
      exact (Wrap.shorten_word wide letters singleSpace some).2.1
    · rw [List.isChain_map]
      refine (Wrap.isChain_wordsFrom [] line 0).imp_of_mem_imp fun word next among _ spaced => ?_
      obtain ⟨letters, singleSpace, some, -⟩ := ordinary.of_mem_words among
      obtain ⟨-, -, front, last, cut, spaces⟩ := Wrap.shorten_word wide letters singleSpace some
      intro piece isLast _ _ unspaced
      rw [cut, List.getLast?_concat, Option.mem_some_iff] at isLast
      rw [← isLast, spaces] at unspaced
      exact absurd unspaced spaced
  · intro none
    obtain ⟨word, among, empty⟩ := List.mem_map.mp none
    obtain ⟨letters, singleSpace, some, -⟩ := ordinary.of_mem_words among
    obtain ⟨-, -, front, last, cut, -⟩ := Wrap.shorten_word wide letters singleSpace some
    rw [cut] at empty
    simp at empty

end Words

/-! ## Rows of words -/

theorem lone_space : Lone ' ' := by
  constructor <;> decide

theorem drawable_of_lone {text : List Char} (lone : ∀ character ∈ text, Lone character) :
    drawable text = single text := by
  rw [drawable, clusters_of_lone lone]
  refine List.filter_eq_self.mpr fun cluster member => ?_
  obtain ⟨character, inside, rfl⟩ := List.mem_map.mp member
  simp [Cluster.isDrawable, (lone character inside).control]

theorem totalWidth_single_spaces (spaces : Nat) :
    totalWidth (single (List.replicate spaces ' ')) = spaces := by
  induction spaces with
  | zero => rfl
  | succ spaces ih =>
      have width : Cluster.width [' '] = 1 := width_space
      rw [List.replicate_succ, single, List.map_cons, totalWidth_cons, width]
      rw [single] at ih
      omega

namespace Wrap

theorem rowText_flatten (rows : List (List Piece)) :
    rowText rows.flatten = (rows.map rowText).flatten := by
  induction rows with
  | nil => rfl
  | cons row rest ih => simp [ih]

theorem totalWidth_rowText {width : Nat} {row : List Piece}
    (fits : ∀ piece ∈ row, piece.Fits width) : totalWidth (single (rowText row)) = extent row := by
  induction row with
  | nil => rfl
  | cons piece rest ih =>
      obtain ⟨first, others⟩ := List.forall_mem_cons.mp fits
      have whole := extent_append [piece] rest
      have own : extent [piece] = piece.columns + piece.spaces := by simp [extent]
      rw [List.singleton_append, own, first.counted] at whole
      rw [rowText_cons, single_append, single_append, totalWidth_append, totalWidth_append, ih others,
        totalWidth_single_spaces, whole]

variable {width : Nat} {front row next : List Piece} {last : Piece}

theorem single_rowText_concat (front : List Piece) (last : Piece) :
    single (rowText (front ++ [last])) = single (rowText front) ++ single last.characters ++
      single (List.replicate last.spaces ' ') := by
  simp [single_append]

/-- A row without the space at its end is no wider than its pieces. -/
theorem totalWidth_dropSpace_rowText (fits : ∀ piece ∈ front ++ [last], piece.Fits width) :
    totalWidth (Flow.dropSpace (single (rowText (front ++ [last])))) ≤
      extent front + last.columns := by
  obtain ⟨frontFits, lastFits⟩ := List.forall_mem_append.mp fits
  rw [List.forall_mem_singleton] at lastFits
  have columns : totalWidth (single (rowText front) ++ single last.characters) =
      extent front + last.columns := by
    rw [totalWidth_append, totalWidth_rowText frontFits, lastFits.counted]
  rw [single_rowText_concat, ← columns]
  rcases Nat.eq_or_lt_of_le lastFits.singleSpace with one | none
  · rw [one]
    exact Nat.le_of_eq (congrArg totalWidth (Flow.dropSpace_concat _))
  · rw [Nat.lt_one_iff.mp none, List.replicate_zero, single_nil, List.append_nil]
    exact Flow.totalWidth_dropSpace_le _

/-- Where a row ends, flowing may go on in the next one. -/
theorem endsBefore_rowText (some : row ≠ []) (fits : ∀ piece ∈ row, piece.Fits width)
    (nextFits : ∀ piece ∈ next, piece.Fits width) (others : next ≠ [])
    (ends : ∀ᵉ (piece ∈ row.getLast?) (first ∈ next.head?), piece.EndsBefore width first) :
    Flow.EndsBefore width (single (rowText row)) (single (rowText next)) := by
  obtain ⟨front, last, rfl⟩ := (List.eq_nil_or_concat' row).resolve_left some
  obtain ⟨first, rest, rfl⟩ := List.exists_cons_of_ne_nil others
  have lastFits := fits last (by simp)
  rw [single_rowText_concat]
  rcases Nat.eq_or_lt_of_le lastFits.singleSpace with one | none
  · left
    rw [one]
    exact List.getLast?_concat
  · right
    have unspaced : last.spaces = 0 := Nat.lt_one_iff.mp none
    obtain ⟨character, more, start, full⟩ := ends last (by simp) first (by simp) unspaced
    have letter := (nextFits first List.mem_cons_self).letters character (by simp [start])
    have word : ∀ cluster ∈ single last.characters, cluster ≠ space := by
      intro cluster member
      obtain ⟨other, inside, rfl⟩ := List.mem_map.mp member
      simpa [space] using (lastFits.letters other inside).ne_space
    have long := Flow.le_lastWord_append (single (rowText front)) word
    have head : ((single (rowText (first :: rest))).headD []).width = charWidth character := by
      rw [rowText_cons, start, ← letter.lone.width_cluster]
      rfl
    rw [← lastFits.counted] at long
    rw [unspaced, List.replicate_zero, single_nil, List.append_nil, head]
    omega

/-- Ordinary words are drawn as they are measured in a field of 2 to 38 columns. -/
theorem DrawnAsMeasured.of_words {line : List Char} (ordinary : Words line) (wide : 2 ≤ width)
    (narrow : width ≤ 38) : DrawnAsMeasured width line := by
  have lone : ∀ character ∈ line, Lone character := by
    intro character inside
    rcases ordinary.letters character inside with rfl | letter
    · exact lone_space
    · exact letter.lone
  have whole : ((rows width (pieces width line)).map rowText).flatten = line := by
    rw [← rowText_flatten, flatten_rows, rowText_pieces]
  have rowFits : ∀ row ∈ rows width (pieces width line), ∀ piece ∈ row, piece.Fits width := by
    intro row member piece inside
    refine ordinary.fits_of_mem_pieces wide piece ?_
    rw [← flatten_rows width (pieces width line)]
    exact List.mem_flatten.mpr ⟨row, member, inside⟩
  have inLine : ∀ row ∈ rows width (pieces width line), ∀ character ∈ rowText row,
      character ∈ line := by
    intro row member character inside
    rw [← whole]
    exact List.mem_flatten.mpr ⟨_, List.mem_map_of_mem member, inside⟩
  have drawn : drawnRows width line =
      (rows width (pieces width line)).map fun row => single (rowText row) :=
    List.map_congr_left fun row member =>
      drawable_of_lone fun character inside => lone character (inLine row member character inside)
  have inside := fits_of_mem_rows (Nat.le_of_succ_le wide) narrow (ordinary.fits_of_mem_pieces wide)
  have noEmpty : [] ∉ rows width (pieces width line) := by
    intro member
    obtain ⟨front, last, empty, -⟩ := inside [] member
    simp at empty
  have chain := ordinary.isChain_pieces wide
  rw [← flatten_rows width (pieces width line), List.isChain_flatten noEmpty] at chain
  refine ⟨?_, ?_, ?_, ?_⟩
  · calc
      drawable line = single ((rows width (pieces width line)).map rowText).flatten := by
        rw [whole, drawable_of_lone lone]
      _ = (drawnRows width line).flatten := by
        rw [drawn, single, List.map_flatten, List.map_map]
        rfl
  · intro clusters member cluster inside
    rw [drawn] at member
    obtain ⟨row, among, rfl⟩ := List.mem_map.mp member
    obtain ⟨character, there, rfl⟩ := List.mem_map.mp inside
    exact (ordinary.letters character (inLine row among character there)).imp
      (congrArg fun character => [character]) IsLetter.ink
  · intro clusters member
    rw [drawn] at member
    obtain ⟨row, among, rfl⟩ := List.mem_map.mp member
    obtain ⟨front, last, rfl, columns⟩ := inside row among
    exact Nat.le_trans (totalWidth_dropSpace_rowText (rowFits _ among)) columns
  · rw [drawn, List.isChain_map]
    exact chain.2.imp_of_mem_imp fun row next among later ends =>
      endsBefore_rowText (ne_of_mem_of_not_mem among noEmpty) (rowFits row among)
        (rowFits next later) (ne_of_mem_of_not_mem later noEmpty) ends

end Wrap

end Colloquy.Text
