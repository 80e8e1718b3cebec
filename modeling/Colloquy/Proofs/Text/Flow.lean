import Mathlib.Data.List.DropRight
import Mathlib.Data.List.Induction
import Colloquy.Text.Flow

/-!
# Flowing over rows

A text may be cut into rows in advance: each fits the field without a space at its end, and each ends
with a space or because the word at its end would be too wide with the next cluster. Flowing then never
falls behind the rows, so the text takes no more lines than it has rows.
-/

namespace Colloquy.Text

@[simp] theorem totalWidth_nil : totalWidth [] = 0 := rfl

@[simp] theorem totalWidth_cons (cluster : Cluster) (rest : List Cluster) :
    totalWidth (cluster :: rest) = cluster.width + totalWidth rest := rfl

@[simp] theorem totalWidth_append (front back : List Cluster) :
    totalWidth (front ++ back) = totalWidth front + totalWidth back := by
  induction front with
  | nil => simp
  | cons cluster rest ih => simp [ih, Nat.add_assoc]

/-- The cluster of a space. -/
def space : Cluster := [' ']

theorem width_space : space.width = 1 := by decide

theorem isSeparator_space : space.isSeparator = true := by decide

/-- A cluster of a word that takes one column or two. -/
structure Cluster.IsInk (cluster : Cluster) : Prop where
  word : cluster.isSeparator = false
  visible : 1 ≤ cluster.width
  narrow : cluster.width ≤ 2

instance (cluster : Cluster) : Decidable cluster.IsInk :=
  decidable_of_iff (cluster.isSeparator = false ∧ 1 ≤ cluster.width ∧ cluster.width ≤ 2)
    ⟨fun ⟨word, visible, narrow⟩ => ⟨word, visible, narrow⟩,
      fun ink => ⟨ink.word, ink.visible, ink.narrow⟩⟩

namespace Flow

/-! ## One cluster -/

/-- Blanks that fit into the rest of a line are dropped. -/
theorem dropFitting_eq_nil {room : Nat} {blanks : List Cluster} (fits : totalWidth blanks ≤ room) :
    dropFitting room blanks = [] := by
  induction blanks generalizing room with
  | nil => rfl
  | cons blank rest ih =>
      rw [totalWidth_cons] at fits
      rw [dropFitting, if_pos (by omega)]
      exact ih (by omega)

variable {limit : Nat} {state : State} {cluster : Cluster} {lines filled blanks word : Nat}

namespace State

/-- How many lines are finished, and how wide are the open line, the blanks and the word behind it. What
has no width is empty. -/
structure Measures (state : State) (lines filled blanks word : Nat) : Prop where
  lines : state.lines.length = lines
  lineWidth : state.lineWidth = filled
  blanksWidth : state.blanksWidth = blanks
  wordWidth : state.wordWidth = word
  total : totalWidth state.blanks = blanks
  emptyLine : state.line = [] ↔ filled = 0
  noBlanks : state.blanks = [] ↔ blanks = 0
  noWord : state.word = [] ↔ word = 0
  afterBlank : state.afterWord = false → word = 0

namespace Measures

theorem initial : ({} : State).Measures 0 0 0 0 := by
  constructor <;> simp

theorem join (measures : state.Measures lines filled blanks word) :
    (state.join false).Measures lines (filled + blanks + word) 0 0 := by
  have empty := measures.emptyLine
  have noBlanks := measures.noBlanks
  have noWord := measures.noWord
  constructor <;> simp [State.join, measures.lines, measures.lineWidth, measures.blanksWidth,
    measures.wordWidth]
  tauto

theorem endLine (measures : state.Measures lines filled blanks word) (room : blanks ≤ limit - filled) :
    (state.endLine limit).Measures (lines + 1) 0 0 word := by
  have dropped : dropFitting (limit - state.lineWidth) state.blanks = [] := by
    apply dropFitting_eq_nil
    rwa [measures.total, measures.lineWidth]
  constructor <;> simp [State.endLine, dropped, measures.lines, measures.wordWidth, measures.noWord]
  exact measures.afterBlank

theorem addWord (measures : state.Measures lines filled blanks word) (visible : 0 < cluster.width) :
    (state.add cluster false).Measures lines filled blanks (word + cluster.width) := by
  obtain ⟨rfl, rfl, rfl, rfl, total, emptyLine, noBlanks, -, -⟩ := measures
  constructor <;> simp [State.add, *]
  omega

theorem addBlank (measures : state.Measures lines filled blanks 0) (visible : 0 < cluster.width) :
    (state.add cluster true).Measures lines filled (blanks + cluster.width) 0 := by
  obtain ⟨rfl, rfl, rfl, wordWidth, total, emptyLine, -, noWord, -⟩ := measures
  constructor <;> simp [State.add, *]
  omega

theorem mustEnd_iff (measures : state.Measures lines filled blanks word) {width : Nat}
    (visible : 0 < width) : state.mustEnd limit width = true ↔ limit ≤ filled + blanks + word := by
  simp [State.mustEnd, measures.lineWidth, measures.blanksWidth, measures.wordWidth, visible]
  omega

theorem mustJoin_word_iff (measures : state.Measures lines filled blanks word) {width : Nat} :
    state.mustJoin limit false false width = true ↔ filled = 0 ∧ limit < blanks + word + width := by
  simp [State.mustJoin, measures.emptyLine, measures.blanksWidth, measures.wordWidth,
    Nat.add_comm word blanks]

theorem mustJoin_blank_iff (measures : state.Measures lines filled blanks word) {width : Nat} :
    state.mustJoin limit false true width = true ↔
      state.afterWord = true ∨ filled = 0 ∧ limit < blanks + word + width := by
  simp [State.mustJoin, measures.emptyLine, measures.blanksWidth, measures.wordWidth,
    Nat.add_comm word blanks]

/-- A cluster of a word goes behind the word, on the next line if the open one is full. -/
theorem exists_putWord (measures : state.Measures lines filled blanks word)
    (room : blanks ≤ limit - filled) (ink : cluster.IsInk) :
    ∃ lines' filled' blanks',
      (if state.mustEnd limit cluster.width then (state.endLine limit).add cluster false
        else state.add cluster false).Measures lines' filled' blanks' (word + cluster.width) ∧
      (limit ≤ filled + blanks + word ∧ lines' = lines + 1 ∧ filled' = 0 ∧ blanks' = 0 ∨
        filled + blanks + word < limit ∧ lines' = lines ∧ filled' = filled ∧ blanks' = blanks) := by
  by_cases full : state.mustEnd limit cluster.width = true
  · rw [if_pos full]
    refine ⟨_, _, _, (measures.endLine room).addWord ink.visible, .inl ⟨?_, rfl, rfl, rfl⟩⟩
    exact (measures.mustEnd_iff ink.visible).mp full
  · rw [if_neg full]
    refine ⟨_, _, _, measures.addWord ink.visible, .inr ⟨?_, rfl, rfl, rfl⟩⟩
    exact Nat.lt_of_not_le ((measures.mustEnd_iff ink.visible).not.mp full)

/-- A space ends the line if it is full, and goes behind it if not. -/
theorem exists_putSpace (measures : state.Measures lines filled blanks 0)
    (room : blanks ≤ limit - filled) :
    ∃ lines' filled' blanks',
      (if state.mustEnd limit space.width then
          if (state.endLine limit).blanks.isEmpty then state.endLine limit
          else (state.endLine limit).add space true
        else state.add space true).Measures lines' filled' blanks' 0 ∧
      (limit ≤ filled + blanks ∧ lines' = lines + 1 ∧ filled' = 0 ∧ blanks' = 0 ∨
        filled + blanks < limit ∧ lines' = lines ∧ filled' = filled ∧ blanks' = blanks + 1) := by
  have visible : 0 < space.width := by simp [width_space]
  by_cases full : state.mustEnd limit space.width = true
  · have ended := measures.endLine room
    rw [if_pos full, if_pos (by simpa using ended.noBlanks)]
    exact ⟨_, _, _, ended, .inl ⟨(measures.mustEnd_iff visible).mp full, rfl, rfl, rfl⟩⟩
  · rw [if_neg full]
    refine ⟨_, _, _, measures.addBlank visible, .inr ⟨?_, rfl, rfl, rfl⟩⟩
    exact Nat.lt_of_not_le ((measures.mustEnd_iff visible).not.mp full)

theorem length_finish (measures : state.Measures lines filled blanks word) :
    (state.finish false).length =
      if filled + blanks + word = 0 then max lines 1 else lines + 1 := by
  have nothing := measures.join.emptyLine
  have finished := measures.lines
  unfold State.finish
  by_cases empty : filled + blanks + word = 0
  · rw [if_pos empty]
    cases known : state.lines with
    | nil => simp [nothing.mpr empty, ← finished, known]
    | cons last others => simp [nothing.mpr empty, ← finished, known]
  · rw [if_neg empty]
    simp [nothing.not.mpr empty, finished]

end Measures

end State

/-! ## Rows -/

/-- Flowing has come to a column of a row, so many columns into a word, and has not fallen behind. Either
nothing is on the open line yet, and that line stands above the row or what is to go on it ends no further
right than the row. Or the next line is the one to compare, as the word will move there; the open line may
stand beside the row only if a space stands before the word. -/
def Ahead (limit : Nat) (state : State) (row columns inWord : Nat) : Prop :=
  ∃ lines filled blanks word, state.Measures lines filled blanks word ∧ blanks ≤ limit - filled ∧
    (filled = 0 ∧ (lines < row ∨ lines = row ∧ blanks + word ≤ columns) ∨
      0 < filled ∧ (lines + 1 < row ∨ lines + 1 = row ∧ word ≤ columns ∨
        lines = row ∧ filled + blanks + word ≤ columns ∧ inWord + 2 ≤ columns))

namespace Ahead

variable {row columns inWord : Nat}

theorem initial : Ahead limit {} 0 0 0 :=
  ⟨0, 0, 0, 0, State.Measures.initial, Nat.zero_le _, .inl ⟨rfl, .inr ⟨rfl, Nat.le.refl⟩⟩⟩

theorem step_word (ahead : Ahead limit state row columns inWord) (ink : cluster.IsInk)
    (fits : columns + cluster.width ≤ limit) :
    Ahead limit (step limit false state cluster) row (columns + cluster.width)
      (inWord + cluster.width) := by
  obtain ⟨lines, filled, blanks, word, measures, room, position⟩ := ahead
  have narrow : ¬limit < cluster.width := by omega
  have visible := ink.visible
  unfold step
  simp only [if_neg narrow, ink.word, Bool.false_and, Bool.false_eq_true, if_false]
  by_cases joins : state.mustJoin limit false false cluster.width = true
  · obtain ⟨rfl, wide⟩ := measures.mustJoin_word_iff.mp joins
    obtain ⟨lines', filled', blanks', put, places⟩ :=
      measures.join.exists_putWord (Nat.zero_le (limit - _)) ink
    rw [if_pos joins]
    exact ⟨lines', filled', blanks', _, put, by omega, by omega⟩
  · have starts := measures.mustJoin_word_iff.not.mp joins
    obtain ⟨lines', filled', blanks', put, places⟩ := measures.exists_putWord room ink
    rw [if_neg joins]
    exact ⟨lines', filled', blanks', _, put, by omega, by omega⟩

/-- A space goes on with a row or ends it. -/
theorem step_space (ahead : Ahead limit state row columns inWord) (positive : 0 < limit) :
    Ahead limit (step limit false state space) (row + 1) 0 0 ∧
      (columns + 1 ≤ limit → Ahead limit (step limit false state space) row (columns + 1) 0) := by
  obtain ⟨lines, filled, blanks, word, measures, room, position⟩ := ahead
  have narrow : ¬limit < space.width := Nat.not_lt.mpr positive
  unfold step
  simp only [if_neg narrow, isSeparator_space, Bool.true_and]
  by_cases joins : state.mustJoin limit false true space.width = true
  · obtain ⟨lines', filled', blanks', put, places⟩ :=
      measures.join.exists_putSpace (Nat.zero_le (limit - _))
    rw [if_pos joins]
    exact ⟨⟨lines', filled', blanks', 0, put, by omega, by omega⟩,
      fun fits => ⟨lines', filled', blanks', 0, put, by omega, by omega⟩⟩
  · have apart := measures.mustJoin_blank_iff.not.mp joins
    obtain rfl : word = 0 := measures.afterBlank (by simpa using fun open' => apart (.inl open'))
    obtain ⟨lines', filled', blanks', put, places⟩ := measures.exists_putSpace room
    rw [if_neg joins]
    exact ⟨⟨lines', filled', blanks', 0, put, by omega, by omega⟩,
      fun fits => ⟨lines', filled', blanks', 0, put, by omega, by omega⟩⟩

theorem length_finish (ahead : Ahead limit state row columns inWord) :
    (state.finish false).length ≤ row + 1 ∧
      (columns = 0 → 0 < row → (state.finish false).length ≤ row) := by
  obtain ⟨lines, filled, blanks, word, measures, room, position⟩ := ahead
  rw [measures.length_finish]
  split
  · omega
  · omega

end Ahead

/-- The columns of the word that a row ends with. -/
def lastWord (row : List Cluster) : Nat :=
  totalWidth (row.rtakeWhile (· != space))

/-- A row without the space that ends it. -/
def dropSpace (row : List Cluster) : List Cluster :=
  if row.getLast? = some space then row.dropLast else row

theorem dropSpace_concat (row : List Cluster) : dropSpace (row ++ [space]) = row := by
  rw [dropSpace, if_pos List.getLast?_concat, List.dropLast_concat]

theorem totalWidth_dropSpace_le (row : List Cluster) :
    totalWidth (dropSpace row) ≤ totalWidth row := by
  by_cases spaced : row.getLast? = some space
  · obtain ⟨front, rfl⟩ := List.getLast?_eq_some_iff.mp spaced
    rw [dropSpace_concat, totalWidth_append]
    exact Nat.le_add_right _ _
  · rw [dropSpace, if_neg spaced]

theorem le_lastWord_append (front : List Cluster) {word : List Cluster}
    (unspaced : ∀ cluster ∈ word, cluster ≠ space) : totalWidth word ≤ lastWord (front ++ word) := by
  have kept : (front ++ word).rtakeWhile (· != space) = front.rtakeWhile (· != space) ++ word := by
    have all : ∀ cluster ∈ word.reverse, (cluster != space) = true := by simpa using unspaced
    rw [List.rtakeWhile, List.reverse_append, List.takeWhile_append_of_pos all, List.reverse_append,
      List.reverse_reverse, List.rtakeWhile]
  rw [lastWord, kept, totalWidth_append]
  exact Nat.le_add_left _ _

/-- Whether a row ends where it may: behind a space, or where the next cluster would make the word at its
end too wide for the field. -/
def EndsBefore (limit : Nat) (row next : List Cluster) : Prop :=
  row.getLast? = some space ∨ limit < lastWord row + (next.headD []).width

instance (limit : Nat) (row next : List Cluster) : Decidable (EndsBefore limit row next) :=
  inferInstanceAs (Decidable (_ ∨ _))

theorem width_head_le {row : List Cluster}
    (ordinary : ∀ cluster ∈ row, cluster = space ∨ cluster.IsInk) : (row.headD []).width ≤ 2 := by
  cases row with
  | nil => decide
  | cons cluster rest =>
      rcases ordinary cluster List.mem_cons_self with blank | ink
      · rw [List.headD_cons, blank, width_space]
        exact Nat.le_succ 1
      · exact ink.narrow

/-- Rows that flowing can follow. -/
structure Rows (limit : Nat) (rows : List (List Cluster)) : Prop where
  ordinary : ∀ row ∈ rows, ∀ cluster ∈ row, cluster = space ∨ cluster.IsInk
  fits : ∀ row ∈ rows, totalWidth (dropSpace row) ≤ limit
  ends : rows.IsChain (EndsBefore limit)

instance (limit : Nat) (rows : List (List Cluster)) : Decidable (Rows limit rows) :=
  decidable_of_iff
    ((∀ row ∈ rows, ∀ cluster ∈ row, cluster = space ∨ cluster.IsInk) ∧
      (∀ row ∈ rows, totalWidth (dropSpace row) ≤ limit) ∧ rows.IsChain (EndsBefore limit))
    ⟨fun ⟨ordinary, fits, ends⟩ => ⟨ordinary, fits, ends⟩,
      fun rows => ⟨rows.ordinary, rows.fits, rows.ends⟩⟩

/-- Text that stays inside a row. -/
theorem Ahead.flow {row : Nat} (ahead : Ahead limit state row 0 0) {text : List Cluster}
    (ordinary : ∀ cluster ∈ text, cluster = space ∨ cluster.IsInk) (fits : totalWidth text ≤ limit) :
    Ahead limit (text.foldl (step limit false) state) row (totalWidth text) (lastWord text) := by
  induction text using List.reverseRecOn with
  | nil => exact ahead
  | append_singleton text cluster ih =>
      simp only [totalWidth_append, totalWidth_cons, totalWidth_nil, Nat.add_zero] at fits ⊢
      have before := ih (fun other inside => ordinary other (List.mem_append_left _ inside)) (by omega)
      rw [List.foldl_append, List.foldl_cons, List.foldl_nil, lastWord]
      rcases ordinary cluster (by simp) with rfl | ink
      · rw [List.rtakeWhile_concat_neg _ _ _ (by simp)]
        rw [width_space] at fits ⊢
        exact (before.step_space (by omega)).2 fits
      · have other : cluster ≠ space := by
          rintro rfl
          exact absurd ink.word (by simp [isSeparator_space])
        rw [List.rtakeWhile_concat_pos _ _ _ (by simpa using other), totalWidth_append,
          totalWidth_cons, totalWidth_nil]
        exact before.step_word ink fits

/-- Flowing over a row ends in the row, or at the start of the next one if a space ends the row. -/
theorem Ahead.flow_row {row : Nat} (ahead : Ahead limit state row 0 0) {text : List Cluster}
    (ordinary : ∀ cluster ∈ text, cluster = space ∨ cluster.IsInk)
    (fits : totalWidth (dropSpace text) ≤ limit) (positive : 0 < limit) :
    if text.getLast? = some space then
      Ahead limit (text.foldl (step limit false) state) (row + 1) 0 0
    else
      Ahead limit (text.foldl (step limit false) state) row (totalWidth text) (lastWord text) ∧
        totalWidth text ≤ limit := by
  split
  next spaced =>
    obtain ⟨front, rfl⟩ := List.getLast?_eq_some_iff.mp spaced
    rw [dropSpace_concat] at fits
    rw [List.foldl_append, List.foldl_cons, List.foldl_nil]
    have inside := ahead.flow (fun cluster member => ordinary cluster (by simp [member])) fits
    exact (inside.step_space positive).1
  next unspaced =>
    rw [dropSpace, if_neg unspaced] at fits
    exact ⟨ahead.flow ordinary fits, fits⟩

/-- A word that is as wide as the row has no text before it, so the next row starts behind it. -/
theorem Ahead.nextRow {row columns inWord : Nat} (ahead : Ahead limit state row columns inWord)
    (fits : columns ≤ limit) (full : limit < inWord + 2) : Ahead limit state (row + 1) 0 0 := by
  obtain ⟨lines, filled, blanks, word, measures, room, position⟩ := ahead
  exact ⟨lines, filled, blanks, word, measures, room, by omega⟩

/-- Flowing takes no more lines than there are rows. -/
theorem length_finish_of_rows {row : Nat} {rows : List (List Cluster)} (some : rows ≠ [])
    (followed : Rows limit rows) (positive : 0 < limit) (ahead : Ahead limit state row 0 0) :
    ((rows.flatten.foldl (step limit false) state).finish false).length ≤ row + rows.length := by
  induction rows generalizing row state with
  | nil => contradiction
  | cons text rest ih =>
      obtain ⟨ordinary, otherOrdinary⟩ := List.forall_mem_cons.mp followed.ordinary
      obtain ⟨fits, otherFits⟩ := List.forall_mem_cons.mp followed.fits
      have flowed := ahead.flow_row ordinary fits positive
      rw [List.flatten_cons, List.foldl_append, List.length_cons]
      cases rest with
      | nil =>
          split at flowed
          · exact flowed.length_finish.2 rfl (Nat.succ_pos row)
          · exact flowed.1.length_finish.1
      | cons next others =>
          obtain ⟨ends, otherEnds⟩ := List.isChain_cons_cons.mp followed.ends
          have below : Ahead limit (text.foldl (step limit false) state) (row + 1) 0 0 := by
            split at flowed
            next => exact flowed
            next unspaced =>
              have wide := ends.resolve_left unspaced
              have narrow := width_head_le (otherOrdinary next List.mem_cons_self)
              exact flowed.1.nextRow flowed.2 (by omega)
          have counted := ih (by simp) ⟨otherOrdinary, otherFits, otherEnds⟩ below
          rw [List.length_cons] at counted ⊢
          omega

/-- Text cut into rows that flowing can follow takes no more lines than it has rows. -/
theorem length_line_of_rows {text : List Char} {rows : List (List Cluster)} (some : rows ≠ [])
    (followed : Rows limit rows) (positive : 0 < limit) (cut : drawable text = rows.flatten) :
    (line limit false text).length ≤ rows.length := by
  rw [line, cut]
  simpa using length_finish_of_rows some followed positive Ahead.initial

/-! ## Short lines -/

/-- The columns of the open line with the blanks and the word behind it. -/
def State.columns (state : State) : Nat :=
  state.lineWidth + state.blanksWidth + state.wordWidth

theorem columns_join (state : State) : (state.join false).columns = state.columns := by
  simp [State.columns, State.join]

theorem columns_add (state : State) (cluster : Cluster) (blank : Bool) :
    (state.add cluster blank).columns = state.columns + cluster.width := by
  cases blank
  · simp [State.columns, State.add, Nat.add_assoc]
  · simp only [State.columns, State.add, if_true]
    omega

theorem lines_add (state : State) (cluster : Cluster) (blank : Bool) :
    (state.add cluster blank).lines = state.lines := by
  cases blank <;> rfl

/-- A line that does not get full does not end. -/
theorem step_of_narrow (narrow : state.columns + cluster.width < limit) :
    (step limit false state cluster).columns = state.columns + cluster.width ∧
      (step limit false state cluster).lines = state.lines := by
  have open' (other : State) (same : other.columns = state.columns) :
      other.mustEnd limit cluster.width = false := by
    unfold State.columns at same narrow
    simp only [State.mustEnd, Bool.or_eq_false_iff, Bool.and_eq_false_iff, decide_eq_false_iff_not]
    omega
  unfold step
  rw [if_neg (by omega)]
  simp only
  split
  · have lines : (state.join false).lines = state.lines := rfl
    rw [open' _ (columns_join state)]
    simp [columns_add, columns_join, lines_add, lines]
  · rw [open' _ rfl]
    simp [columns_add, lines_add]

theorem length_line_of_narrow {text : List Char} (narrow : totalWidth (drawable text) < limit) :
    (line limit false text).length = 1 := by
  have flowed : ∀ (clusters : List Cluster) (state : State),
      state.columns + totalWidth clusters < limit →
        (clusters.foldl (step limit false) state).lines = state.lines := by
    intro clusters
    induction clusters with
    | nil => exact fun _ _ => rfl
    | cons cluster rest ih =>
        intro state fits
        rw [totalWidth_cons] at fits
        obtain ⟨columns, lines⟩ := @step_of_narrow limit state cluster (by omega)
        rw [List.foldl_cons, ih _ (by omega), lines]
  have unfinished := flowed (drawable text) {} (by simpa [State.columns] using narrow)
  unfold line State.finish
  simp only [unfinished, Bool.and_false, Bool.false_eq_true, if_false]
  split
  · simp
  · simp

end Flow

end Colloquy.Text
