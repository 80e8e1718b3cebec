import Mathlib.Data.List.Basic
import Mathlib.Data.List.Induction
import Mathlib.Tactic.Linarith
import Colloquy.Text.Wrap

/-!
# Cheapest breaks

Every line starts where it is cheapest, and furthest left among equally cheap places. Two lines one of
which lies inside the other never cost less than the two that start and stop at the same places and
cross; so the further right a line stops, the further right it starts. Hence pieces take no fewer lines
if the last one gets wider or another one follows.
-/

namespace Colloquy.Text.Wrap

/-! ## Leftmost starts -/

/-- The leftmost of the cheapest starts before a stop. -/
structure Leftmost (cost : Nat → Nat) (stop best : Nat) : Prop where
  lt : best < stop
  least : ∀ start < stop, cost best ≤ cost start
  first : ∀ start < best, cost best < cost start

namespace Leftmost

variable {cost other : Nat → Nat} {stop best : Nat}

theorem congr (leftmost : Leftmost cost stop best)
    (same : ∀ start < stop, cost start = other start) : Leftmost other stop best where
  lt := leftmost.lt
  least start before := by
    rw [← same best leftmost.lt, ← same start before]
    exact leftmost.least start before
  first start before := by
    rw [← same best leftmost.lt, ← same start (before.trans leftmost.lt)]
    exact leftmost.first start before

theorem unique {found : Nat} (leftmost : Leftmost cost stop best)
    (again : Leftmost cost stop found) : best = found := by
  rcases Nat.lt_trichotomy best found with left | same | right
  · exact absurd (again.first best left) (Nat.not_lt.mpr (leftmost.least found again.lt))
  · exact same
  · exact absurd (leftmost.first found right) (Nat.not_lt.mpr (again.least best leftmost.lt))

/-- If crossing lines cost no more than nested ones, the line that stops further right does not start
further left: the two would be nested. -/
theorem le_of_crossing {before line longer : Nat → Nat} {stop further best found : Nat}
    (short : Leftmost (fun start => before start + line start) stop best)
    (long : Leftmost (fun start => before start + longer start) further found)
    (order : stop ≤ further)
    (crossing : ∀ left right, left < right → right < stop →
      line left + longer right ≤ line right + longer left) : best ≤ found := by
  by_contra left
  have inside := short.lt
  have nested := crossing found best (Nat.lt_of_not_le left) inside
  have cheaper := short.first found (Nat.lt_of_not_le left)
  have cheapest := long.least best (Nat.lt_of_lt_of_le inside order)
  omega

/-- Going through all starts finds the leftmost of the cheapest ones. -/
theorem exists_foldl (option : Nat → Break) (stop : Nat) :
    ∃ best, (List.range (stop + 1)).foldl
        (fun found start =>
          let next := option start
          if next.cost < found.cost then next else found) (option 0) = option best ∧
      Leftmost (fun start => (option start).cost) (stop + 1) best := by
  induction stop with
  | zero => exact ⟨0, by simp, by omega, by simp, by simp⟩
  | succ stop ih =>
      obtain ⟨best, found, leftmost⟩ := ih
      have inside := leftmost.lt
      rw [List.range_succ, List.foldl_append, found, List.foldl_cons, List.foldl_nil]
      by_cases cheaper : (option (stop + 1)).cost < (option best).cost
      · refine ⟨stop + 1, if_pos cheaper, by omega, fun start before => ?_, fun start before => ?_⟩
        · rcases Nat.lt_succ_iff_lt_or_eq.mp before with earlier | rfl
          · exact (Nat.le_of_lt cheaper).trans (leftmost.least start earlier)
          · exact Nat.le.refl
        · exact Nat.lt_of_lt_of_le cheaper (leftmost.least start before)
      · refine ⟨best, if_neg cheaper, by omega, fun start before => ?_, leftmost.first⟩
        rcases Nat.lt_succ_iff_lt_or_eq.mp before with earlier | rfl
        · exact leftmost.least start earlier
        · exact Nat.le_of_not_lt cheaper

end Leftmost

/-! ## Costs of lines -/

/-- Squares of gaps are convex, also where a gap is closed. -/
theorem sq_gap_crossing (gap left right : Nat) :
    (gap - left) * (gap - left) + (gap - right) * (gap - right) ≤
      gap * gap + (gap - (left + right)) * (gap - (left + right)) := by
  rcases Nat.le_total (left + right) gap with inside | beyond
  · obtain ⟨rest, rfl⟩ := Nat.exists_eq_add_of_le inside
    have first : left + right + rest - left = right + rest := by omega
    have second : left + right + rest - right = left + rest := by omega
    have third : left + right + rest - (left + right) = rest := by omega
    rw [first, second, third]
    nlinarith
  · have together : (gap - left) + (gap - right) ≤ gap := by omega
    have squares := Nat.mul_le_mul together together
    have nothing : gap - (left + right) = 0 := by omega
    rw [nothing]
    nlinarith [Nat.zero_le ((gap - left) * (gap - right))]

theorem lineCost_eq (width columns : Nat) (single : Bool) :
    lineCost width columns false single = 1000 +
      (max width 1 - columns) * (max width 1 - columns) + (columns - max width 1) * 2500 := by
  by_cases wide : max width 1 < columns
  · have gap : max width 1 - columns = 0 := by omega
    rw [lineCost, if_pos wide, gap]
    simp only [costs]
  · have excess : columns - max width 1 = 0 := by omega
    rw [lineCost, if_neg wide, if_pos (by rfl), excess]
    simp only [costs]
    omega

/-- Lines that cross cost no more than lines of which one lies inside the other. -/
theorem lineCost_crossing {first second inner outer : Bool} (width columns left right : Nat) :
    lineCost width (columns + left) false first + lineCost width (columns + right) false second ≤
      lineCost width columns false inner +
        lineCost width (columns + left + right) false outer := by
  have gaps := sq_gap_crossing (max width 1 - columns) left right
  simp only [lineCost_eq, Nat.add_assoc, Nat.sub_add_eq] at gaps ⊢
  omega

theorem lineCost_last_eq (width columns : Nat) (single : Bool) :
    lineCost width columns true single = 1000 + (columns - max width 1) * 2500 +
      if single = true ∧ columns * 4 < max width 1 then 25 else 0 := by
  by_cases wide : max width 1 < columns
  · have long : ¬(single = true ∧ columns * 4 < max width 1) := by omega
    rw [lineCost, if_pos wide, if_neg long]
    simp only [costs]
    omega
  · have excess : columns - max width 1 = 0 := by omega
    rw [lineCost, if_neg wide, if_neg (by decide), excess]
    by_cases short : single = true ∧ columns * 4 < max width 1
    · rw [if_pos short, if_pos (by simpa [costs] using short)]
      simp only [costs]
    · rw [if_neg short, if_neg (by simpa [costs] using short)]
      simp only [costs]

/-- Nor do they if they are last lines, and a single piece is not the outer line. -/
theorem lineCost_last_crossing {single longer : Bool} (width columns left right : Nat)
    (shorter : longer = true → single = true) :
    lineCost width (columns + left) true false + lineCost width (columns + right) true longer ≤
      lineCost width columns true single +
        lineCost width (columns + left + right) true false := by
  have short : (if longer = true ∧ (columns + right) * 4 < max width 1 then 25 else 0) ≤
      if single = true ∧ columns * 4 < max width 1 then 25 else 0 := by
    by_cases long : longer = true ∧ (columns + right) * 4 < max width 1
    · have alone : single = true ∧ columns * 4 < max width 1 :=
        ⟨shorter long.1, by omega⟩
      rw [if_pos long, if_pos alone]
    · rw [if_neg long]
      exact Nat.zero_le _
  simp only [lineCost_last_eq, Bool.false_eq_true, false_and, if_false]
  omega

/-! ## Places of pieces -/

/-- The columns that pieces take up, with all their spaces. -/
def extent (pieces : List Piece) : Nat :=
  (pieces.map fun piece => piece.columns + piece.spaces).sum

@[simp] theorem extent_append (front back : List Piece) :
    extent (front ++ back) = extent front + extent back := by
  simp [extent]

/-- The column at which a piece starts. -/
def origin (pieces : List Piece) (start : Nat) : Nat :=
  extent (pieces.take start)

/-- The column at which a line ends that stops before a piece. -/
def finish (pieces : List Piece) (stop : Nat) : Nat :=
  origin pieces stop - ((pieces[stop - 1]?.map Piece.spaces).getD 0)

theorem origin_append {front : List Piece} (back : List Piece) {start : Nat}
    (inside : start ≤ front.length) : origin (front ++ back) start = origin front start := by
  rw [origin, List.take_append_of_le_length inside, origin]

theorem origin_succ {pieces : List Piece} {start : Nat} (inside : start < pieces.length) :
    origin pieces (start + 1) =
      origin pieces start + pieces[start].columns + pieces[start].spaces := by
  rw [origin, List.take_succ_eq_append_getElem inside, extent_append, origin, Nat.add_assoc]
  simp [extent]

theorem finish_succ {pieces : List Piece} {start : Nat} (inside : start < pieces.length) :
    finish pieces (start + 1) = origin pieces start + pieces[start].columns := by
  rw [finish, origin_succ inside, Nat.add_sub_cancel, List.getElem?_eq_getElem inside]
  simp

theorem origin_mono {pieces : List Piece} {start later : Nat} (order : start ≤ later) :
    origin pieces start ≤ origin pieces later := by
  obtain ⟨more, rfl⟩ := Nat.exists_eq_add_of_le order
  rw [origin, origin, List.take_add, extent_append]
  exact Nat.le_add_right _ _

theorem finish_le_origin (pieces : List Piece) (stop : Nat) :
    finish pieces stop ≤ origin pieces stop :=
  Nat.sub_le _ _

theorem origin_le_finish {pieces : List Piece} {start stop : Nat} (order : start < stop)
    (inside : stop ≤ pieces.length) : origin pieces start ≤ finish pieces stop := by
  obtain ⟨last, rfl⟩ : ∃ last, stop = last + 1 := ⟨stop - 1, by omega⟩
  rw [finish_succ inside]
  exact (origin_mono (Nat.le_of_lt_succ order)).trans (Nat.le_add_right _ _)

theorem finish_mono {pieces : List Piece} {stop further : Nat} (order : stop ≤ further)
    (inside : further ≤ pieces.length) : finish pieces stop ≤ finish pieces further := by
  rcases Nat.eq_or_lt_of_le order with rfl | less
  · exact Nat.le.refl
  · exact (finish_le_origin pieces stop).trans (origin_le_finish less inside)

theorem finish_append {front : List Piece} (back : List Piece) {stop : Nat} (positive : 0 < stop)
    (inside : stop ≤ front.length) : finish (front ++ back) stop = finish front stop := by
  rw [finish, origin_append back inside, List.getElem?_append_left (by omega), finish]

theorem offsets_concat (pieces : List Piece) (last : Piece) :
    offsets (pieces ++ [last]) = offsets pieces ++ [extent (pieces ++ [last])] := by
  have total : ∀ pieces : List Piece, (pieces.foldl
      (fun (done : List Nat × Nat) piece =>
        ((done.2 + piece.columns + piece.spaces) :: done.1, done.2 + piece.columns + piece.spaces))
      ([0], 0)).2 = extent pieces := by
    intro pieces
    induction pieces using List.reverseRecOn with
    | nil => rfl
    | append_singleton front last ih =>
        rw [List.foldl_append, List.foldl_cons, List.foldl_nil, ih, extent_append, Nat.add_assoc]
        simp [extent]
  simp only [offsets, List.foldl_append, List.foldl_cons, List.foldl_nil, List.reverse_cons, total,
    extent_append]
  simp [extent, Nat.add_assoc]

theorem getElem?_offsets {pieces : List Piece} {start : Nat} (inside : start ≤ pieces.length) :
    (offsets pieces)[start]? = some (origin pieces start) := by
  have long : ∀ pieces : List Piece, (offsets pieces).length = pieces.length + 1 := by
    intro pieces
    induction pieces using List.reverseRecOn with
    | nil => rfl
    | append_singleton front last ih => simp [offsets_concat, ih]
  induction pieces using List.reverseRecOn with
  | nil =>
      obtain rfl : start = 0 := by simpa using inside
      rfl
  | append_singleton front last ih =>
      rw [offsets_concat]
      rcases Nat.lt_or_ge front.length start with beyond | within
      · obtain rfl : start = front.length + 1 := by
          rw [List.length_append, List.length_singleton] at inside
          omega
        rw [List.getElem?_append_right (by rw [long]), long, origin,
          List.take_of_length_le (by simp)]
        simp
      · rw [List.getElem?_append_left (by rw [long]; omega), ih within, origin_append _ within]

/-! ## Breaks that cost least -/

/-- The cost of a line by where it starts and stops. -/
def spanCost (width : Nat) (pieces : List Piece) (start stop : Nat) : Nat :=
  lineCost width (finish pieces stop - origin pieces start) (stop == pieces.length)
    (start + 1 == stop)

/-- Every line starts where it and the lines before it cost least. -/
structure Cheapest (cost : Nat → Nat → Nat) (count : Nat) (breaks : Nat → Break) : Prop where
  none : (breaks 0).cost = 0
  total : ∀ stop, 0 < stop → stop ≤ count →
    (breaks stop).cost = (breaks (breaks stop).start).cost + cost (breaks stop).start stop
  leftmost : ∀ stop, 0 < stop → stop ≤ count →
    Leftmost (fun start => (breaks start).cost + cost start stop) stop (breaks stop).start

namespace Cheapest

variable {cost other : Nat → Nat → Nat} {count otherCount : Nat} {breaks others : Nat → Break}

/-- The breaks up to a stop depend only on the costs of the lines up to there. -/
theorem agree (cheapest : Cheapest cost count breaks) (again : Cheapest other otherCount others)
    {limit : Nat} (within : limit ≤ count) (inside : limit ≤ otherCount)
    (same : ∀ start stop, start < stop → stop ≤ limit → cost start stop = other start stop)
    {stop : Nat} (reached : stop ≤ limit) :
    (breaks stop).cost = (others stop).cost ∧
      (0 < stop → (breaks stop).start = (others stop).start) := by
  induction stop using Nat.strong_induction_on with
  | _ stop ih =>
      rcases Nat.eq_zero_or_pos stop with rfl | positive
      · exact ⟨cheapest.none.trans again.none.symm, fun some => absurd some (Nat.lt_irrefl 0)⟩
      · have first := cheapest.leftmost stop positive (reached.trans within)
        have second := again.leftmost stop positive (reached.trans inside)
        have equal : ∀ start < stop, (breaks start).cost + cost start stop =
            (others start).cost + other start stop := by
          intro start before
          rw [(ih start before (by omega)).1, same start stop before reached]
        have starts := (first.congr equal).unique second
        refine ⟨?_, fun _ => starts⟩
        rw [cheapest.total stop positive (reached.trans within),
          again.total stop positive (reached.trans inside), ← starts]
        exact equal _ first.lt

end Cheapest

/-- The breaks before the first pieces, as far as they are known after some steps. -/
def breaksUpTo (width : Nat) (pieces : List Piece) (steps : Nat) : Array Break :=
  (List.range steps).foldl
    (fun (done : Array Break) index =>
      done.push (bestBreak width (offsets pieces).toArray (pieces.map Piece.spaces).toArray
        pieces.length done (index + 1)))
    #[⟨0, 0⟩]

section

variable (width : Nat) (pieces : List Piece)

theorem breaks_eq : breaks width pieces = breaksUpTo width pieces pieces.length := rfl

theorem breaksUpTo_succ (steps : Nat) :
    breaksUpTo width pieces (steps + 1) = (breaksUpTo width pieces steps).push
      (bestBreak width (offsets pieces).toArray (pieces.map Piece.spaces).toArray pieces.length
        (breaksUpTo width pieces steps) (steps + 1)) := by
  rw [breaksUpTo, List.range_succ, List.foldl_append]
  rfl

@[simp] theorem size_breaksUpTo (steps : Nat) :
    (breaksUpTo width pieces steps).size = steps + 1 := by
  induction steps with
  | zero => rfl
  | succ steps ih => rw [breaksUpTo_succ, Array.size_push, ih]

/-- A break that is known stays as it is. -/
theorem getElem!_breaksUpTo {stop steps more : Nat} (known : stop ≤ steps) (later : steps ≤ more) :
    (breaksUpTo width pieces more)[stop]! = (breaksUpTo width pieces steps)[stop]! := by
  induction more, later using Nat.le_induction with
  | base => rfl
  | succ more later ih =>
      have inside : stop < (breaksUpTo width pieces more).size := by
        rw [size_breaksUpTo]
        omega
      rw [breaksUpTo_succ, ← ih, getElem!_def, getElem!_def, Array.getElem?_push_lt inside,
        Array.getElem?_eq_getElem inside]

/-- The break before a stop if the line to it starts at a given place. -/
def breakFrom (done : Array Break) (stop start : Nat) : Break :=
  let finish := (offsets pieces).toArray[stop]! - (pieces.map Piece.spaces).toArray[stop - 1]!
  ⟨start, done[start]!.cost +
    lineCost width (finish - (offsets pieces).toArray[start]!) (stop == pieces.length)
      (start + 1 == stop)⟩

theorem breakFrom_eq (done : Array Break) {stop start : Nat} (order : start < stop)
    (inside : stop ≤ pieces.length) :
    breakFrom width pieces done stop start =
      ⟨start, done[start]!.cost + spanCost width pieces start stop⟩ := by
  have column : ∀ start ≤ pieces.length, (offsets pieces).toArray[start]! = origin pieces start := by
    intro start before
    rw [List.getElem!_toArray, getElem!_def, getElem?_offsets before]
  have behind : (pieces.map Piece.spaces).toArray[stop - 1]! =
      (pieces[stop - 1]?.map Piece.spaces).getD 0 := by
    rw [List.getElem!_toArray, getElem!_def, List.getElem?_map]
    cases pieces[stop - 1]? with
    | none => rfl
    | some piece => rfl
  simp only [breakFrom, column stop inside, column start (by omega), behind, spanCost, finish]

theorem exists_bestBreak (done : Array Break) {stop : Nat} (inside : stop < pieces.length) :
    ∃ best, bestBreak width (offsets pieces).toArray (pieces.map Piece.spaces).toArray
        pieces.length done (stop + 1) =
          ⟨best, done[best]!.cost + spanCost width pieces best (stop + 1)⟩ ∧
      Leftmost (fun start => done[start]!.cost + spanCost width pieces start (stop + 1))
        (stop + 1) best := by
  obtain ⟨best, found, leftmost⟩ :=
    Leftmost.exists_foldl (breakFrom width pieces done (stop + 1)) stop
  refine ⟨best, ?_, leftmost.congr fun start before => ?_⟩
  · rw [← breakFrom_eq width pieces done leftmost.lt inside]
    exact found
  · rw [breakFrom_eq width pieces done before inside]

/-- The breaks that are chosen cost least. -/
theorem cheapest_breaks :
    Cheapest (spanCost width pieces) pieces.length fun stop => (breaks width pieces)[stop]! := by
  have chosen : ∀ stop, 0 < stop → stop ≤ pieces.length → ∃ best,
      (breaks width pieces)[stop]! =
        ⟨best, (breaks width pieces)[best]!.cost + spanCost width pieces best stop⟩ ∧
      Leftmost (fun start => (breaks width pieces)[start]!.cost + spanCost width pieces start stop)
        stop best := by
    intro stop positive inside
    obtain ⟨last, rfl⟩ : ∃ last, stop = last + 1 := ⟨stop - 1, by omega⟩
    obtain ⟨best, found, leftmost⟩ :=
      exists_bestBreak width pieces (breaksUpTo width pieces last) inside
    have known : ∀ start < last + 1, (breaks width pieces)[start]! =
        (breaksUpTo width pieces last)[start]! := fun start before =>
      getElem!_breaksUpTo width pieces (by omega) (by omega)
    have own : (breaksUpTo width pieces (last + 1))[last + 1]! = ⟨best,
        (breaksUpTo width pieces last)[best]!.cost + spanCost width pieces best (last + 1)⟩ := by
      rw [breaksUpTo_succ, found, getElem!_def]
      simp [Array.getElem_push]
    refine ⟨best, ?_, leftmost.congr fun start before => by rw [known start before]⟩
    rw [known best leftmost.lt, ← own, breaks_eq]
    exact getElem!_breaksUpTo width pieces Nat.le.refl inside
  refine ⟨?_, fun stop positive inside => ?_, fun stop positive inside => ?_⟩
  · have first := getElem!_breaksUpTo width pieces (Nat.le_refl 0) (Nat.zero_le pieces.length)
    rw [breaks_eq, first]
    rfl
  · obtain ⟨best, found, -⟩ := chosen stop positive inside
    rw [found]
  · obtain ⟨best, found, leftmost⟩ := chosen stop positive inside
    rw [found]
    exact leftmost

end

/-! ## Crossing lines -/

section

variable {width : Nat} {pieces : List Piece} {left right stop further : Nat}

/-- The columns of four lines between two places to start and two to stop, by those of the shortest. -/
theorem exists_columns {near far : Nat} (starts : far ≤ near) (covers : near ≤ stop)
    (stops : stop ≤ further) :
    ∃ columns before behind, stop - near = columns ∧ stop - far = columns + before ∧
      further - near = columns + behind ∧ further - far = columns + before + behind := by
  refine ⟨_, near - far, further - stop, rfl, ?_, ?_, ?_⟩
  · omega
  · omega
  · omega

theorem spanCost_crossing (apart : left < right) (inside : right < stop) (order : stop ≤ further)
    (within : further < pieces.length) :
    spanCost width pieces left stop + spanCost width pieces right further ≤
      spanCost width pieces right stop + spanCost width pieces left further := by
  have short : (stop == pieces.length) = false := beq_eq_false_iff_ne.mpr (by omega)
  have long : (further == pieces.length) = false := beq_eq_false_iff_ne.mpr (by omega)
  obtain ⟨columns, before, behind, inner, first, second, outer⟩ :=
    exists_columns (@origin_mono pieces _ _ (Nat.le_of_lt apart))
      (origin_le_finish inside (order.trans (Nat.le_of_lt within)))
      (finish_mono order (Nat.le_of_lt within))
  rw [spanCost, spanCost, spanCost, spanCost, short, long, inner, first, second, outer]
  exact lineCost_crossing width columns before behind

/-- Of two stops before the last one, the line to the further one does not start further left. -/
theorem Cheapest.start_mono {breaks : Nat → Break} {count : Nat}
    (cheapest : Cheapest (spanCost width pieces) count breaks) (positive : 0 < stop)
    (order : stop ≤ further) (within : further < pieces.length) (known : further ≤ count) :
    (breaks stop).start ≤ (breaks further).start :=
  (cheapest.leftmost stop positive (order.trans known)).le_of_crossing
    (cheapest.leftmost further (Nat.lt_of_lt_of_le positive order) known) order
    fun _ _ apart inside => spanCost_crossing apart inside order within

end

/-! ## Growing pieces -/

/-- Pieces that are followed by others, after the last one perhaps got wider. -/
inductive Grown : List Piece → List Piece → Prop where
  | followed (pieces rest : List Piece) : Grown pieces (pieces ++ rest)
  | widened (front : List Piece) (last first : Piece) (rest : List Piece)
      (wider : last.columns ≤ first.columns) : Grown (front ++ [last]) (front ++ first :: rest)

theorem Grown.prepend {pieces longer : List Piece} (grown : Grown pieces longer)
    (before : List Piece) : Grown (before ++ pieces) (before ++ longer) := by
  cases grown with
  | followed _ rest =>
      rw [← List.append_assoc]
      exact .followed _ rest
  | widened front last first rest wider =>
      rw [← List.append_assoc, ← List.append_assoc]
      exact .widened _ last first rest wider

section

variable (width : Nat) (front : List Piece) {last first : Piece} (rest : List Piece)

/-- The cost of a line that other pieces follow does not depend on them. -/
theorem spanCost_append {back : List Piece} (some : back ≠ []) {start stop : Nat}
    (order : start < stop) (inside : stop ≤ front.length) :
    spanCost width (front ++ back) start stop =
      lineCost width (finish front stop - origin front start) false (start + 1 == stop) := by
  have more := List.length_pos_iff.mpr some
  have early : (stop == (front ++ back).length) = false := by
    rw [List.length_append]
    exact beq_eq_false_iff_ne.mpr (by omega)
  rw [spanCost, finish_append _ (by omega) inside, origin_append _ (by omega), early]

/-- Lines that other pieces follow break in the same places whatever these pieces are. -/
theorem breaks_append {back other : List Piece} (some : back ≠ []) (others : other ≠ [])
    {stop : Nat} (inside : stop ≤ front.length) :
    (breaks width (front ++ back))[stop]!.cost = (breaks width (front ++ other))[stop]!.cost ∧
      (0 < stop → (breaks width (front ++ back))[stop]!.start =
        (breaks width (front ++ other))[stop]!.start) := by
  refine (cheapest_breaks width (front ++ back)).agree (cheapest_breaks width (front ++ other))
    (by simp) (by simp) (fun start stop order inside => ?_) inside
  rw [spanCost_append width front some order inside, spanCost_append width front others order inside]

variable {width front rest}

theorem finish_le_of_wider (wider : last.columns ≤ first.columns) :
    finish (front ++ [last]) (front ++ [last]).length ≤
      finish (front ++ first :: rest) (front ++ first :: rest).length := by
  have next : finish (front ++ first :: rest) (front.length + 1) ≤
      finish (front ++ first :: rest) (front ++ first :: rest).length :=
    finish_mono (by simp) Nat.le.refl
  have starts : origin (front ++ [last]) front.length =
      origin (front ++ first :: rest) front.length := by
    rw [origin_append _ Nat.le.refl, origin_append _ Nat.le.refl]
  calc
    finish (front ++ [last]) (front ++ [last]).length =
        origin (front ++ [last]) front.length + last.columns := by
      rw [List.length_append, List.length_singleton, finish_succ (by simp)]
      simp
    _ ≤ origin (front ++ first :: rest) front.length + first.columns := by
      rw [starts]
      exact Nat.add_le_add_left wider _
    _ = finish (front ++ first :: rest) (front.length + 1) := by
      rw [finish_succ (by simp)]
      simp
    _ ≤ finish (front ++ first :: rest) (front ++ first :: rest).length := next

theorem spanCost_last_crossing (wider : last.columns ≤ first.columns) {left right : Nat}
    (apart : left < right) (inside : right < (front ++ [last]).length) :
    spanCost width (front ++ [last]) left (front ++ [last]).length +
        spanCost width (front ++ first :: rest) right (front ++ first :: rest).length ≤
      spanCost width (front ++ [last]) right (front ++ [last]).length +
        spanCost width (front ++ first :: rest) left (front ++ first :: rest).length := by
  have short : (front ++ [last]).length = front.length + 1 := by simp
  have long : front.length < (front ++ first :: rest).length := by simp
  have origins : ∀ start ≤ front.length,
      origin (front ++ first :: rest) start = origin (front ++ [last]) start := by
    intro start within
    rw [origin_append _ within, origin_append _ within]
  have inner : (left + 1 == (front ++ [last]).length) = false :=
    beq_eq_false_iff_ne.mpr (by omega)
  have outer : (left + 1 == (front ++ first :: rest).length) = false :=
    beq_eq_false_iff_ne.mpr (by omega)
  have single : (right + 1 == (front ++ first :: rest).length) = true →
      (right + 1 == (front ++ [last]).length) = true := by
    simp only [beq_iff_eq]
    omega
  obtain ⟨columns, before, behind, nearest, second, third, furthest⟩ :=
    exists_columns (@origin_mono (front ++ [last]) _ _ (Nat.le_of_lt apart))
      (origin_le_finish inside Nat.le.refl) (@finish_le_of_wider front last first rest wider)
  rw [spanCost, spanCost, spanCost, spanCost, inner, outer, beq_self_eq_true, beq_self_eq_true,
    origins left (by omega), origins right (by omega), nearest, second, third, furthest]
  exact lineCost_last_crossing width columns before behind single

/-- If the last piece gets wider or is followed by others, the last line starts no further left. -/
theorem start_le_of_wider (wider : last.columns ≤ first.columns) :
    (breaks width (front ++ [last]))[(front ++ [last]).length]!.start ≤
      (breaks width (front ++ first :: rest))[(front ++ first :: rest).length]!.start := by
  have short : (front ++ [last]).length = front.length + 1 := by simp
  have long : front.length < (front ++ first :: rest).length := by simp
  have lastLine := ((cheapest_breaks width (front ++ [last])).leftmost _ (by omega)
    Nat.le.refl).congr fun start before =>
      congrArg (· + spanCost width (front ++ [last]) start (front ++ [last]).length)
        (breaks_append width front (List.cons_ne_nil last []) (List.cons_ne_nil first rest)
          (by omega)).1
  have longerLine := (cheapest_breaks width (front ++ first :: rest)).leftmost _ (by omega)
    Nat.le.refl
  exact lastLine.le_of_crossing longerLine (by omega) fun left right apart inside =>
    spanCost_last_crossing wider apart inside

end

/-! ## Numbers of lines -/

/-- The lines that end at a stop or before it are so many. -/
inductive Chain (start : Nat → Nat) : Nat → Nat → Prop where
  | none : Chain start 0 0
  | line {stop count : Nat} (less : start stop < stop) (earlier : Chain start (start stop) count) :
      Chain start stop (count + 1)

/-- Lines that start further right are not fewer. -/
theorem Chain.le {start later : Nat → Nat} {limit bound stop further count more : Nat}
    (mono : ∀ stop further, 0 < stop → stop ≤ further → stop ≤ limit → further ≤ bound →
      start stop ≤ later further)
    (chain : Chain start stop count) (other : Chain later further more) (order : stop ≤ further)
    (inside : stop ≤ limit) (within : further ≤ bound) : count ≤ more := by
  induction chain generalizing further more with
  | none => exact Nat.zero_le more
  | line less earlier ih =>
      cases other with
      | none => exact absurd less (by omega)
      | line lessLater earlierLater =>
          exact Nat.succ_le_succ (ih earlierLater (mono _ _ (by omega) order inside within)
            (by omega) (by omega))

theorem chain_backtrack {breaks : Array Break} {count : Nat}
    (less : ∀ stop, 0 < stop → stop ≤ count → breaks[stop]!.start < stop) {steps stop : Nat}
    (positive : 0 < stop) (inside : stop ≤ count) (enough : stop ≤ steps) :
    Chain (fun stop => breaks[stop]!.start) stop (backtrack breaks steps stop).length := by
  induction steps generalizing stop with
  | zero => omega
  | succ steps ih =>
      have before := less stop positive inside
      refine .line before ?_
      split
      next first =>
        rw [first]
        exact .none
      next later => exact ih (Nat.pos_of_ne_zero later) (by omega) (by omega)

/-- The last line of pieces is preceded by the ones that end where it starts. -/
theorem exists_chain_fill (width : Nat) {pieces : List Piece} (positive : 0 < pieces.length) :
    ∃ count, (fill width pieces).length = count + 1 ∧
      Chain (fun stop => (breaks width pieces)[stop]!.start)
        (breaks width pieces)[pieces.length]!.start count := by
  have some : ¬pieces.isEmpty = true := by simpa using List.ne_nil_of_length_pos positive
  have chain := chain_backtrack
    (fun stop positive inside => ((cheapest_breaks width pieces).leftmost stop positive inside).lt)
    positive Nat.le.refl Nat.le.refl
  rw [fill, if_neg some, List.length_map, List.length_reverse]
  generalize (backtrack _ _ _).length = total at chain ⊢
  generalize pieces.length = stop at chain positive ⊢
  cases chain with
  | none => contradiction
  | line less earlier => exact ⟨_, rfl, earlier⟩

theorem length_fill_pos (width : Nat) (pieces : List Piece) : 0 < (fill width pieces).length := by
  rcases List.eq_nil_or_concat' pieces with rfl | ⟨front, last, rfl⟩
  · exact Nat.one_pos
  · have positive : 0 < (front ++ [last]).length := by simp
    obtain ⟨count, lines, -⟩ := exists_chain_fill width positive
    rw [lines]
    exact Nat.succ_pos count

theorem length_fill_widened (width : Nat) (front : List Piece) {last first : Piece}
    (rest : List Piece) (wider : last.columns ≤ first.columns) :
    (fill width (front ++ [last])).length ≤ (fill width (front ++ first :: rest)).length := by
  have short : (front ++ [last]).length = front.length + 1 := by simp
  have long : front.length < (front ++ first :: rest).length := by simp
  obtain ⟨count, lines, chain⟩ := exists_chain_fill width (by omega : 0 < (front ++ [last]).length)
  obtain ⟨more, longerLines, longerChain⟩ := exists_chain_fill width (Nat.zero_lt_of_lt long)
  have cheapest := cheapest_breaks width (front ++ first :: rest)
  have start := ((cheapest_breaks width (front ++ [last])).leftmost _ (by omega) Nat.le.refl).lt
  have longerStart := (cheapest.leftmost _ (Nat.zero_lt_of_lt long) Nat.le.refl).lt
  have mono : ∀ stop further, 0 < stop → stop ≤ further → stop ≤ front.length →
      further ≤ (front ++ first :: rest).length - 1 →
      (breaks width (front ++ [last]))[stop]!.start ≤
        (breaks width (front ++ first :: rest))[further]!.start := by
    intro stop further positive before inside within
    rw [(breaks_append width front (List.cons_ne_nil last []) (List.cons_ne_nil first rest)
      inside).2 positive]
    exact cheapest.start_mono positive before (by omega) (by omega)
  rw [lines, longerLines]
  exact Nat.succ_le_succ
    (chain.le mono longerChain (start_le_of_wider wider) (by omega) (by omega))

/-- Pieces that grow take no fewer lines. -/
theorem length_fill_le_of_grown (width : Nat) {pieces longer : List Piece}
    (grown : Grown pieces longer) : (fill width pieces).length ≤ (fill width longer).length := by
  cases grown with
  | followed pieces rest =>
      rcases List.eq_nil_or_concat' pieces with rfl | ⟨front, last, rfl⟩
      · exact length_fill_pos width rest
      · rw [List.append_assoc]
        exact length_fill_widened width front rest Nat.le.refl
  | widened front last first rest wider => exact length_fill_widened width front rest wider

end Colloquy.Text.Wrap
