import Mathlib.Algebra.Order.BigOperators.Group.List
import Colloquy.Proofs.Text.Breaks
import Colloquy.Proofs.Text.Columns
import Colloquy.Proofs.Text.Flow

/-!
# Rows

The pieces that wrapping puts on the same line are a row, and the rows together are all pieces. A row
keeps the spaces at its end, which the wrapped line drops. Where flowing can follow the rows, a line that
is drawn takes no more lines than it is measured with.
-/

namespace Colloquy.Text

namespace Wrap

/-- The pieces of every line. -/
def rows (width : Nat) (pieces : List Piece) : List (List Piece) :=
  (backtrack (breaks width pieces) pieces.length pieces.length).reverse.map fun span =>
    (pieces.drop span.1).take (span.2 - span.1)

/-- The lines are what stands on the rows, without the spaces at the ends. -/
theorem fill_eq_rows (width : Nat) {pieces : List Piece} (some : pieces ≠ []) :
    fill width pieces = (rows width pieces).map lineText := by
  rw [fill, if_neg (by simpa using some), rows, List.map_map]
  rfl

theorem flatten_backtrack {breaks : Array Break} (pieces : List Piece)
    (less : ∀ stop, 0 < stop → stop ≤ pieces.length → breaks[stop]!.start < stop) {steps stop : Nat}
    (positive : 0 < stop) (inside : stop ≤ pieces.length) (enough : stop ≤ steps) :
    ((backtrack breaks steps stop).reverse.map fun span =>
      (pieces.drop span.1).take (span.2 - span.1)).flatten = pieces.take stop := by
  induction steps generalizing stop with
  | zero => omega
  | succ steps ih =>
      have before := less stop positive inside
      rw [backtrack]
      simp only [List.reverse_cons, List.map_append, List.map_cons, List.map_nil, List.flatten_append,
        List.flatten_cons, List.flatten_nil, List.append_nil]
      have cut : pieces.take breaks[stop]!.start ++
          (pieces.drop breaks[stop]!.start).take (stop - breaks[stop]!.start) = pieces.take stop := by
        rw [← List.take_add, Nat.add_sub_cancel' (Nat.le_of_lt before)]
      split
      next first => simp [first]
      next later => rw [ih (Nat.pos_of_ne_zero later) (by omega) (by omega), cut]

/-- No piece is lost. -/
theorem flatten_rows (width : Nat) (pieces : List Piece) : (rows width pieces).flatten = pieces := by
  by_cases some : pieces = []
  · subst some
    rfl
  · have whole := flatten_backtrack pieces
      (fun stop positive inside => ((cheapest_breaks width pieces).leftmost stop positive inside).lt)
      (List.length_pos_of_ne_nil some) Nat.le.refl Nat.le.refl
    rwa [List.take_length] at whole

/-- The text of a row with all its spaces. -/
def rowText (row : List Piece) : List Char :=
  row.flatMap fun piece => piece.characters ++ List.replicate piece.spaces ' '

/-- The clusters that are drawn of every row. -/
def drawnRows (width : Nat) (line : List Char) : List (List Cluster) :=
  (rows width (pieces width line)).map fun row => drawable (rowText row)

/-- A line is drawn as it is measured if no cluster reaches over the end of a row, and flowing can
follow the rows. -/
structure DrawnAsMeasured (width : Nat) (line : List Char) : Prop where
  whole : drawable line = (drawnRows width line).flatten
  followed : Flow.Rows width (drawnRows width line)

instance (width : Nat) (line : List Char) : Decidable (DrawnAsMeasured width line) :=
  decidable_of_iff
    (drawable line = (drawnRows width line).flatten ∧ Flow.Rows width (drawnRows width line))
    ⟨fun ⟨whole, followed⟩ => ⟨whole, followed⟩, fun same => ⟨same.whole, same.followed⟩⟩

variable {width : Nat}

/-- A line takes no more lines than it is measured with. One that is short in bytes is never cut. -/
theorem length_line_le {line : List Char} (positive : 0 < width)
    (same : width ≤ byteLength line → DrawnAsMeasured width line) :
    (Flow.line width false line).length ≤ (wrapLine width line).length := by
  unfold wrapLine
  split
  next short =>
    have narrow := Nat.lt_of_le_of_lt (totalWidth_drawable_le line) short
    rw [Flow.length_line_of_narrow narrow]
    exact Nat.le.refl
  next long =>
    obtain ⟨whole, followed⟩ := same (Nat.le_of_not_lt long)
    by_cases some : pieces width line = []
    · have nothing : drawable line = [] := by
        rw [whole, drawnRows, some]
        rfl
      rw [Flow.length_line_of_narrow (by rwa [nothing])]
      exact length_fill_pos width _
    · have rowsSome : drawnRows width line ≠ [] := by
        intro none
        rw [drawnRows, List.map_eq_nil_iff] at none
        have all := flatten_rows width (pieces width line)
        rw [none] at all
        exact some all.symm
      have drawn := Flow.length_line_of_rows rowsSome followed positive whole
      rwa [drawnRows, List.length_map, ← List.length_map lineText, ← fill_eq_rows width some] at drawn

end Wrap

/-! ## Text -/

theorem linesFrom_ne_nil (line text : List Char) : Wrap.linesFrom line text ≠ [] := by
  induction text generalizing line with
  | nil => simp [Wrap.linesFrom]
  | cons character rest ih =>
      rw [Wrap.linesFrom]
      split
      · simp
      · exact ih _

variable {width : Nat}

/-- The lines for display are those at line feeds, with an empty last one perhaps left out and carriage
returns that are not drawn. -/
theorem length_flow_displayLines (text : List Char) :
    ((displayLines text).flatMap (Flow.line width false)).length ≤
      ((Wrap.linesFrom [] text).flatMap (Flow.line width false)).length := by
  obtain ⟨front, last, cut⟩ :=
    (List.eq_nil_or_concat' (Wrap.linesFrom [] text)).resolve_left (linesFrom_ne_nil [] text)
  have ended : (front.map dropReturn).flatMap (Flow.line width false) =
      front.flatMap (Flow.line width false) := by
    rw [List.flatMap_map]
    congr 1
    funext line
    rw [Flow.line, Flow.line, drawable_dropReturn]
  rw [displayLines, cut]
  simp only [List.dropLast_concat, List.getLast?_concat, Option.getD_some]
  split
  · rw [List.flatMap_append, List.flatMap_append, ended]
  · rw [List.flatMap_append, ended, List.length_append]
    exact Nat.le_add_right _ _

/-- Text that is drawn as it is measured, as far as its lines are long, takes no more lines than it is
measured with. -/
theorem length_flow_le_wrap {text : List Char} (positive : 0 < width)
    (same : ∀ line ∈ Wrap.linesFrom [] text, width ≤ byteLength line →
      Wrap.DrawnAsMeasured width line) :
    ((displayLines text).flatMap (Flow.line width false)).length ≤ (Wrap.wrap width text).length := by
  refine Nat.le_trans (length_flow_displayLines text) ?_
  rw [Wrap.wrap, Nat.max_eq_left positive, List.length_flatMap, List.length_flatMap]
  exact List.sum_le_sum fun line inside => Wrap.length_line_le positive (same line inside)

end Colloquy.Text
