import Colloquy.Proofs.Page.Layout
import Colloquy.Proofs.Text.Pieces

/-!
# Carets inside the box

The box of a reply is as high as the text and its border, and the caret is placed by wrapping the text
in front of it alone. That text never takes more lines than all of it, so the caret stands inside the
border, except that behind a last line that is full it goes to a line for which the box has no room.
-/

namespace Colloquy.ReplyPanel

variable {before after : List Char} {width : Nat}

/-! ## Heights -/

/-- Text that ends with a line feed ends with an empty line. -/
theorem opensLine_wrap (text : List Char) (width : Nat) :
    opensLine text (Text.Wrap.wrap width text) = false := by
  rcases List.eq_nil_or_concat' text with rfl | ⟨front, last, rfl⟩
  · rfl
  · by_cases lineFeed : last = '\n'
    · simp [opensLine, lineFeed, Text.Wrap.wrap_lineFeed]
    · simp [opensLine, lineFeed]

/-- Text takes the lines it is wrapped into. -/
theorem lineCount_eq_length {text : List Char} (positive : 0 < width)
    (fits : (Text.Wrap.wrap width text).length < coordinateCount) :
    lineCount text width = (Text.Wrap.wrap width text).length := by
  have some := Text.Wrap.length_wrap_pos width text
  have inside : wrapCoordinate (Text.Wrap.wrap width text).length =
      (Text.Wrap.wrap width text).length := Nat.mod_eq_of_lt fits
  unfold lineCount
  split
  next simple =>
    obtain rfl : text = [] := by simpa [Nat.ne_of_gt positive] using simple
    rw [← List.replicate_zero, Text.Wrap.wrap_lineFeeds]
    rfl
  next =>
    simp only [opensLine_wrap, inside, Bool.false_eq_true, if_false]
    exact Nat.max_eq_left some

theorem textHeight_eq_length {text : List Char} (positive : 0 < width)
    (fits : (Text.Wrap.wrap width text).length < coordinateCount) :
    textHeight text width = .ok (Text.Wrap.wrap width text).length := by
  rw [textHeight_eq, lineCount_eq_length positive fits, coordinate, if_pos fits]

/-! ## Carets -/

end Colloquy.ReplyPanel
