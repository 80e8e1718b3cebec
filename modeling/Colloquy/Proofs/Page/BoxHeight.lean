import Colloquy.Proofs.Page.CaretBox
import Colloquy.Proofs.Screen.Fields
import Colloquy.Proofs.Text.Words

/-!
# Boxes high enough

The box of a reply is measured by wrapping its text and drawn by letting the text flow. The text fits if
flowing can follow the wrapped rows; a word cut at a hyphen, a run of spaces and a row that is too wide
are what it cannot follow, and then the end of the text is not drawn.
-/

namespace Colloquy.ReplyPanel

variable {content : String} {width : Nat}

/-- The text in a box. -/
def shownText (content : String) : String :=
  if content.isEmpty then placeholder else content

/-- The lines of that text between the borders of the box. -/
def drawnLines (content : String) (width : Nat) : List (List Text.Cluster) :=
  Screen.Grid.paragraphLines (shownText content) (.flow false) (textWidth width)

theorem inside_visible {grid : Screen.Grid} {area : Screen.Area}
    (visible : area.intersect grid.area = area) (wide : 3 ≤ area.width) (high : 3 ≤ area.height) :
    area.inside.intersect grid.area = area.inside ∧ area.inside.isEmpty = false := by
  have columns := congrArg Screen.Area.width visible
  have rows := congrArg Screen.Area.height visible
  simp only [Screen.Area.intersect, Screen.Area.right, Screen.Area.bottom, Screen.Grid.area]
    at columns rows
  constructor
  · simp only [Screen.Area.intersect, Screen.Area.inside, Screen.Area.right, Screen.Area.bottom,
      Screen.Grid.area, Screen.Area.mk.injEq]
    omega
  · simp only [Screen.Area.isEmpty, Screen.Area.inside, Bool.or_eq_false_iff, beq_eq_false_iff_ne]
    omega

/-- A box on the screen draws these lines from its first inner row on, as far as it is high. -/
theorem draw_eq (grid : Screen.Grid) {area : Screen.Area} (openReply : OpenReply)
    (replyingTo : String) (focused : Bool) (visible : area.intersect grid.area = area)
    (wide : 3 ≤ area.width) (high : 3 ≤ area.height) :
    ∃ style bordered, draw grid area openReply replyingTo focused =
      Screen.Grid.drawLines area.inside style .left 0 (drawnLines openReply.content area.width)
        bordered := by
  have drawn (style : Screen.Style) : ∃ bordered,
      grid.drawTextPanel area (panel openReply replyingTo focused) (shownText openReply.content)
          style .left (.flow false) =
        Screen.Grid.drawLines area.inside style .left 0 (drawnLines openReply.content area.width)
          bordered := by
    let framed := (grid.restyle area style).drawPanel area (panel openReply replyingTo focused)
    have kept := (grid.changes_restyle area style).trans
      (Screen.Grid.changes_drawPanel _ area (panel openReply replyingTo focused))
    have same : framed.area = grid.area := by
      rw [Screen.Grid.area, Screen.Grid.area, kept.width, kept.height]
    obtain ⟨inner, some⟩ := inside_visible visible wide high
    refine ⟨framed.restyle area.inside style, ?_⟩
    rw [Screen.Grid.drawTextPanel, visible]
    change framed.drawParagraph area.inside _ _ _ _ = _
    simp only [Screen.Grid.drawParagraph, same, inner, some]
    rfl
  unfold draw
  by_cases empty : openReply.content.isEmpty = true
  · simp only [shownText, if_pos empty] at drawn ⊢
    exact ⟨_, drawn _⟩
  · simp only [shownText, if_neg empty] at drawn ⊢
    exact ⟨_, drawn _⟩

/-- In a box that is wide enough, the placeholder is one line. -/
theorem length_drawnLines_empty (room : Text.width placeholder ≤ textWidth width) :
    (drawnLines "" width).length ≤ 1 := by
  have columns : Text.width placeholder = 23 := by decide
  have positive : 0 < textWidth width := by omega
  have alone : Text.displayLines placeholder.toList = [placeholder.toList] := by decide
  have shown : drawnLines "" width = Text.Flow.line (textWidth width) false placeholder.toList := by
    rw [drawnLines, shownText, if_pos (by decide), Screen.Grid.paragraphLines,
      if_neg (Nat.ne_of_gt positive), alone]
    simp
  have row : Text.Flow.Rows (textWidth width) [Text.drawable placeholder.toList] := by
    refine ⟨by decide, ?_, .singleton _⟩
    rw [List.forall_mem_singleton]
    exact Nat.le_trans (by decide) room
  rw [shown]
  exact Text.Flow.length_line_of_rows (List.cons_ne_nil _ _) row positive (by simp)

/-- The text in a box takes no more lines than it is wrapped into. -/
theorem length_drawnLines_le_wrap (wide : 3 ≤ width)
    (room : content = "" → Text.width placeholder ≤ textWidth width)
    (same : ∀ line ∈ Text.Wrap.linesFrom [] content.toList,
      textWidth width ≤ Text.byteLength line → Text.Wrap.DrawnAsMeasured (textWidth width) line) :
    (drawnLines content width).length ≤
      (Text.Wrap.wrap (textWidth width) content.toList).length := by
  have positive : 0 < textWidth width := Nat.sub_pos_of_lt wide
  by_cases empty : content = ""
  · subst empty
    exact Nat.le_trans (length_drawnLines_empty (room rfl)) (Text.Wrap.length_wrap_pos _ _)
  · rw [drawnLines, shownText, if_neg (by simpa using empty), Screen.Grid.paragraphLines,
      if_neg (Nat.ne_of_gt positive)]
    exact Text.length_flow_le_wrap positive same

/-- The box has a line for every line of a reply in ordinary words, with single spaces and without a
hyphen between letters, if it is 4 to 40 columns wide. In a wider one a row may be left too wide. -/
theorem length_drawnLines_le_of_words (some : content ≠ "") (wide : 4 ≤ width) (narrow : width ≤ 40)
    (fits : (Text.Wrap.wrap (textWidth width) content.toList).length < coordinateCount)
    (ordinary : ∀ line ∈ Text.Wrap.linesFrom [] content.toList, Text.Words line) :
    ∃ count, textHeight content.toList (textWidth width) = .ok count ∧
      (drawnLines content width).length ≤ count := by
  have positive : 0 < textWidth width := Nat.sub_pos_of_lt (Nat.lt_of_succ_lt wide)
  refine ⟨_, textHeight_eq_length positive fits, ?_⟩
  refine length_drawnLines_le_wrap (Nat.le_of_succ_le wide) (absurd · some) fun line inside _ => ?_
  exact .of_words (ordinary line inside) (Nat.le_sub_of_add_le wide) (Nat.sub_le_of_le_add narrow)

end Colloquy.ReplyPanel
