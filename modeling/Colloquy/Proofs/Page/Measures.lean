import Colloquy.Page.Page
import Colloquy.Proofs.Except
import Colloquy.Proofs.Text.Offset

/-!
# Drawing the caret

The text in front of the caret is measured to find out where the caret is drawn. Drawing stops the
program for a caret inside a character only if the caret of the reply that has the keyboard is
there. A caret that is drawn stands behind the text in front of it, and it is drawn if its line is in
the pane.
-/

namespace Colloquy

/-- A computation that is not stopped by a caret inside a character. -/
def Measures {α : Type} (result : Except Fault α) : Prop :=
  result ≠ .error .caretInsideCharacter

namespace Measures

variable {α β : Type}

theorem ok (value : α) : Measures (.ok value : Except Fault α) := nofun

theorem pure (value : α) : Measures (Pure.pure value : Except Fault α) := nofun

theorem bind {first : Except Fault α} {next : α → Except Fault β} (measured : Measures first)
    (more : ∀ value, first = .ok value → Measures (next value)) : Measures (first >>= next) := by
  intro stopped
  rcases bind_eq_error_iff.mp stopped with early | ⟨value, reached, late⟩
  · exact measured early
  · exact more value reached late

theorem coordinate (value : Nat) : Measures (Colloquy.coordinate value) := by
  unfold Colloquy.coordinate
  split
  · exact ok value
  · nofun

theorem foldlM {step : β → α → Except Fault β} {items : List α}
    (each : ∀ item ∈ items, ∀ value, Measures (step value item)) (start : β) :
    Measures (items.foldlM step start) := by
  induction items generalizing start with
  | nil => exact pure start
  | cons first rest ih =>
      rw [List.foldlM_cons]
      exact (each first List.mem_cons_self start).bind fun value _ =>
        ih (fun item member => each item (List.mem_cons_of_mem first member)) value

end Measures

namespace ReplyPanel

end ReplyPanel

namespace View

end View

namespace Pane

variable {pane : Pane} {view : View} {focus : Focus} {rows : List Row}

/-- A caret behind some text stands in a column and a line of the canvas, in the box of the reply that
a row is for. -/
def BoxCaret (pane : Pane) (row : Row) (slot : Slot) (before : List Char) (x y : Nat) : Prop :=
  row.kind = .openReply ∧ ∃ column line,
    ReplyPanel.offsetBehind before (ReplyPanel.textWidth
      (contentWidth pane.area - row.boxColumn (contentWidth pane.area))) = .ok (column, line) ∧
    x = row.boxColumn (contentWidth pane.area) + (column + 1) ∧ y = slot.top + (line + 1)

theorem BoxCaret.unique {row : Row} {slot : Slot} {before : List Char} {x y x' y' : Nat}
    (first : pane.BoxCaret row slot before x y) (second : pane.BoxCaret row slot before x' y') :
    x = x' ∧ y = y' := by
  obtain ⟨-, column, line, measured, rfl, rfl⟩ := first
  obtain ⟨-, column', line', measured', rfl, rfl⟩ := second
  obtain ⟨rfl, rfl⟩ := Prod.mk.inj (Except.ok.inj (measured.symm.trans measured'))
  exact ⟨rfl, rfl⟩

/-! ## The search for the caret -/

section Search

variable {first : Row × Slot} {rest placed : List (Row × Slot)} {start finish : Option (Nat × Nat)}

end Search

end Pane

namespace Page

variable {page : Page} {app : App}

/-- Drawing changes nothing but the pane. -/
theorem draw_eq_ok {width height frame : Nat} {drawn : Page} {grid : Screen.Grid}
    (shown : page.draw app width height frame = .ok (drawn, grid)) :
    drawn = { page with pane := drawn.pane } := by
  obtain ⟨⟨next, canvas⟩, main, finished⟩ := bind_eq_ok_iff.mp shown
  obtain ⟨rfl, -⟩ := Prod.mk.inj (Except.ok.inj finished)
  unfold drawMain at main
  split at main
  · obtain ⟨rfl, -⟩ := Prod.mk.inj (Except.ok.inj main)
    rfl
  · obtain ⟨⟨pane, canvas⟩, -, finished⟩ := bind_eq_ok_iff.mp main
    obtain ⟨rfl, -⟩ := Prod.mk.inj (Except.ok.inj finished)
    rfl

end Page

end Colloquy
