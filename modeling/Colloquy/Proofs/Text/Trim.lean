import Mathlib.Data.List.DropRight
import Colloquy.Text.Blank

/-!
# Text without the blanks around it

What is left of a text when the blanks at both ends are cut off: nothing of a blank text, and of any
other one what stands from its first to its last character that is not blank.
-/

namespace Colloquy.Text

/-- Some character is not blank. -/
def IsWritten (text : String) : Prop :=
  ∃ character ∈ text.toList, isBlank character = false

theorem allBlank_eq_false_iff {text : String} : allBlank text = false ↔ IsWritten text :=
  List.all_eq_false.trans (by simp [IsWritten])

/-- A text is a core with blanks around it. The core is empty, or neither its first nor its last
character is blank. -/
structure Strips (text core : String) : Prop where
  around : ∃ front back, text.toList = front ++ core.toList ++ back ∧
    ∀ character ∈ front ++ back, isBlank character = true
  first : ∀ character ∈ core.toList.head?, isBlank character = false
  last : ∀ character ∈ core.toList.getLast?, isBlank character = false

/-! ## The core is what is left -/

theorem isBlank_of_mem_head?_dropWhile {characters : List Char} {character : Char}
    (first : character ∈ (characters.dropWhile isBlank).head?) : isBlank character = false := by
  have visible := List.head?_dropWhile_not isBlank characters
  rw [Option.mem_def.mp first] at visible
  simpa using visible

theorem strips_trim (text : String) : Strips text (trim text) := by
  have core : (trim text).toList = (text.toList.dropWhile isBlank).rdropWhile isBlank :=
    String.toList_ofList
  refine ⟨⟨text.toList.takeWhile isBlank, (text.toList.dropWhile isBlank).rtakeWhile isBlank,
    ?_, ?_⟩, ?_, ?_⟩
  · rw [core, List.append_assoc, List.rdropWhile_append_rtakeWhile, List.takeWhile_append_dropWhile]
  · rw [List.forall_mem_append]
    exact ⟨fun _ => List.mem_takeWhile_imp, fun _ => List.mem_rtakeWhile_imp⟩
  · intro character first
    obtain ⟨back, whole⟩ := List.rdropWhile_prefix isBlank (text.toList.dropWhile isBlank)
    rw [core, Option.mem_def] at first
    have kept : character ∈ (text.toList.dropWhile isBlank).head? := by
      rw [← whole, List.head?_append, first]
      rfl
    exact isBlank_of_mem_head?_dropWhile kept
  · intro character last
    rw [core, List.rdropWhile, List.getLast?_reverse] at last
    exact isBlank_of_mem_head?_dropWhile last

theorem dropBlankEnd_append {core back : List Char}
    (blank : ∀ character ∈ back, isBlank character = true)
    (last : ∀ character ∈ core.getLast?, isBlank character = false) :
    dropBlankEnd (core ++ back) = core := by
  have blanks : ∀ character ∈ back.reverse, isBlank character = true := by simpa using blank
  rw [dropBlankEnd, List.reverse_append, List.dropWhile_append_of_pos blanks,
    ← List.rdropWhile_reverse, List.reverse_reverse, List.rdropWhile_eq_self_iff]
  intro present
  simp [last _ (List.getLast_mem_getLast? present)]

theorem Strips.trim_eq {text core : String} (strips : Strips text core) : trim text = core := by
  obtain ⟨⟨front, back, split, blank⟩, first, last⟩ := strips
  obtain ⟨blankFront, blankBack⟩ := List.forall_mem_append.mp blank
  have left : dropBlankEnd ((core.toList ++ back).dropWhile isBlank) = core.toList := by
    cases characters : core.toList with
    | nil =>
        rw [List.nil_append, List.dropWhile_eq_nil_iff.mpr blankBack]
        rfl
    | cons character rest =>
        rw [characters] at first last
        rw [List.cons_append, List.dropWhile_cons_of_neg (by simp [first character rfl])]
        exact dropBlankEnd_append blankBack last
  rw [trim, split, trimBlank, List.append_assoc, List.dropWhile_append_of_pos blankFront, left,
    String.ofList_toList]

/-- A text has exactly one core. -/
theorem trim_eq_iff {text core : String} : trim text = core ↔ Strips text core := by
  constructor
  · rintro rfl
    exact strips_trim text
  · exact Strips.trim_eq

/-- The blanks around a text do not make it blank. -/
theorem Strips.isWritten_iff {text core : String} (strips : Strips text core) :
    IsWritten core ↔ IsWritten text := by
  obtain ⟨⟨front, back, split, blank⟩, -, -⟩ := strips
  constructor
  · rintro ⟨character, among, visible⟩
    exact ⟨character, by simp [split, among], visible⟩
  · rintro ⟨character, among, visible⟩
    refine ⟨character, ?_, visible⟩
    rw [split, List.append_assoc, List.mem_append, List.mem_append] at among
    rcases among with outside | inside | outside
    · simp [blank character (List.mem_append_left _ outside)] at visible
    · exact inside
    · simp [blank character (List.mem_append_right _ outside)] at visible

/-- Cutting the blank ends off leaves nothing exactly if there are only blank characters. -/
theorem trim_eq_empty_iff {text : String} : trim text = "" ↔ allBlank text = true := by
  rw [← Bool.not_eq_false, allBlank_eq_false_iff, ← (strips_trim text).isWritten_iff]
  constructor
  · intro nothing
    simp [nothing, IsWritten]
  · intro blank
    by_contra something
    obtain ⟨first, rest, characters⟩ : ∃ first rest, (trim text).toList = first :: rest :=
      List.exists_cons_of_ne_nil (by simpa using something)
    refine blank ⟨first, by simp [characters], (strips_trim text).first first ?_⟩
    simp [characters]

end Colloquy.Text
