import Mathlib.Tactic.SplitIfs
import Colloquy.Proofs.Text.Offset
import Colloquy.Text.Flow

/-!
# Columns and bytes

No text is wider than it is long in bytes. So a line that is short in bytes is short on the screen, where
its clusters are drawn without the control characters.
-/

namespace Colloquy.Text

/-! ## Characters -/

theorem utf8Size_eq (character : Char) :
    character.utf8Size = if character.toNat ≤ 0x7f then 1 else if character.toNat ≤ 0x7ff then 2
      else if character.toNat ≤ 0xffff then 3 else 4 := rfl

/-- Wide characters are far beyond those of two bytes. -/
theorem three_le_utf8Size_of_isWide {character : Char} (wide : isWide character = true) :
    3 ≤ character.utf8Size := by
  simp only [isWide, Bool.and_eq_true, decide_eq_true_eq] at wide
  rw [utf8Size_eq]
  split_ifs <;> omega

theorem utf8Size_of_isFlagLetter {character : Char} (letter : isFlagLetter character = true) :
    character.utf8Size = 4 := by
  simp only [isFlagLetter, Bool.and_eq_true, decide_eq_true_eq] at letter
  rw [utf8Size_eq]
  split_ifs <;> omega

theorem charWidth_le_two (character : Char) : charWidth character ≤ 2 := by
  unfold charWidth
  split_ifs <;> omega

theorem charWidth_le_utf8Size (character : Char) : charWidth character ≤ character.utf8Size := by
  by_cases wide : isWide character = true
  · exact Nat.le_trans (charWidth_le_two character)
      (Nat.le_of_succ_le (three_le_utf8Size_of_isWide wide))
  · have narrow : charWidth character ≤ 1 := by
      unfold charWidth
      split_ifs <;> omega
    exact Nat.le_trans narrow character.utf8Size_pos

theorem putLetter_le (start : Start) (columns : Nat) :
    (start.putLetter columns).1 ≤ columns + 4 := by
  cases start <;> simp [Start.putLetter] <;> omega

/-- A character adds no more columns than it has bytes. -/
theorem put_le (start : Start) (character : Char) (columns : Nat) :
    (start.put character columns).1 ≤ columns + character.utf8Size := by
  have positive := character.utf8Size_pos
  have alone := charWidth_le_utf8Size character
  by_cases letter : isFlagLetter character = true
  · have four := utf8Size_of_isFlagLetter letter
    have more := putLetter_le start columns
    unfold Start.put
    split_ifs <;> omega
  · by_cases image : isImage character = true
    · have three := three_le_utf8Size_of_isWide (Bool.and_eq_true_iff.mp image).1
      unfold Start.put
      split_ifs <;> omega
    · unfold Start.put
      split_ifs <;> omega

theorem columns_le_byteLength (text : List Char) : columns text ≤ byteLength text := by
  induction text with
  | nil => exact Nat.le.refl
  | cons character rest ih =>
      have put := put_le (measure rest).2 character (measure rest).1
      rw [byteLength_cons]
      exact Nat.le_trans put (by rw [Nat.add_comm]; exact Nat.add_le_add_left ih _)

/-! ## Clusters -/

theorem flatten_clustersFrom (cluster : OpenCluster) (text : List Char) :
    (clustersFrom cluster text).flatten = cluster.characters.reverse ++ text := by
  induction text generalizing cluster with
  | nil => simp [clustersFrom]
  | cons character rest ih =>
      rw [clustersFrom]
      split
      · simp [ih, OpenCluster.add]
      · simp [ih, OpenCluster.start]

/-- Cutting text into clusters loses nothing. -/
theorem flatten_clusters (text : List Char) : (clusters text).flatten = text := by
  cases text with
  | nil => rfl
  | cons character rest => simp [clusters, flatten_clustersFrom, OpenCluster.start]

theorem totalWidth_filter_le (p : Cluster → Bool) (clusters : List Cluster) :
    totalWidth (clusters.filter p) ≤ byteLength clusters.flatten := by
  induction clusters with
  | nil => exact Nat.le.refl
  | cons cluster rest ih =>
      have own : cluster.width ≤ byteLength cluster := columns_le_byteLength cluster
      rw [List.flatten_cons, byteLength_append, List.filter_cons]
      split
      · exact Nat.add_le_add own ih
      · exact Nat.le_trans ih (Nat.le_add_left _ _)

/-- What is drawn of a text is no wider than the text is long in bytes. -/
theorem totalWidth_drawable_le (text : List Char) :
    totalWidth (drawable text) ≤ byteLength text := by
  have width := totalWidth_filter_le Cluster.isDrawable (clusters text)
  rwa [flatten_clusters] at width

/-! ## Carriage returns -/

/-- A character that stands by itself is a cluster of its own behind every text. -/
theorem clustersFrom_concat {character : Char} (alone : isolates character = true)
    (noFeed : character ≠ '\n') (cluster : OpenCluster) (text : List Char) :
    clustersFrom cluster (text ++ [character]) = clustersFrom cluster text ++ [[character]] := by
  induction text generalizing cluster with
  | nil =>
      have apart : cluster.takes character = false := by simp [OpenCluster.takes, alone, noFeed]
      simp [clustersFrom, apart, OpenCluster.start]
  | cons next rest ih =>
      rw [List.cons_append, clustersFrom, clustersFrom]
      split
      · rw [ih]
      · rw [ih, List.cons_append]

/-- A carriage return is not drawn. -/
theorem drawable_dropReturn (line : List Char) : drawable (dropReturn line) = drawable line := by
  rw [dropReturn]
  split
  next returned =>
    obtain ⟨front, rfl⟩ := List.getLast?_eq_some_iff.mp returned
    have alone : isolates '\r' = true := by decide
    have hidden : Cluster.isDrawable ['\r'] = false := by decide
    rw [List.dropLast_concat]
    cases front with
    | nil => simp [drawable, clusters, clustersFrom, OpenCluster.start, hidden]
    | cons character rest =>
        simp [drawable, clusters, clustersFrom_concat alone, hidden]
  next => rfl

end Colloquy.Text
