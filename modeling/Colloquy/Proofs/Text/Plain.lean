import Colloquy.Text.Cluster

/-!
# Plain text

A plain character is one column wide, and neither goes on with what stands before it nor is changed
by what follows. Plain text thus has a cluster and a column for every character.
-/

namespace Colloquy.Text

/-- A character takes one column by itself, whatever stands next to it. -/
structure Plain (character : Char) : Prop where
  width : charWidth character = 1
  control : isControl character = false
  continuation : isContinuation character = false
  flagLetter : isFlagLetter character = false
  pictograph : isPictograph character = false
  syllable : syllablePart? character = none

instance (character : Char) : Decidable (Plain character) :=
  decidable_of_iff
    (charWidth character = 1 ∧ isControl character = false ∧ isContinuation character = false ∧
      isFlagLetter character = false ∧ isPictograph character = false ∧
      syllablePart? character = none)
    ⟨fun ⟨width, control, continuation, flagLetter, pictograph, syllable⟩ =>
      ⟨width, control, continuation, flagLetter, pictograph, syllable⟩,
    fun plain => ⟨plain.width, plain.control, plain.continuation, plain.flagLetter,
      plain.pictograph, plain.syllable⟩⟩

/-- A character is a cluster by itself, whatever stands next to it. -/
structure Lone (character : Char) : Prop where
  control : isControl character = false
  continuation : isContinuation character = false
  flagLetter : isFlagLetter character = false
  pictograph : isPictograph character = false
  syllable : syllablePart? character = none

theorem Plain.lone {character : Char} (plain : Plain character) : Lone character :=
  ⟨plain.control, plain.continuation, plain.flagLetter, plain.pictograph, plain.syllable⟩

namespace Lone

variable {character : Char}

theorem ne_lineFeed (lone : Lone character) : character ≠ '\n' := by
  rintro rfl
  exact absurd lone.control (by decide)

theorem ne_joiner (lone : Lone character) : character ≠ joiner := by
  rintro rfl
  exact absurd lone.continuation (by simp [isContinuation])

/-- It starts a cluster after whatever comes before it. -/
theorem not_takes (lone : Lone character) (cluster : OpenCluster) :
    cluster.takes character = false := by
  have alone : ¬character = '\n' := lone.ne_lineFeed
  unfold OpenCluster.takes
  simp [alone, lone.continuation, lone.pictograph, lone.flagLetter, lone.syllable]

theorem put (lone : Lone character) (start : Start) (columns : Nat) :
    start.put character columns = (columns + charWidth character, .plain) := by
  have image : isImage character = false := by simp [isImage, lone.pictograph]
  rw [Start.put, if_neg lone.ne_lineFeed, lone.control, if_neg (by decide),
    if_neg lone.ne_joiner, lone.flagLetter, if_neg (by decide), image, if_neg (by decide)]

theorem width_cluster (lone : Lone character) : Cluster.width [character] = charWidth character := by
  have columns := congrArg Prod.fst (lone.put .plain 0)
  rwa [Nat.zero_add] at columns

end Lone

theorem clustersFrom_of_lone {text : List Char} (lone : ∀ character ∈ text, Lone character)
    (cluster : OpenCluster) :
    clustersFrom cluster text = cluster.characters.reverse :: text.map fun character => [character] := by
  induction text generalizing cluster with
  | nil => rfl
  | cons character rest ih =>
      obtain ⟨first, others⟩ := List.forall_mem_cons.mp lone
      rw [clustersFrom, first.not_takes, if_neg (by decide), ih others]
      rfl

theorem clusters_of_lone {text : List Char} (lone : ∀ character ∈ text, Lone character) :
    clusters text = text.map fun character => [character] := by
  cases text with
  | nil => rfl
  | cons character rest =>
      rw [clusters, clustersFrom_of_lone (List.forall_mem_cons.mp lone).2]
      rfl

/-- Plain text has a cluster for every character. -/
theorem clusters_of_plain {text : List Char} (plain : ∀ character ∈ text, Plain character) :
    clusters text = text.map fun character => [character] :=
  clusters_of_lone fun character inside => (plain character inside).lone

/-- Plain text has a column for every character. -/
theorem columns_of_plain {text : List Char} (plain : ∀ character ∈ text, Plain character) :
    columns text = text.length := by
  have measured : ∀ part : List Char, (∀ character ∈ part, Plain character) →
      measure part = (part.length, .plain) := by
    intro part
    induction part with
    | nil => exact fun _ => rfl
    | cons character rest ih =>
        intro plain
        obtain ⟨first, others⟩ := List.forall_mem_cons.mp plain
        rw [measure, ih others, List.length_cons]
        simp only [first.lone.put, first.width]
  rw [columns, measured text plain]

theorem Plain.cluster {character : Char} (plain : Plain character) :
    Cluster.width [character] = 1 ∧ Cluster.isDrawable [character] = true := by
  refine ⟨columns_of_plain (by simpa using plain), ?_⟩
  simp [Cluster.isDrawable, plain.control]

end Colloquy.Text
