import Colloquy.Proofs.View.Rows

/-!
# Guides

The thread lines beside a row are found by reading upwards from the row. The first full row at a
depth that is met is the one of the comment at that depth in the row's lineage: whatever stands
between them lies deeper, is folded, or is a reply under way.
-/

namespace Colloquy

/-- The nearest of some rows, read upwards, that is shown in full at a depth. -/
def guide? (upwards : List Row) (level : Nat) : Option Row :=
  upwards.find? fun row => row.kind == .full && row.depth == level

/-- Rows that are read upwards lead to the comments of a lineage, each of them at its depth. -/
def Leads (upwards : List Row) (above : List Comment) : Prop :=
  ∀ nearer upper farther, above = nearer ++ upper :: farther →
    (guide? upwards farther.length).map Row.comment = some upper

namespace Leads

variable {upwards : List Row} {above : List Comment}

theorem nil (upwards : List Row) : Leads upwards [] := by
  intro nearer upper farther split
  simp at split

/-- A row that lies too deep, or is no full row, is passed. -/
theorem pass (leads : Leads upwards above) {row : Row}
    (apart : row.kind ≠ .full ∨ above.length ≤ row.depth) : Leads (row :: upwards) above := by
  intro nearer upper farther split
  have shorter : farther.length < above.length := by
    rw [split, List.length_append, List.length_cons]
    omega
  have passed : (row.kind == .full && row.depth == farther.length) = false := by
    rcases apart with other | deep
    · simp [other]
    · have below : row.depth ≠ farther.length := by omega
      simp [below]
  rw [guide?, List.find?_cons, passed]
  exact leads nearer upper farther split

/-- Rows that all lie too deep are passed. -/
theorem passAll (leads : Leads upwards above) {rows : List Row}
    (deep : ∀ row ∈ rows, above.length ≤ row.depth) : Leads (rows.reverse ++ upwards) above := by
  induction rows generalizing upwards with
  | nil => exact leads
  | cons row rest ih =>
      obtain ⟨first, others⟩ := List.forall_mem_cons.mp deep
      rw [List.reverse_cons, List.append_assoc]
      exact ih (leads.pass (.inr first)) others

/-- Below a full row its comment belongs to the lineage. -/
theorem enter (leads : Leads upwards above) {row : Row} (full : row.kind = .full)
    (level : row.depth = above.length) : Leads (row :: upwards) (row.comment :: above) := by
  intro nearer upper farther split
  cases nearer with
  | nil =>
      obtain ⟨rfl, rfl⟩ := List.cons.inj split
      simp [guide?, full, level]
  | cons nearest others =>
      obtain ⟨rfl, below⟩ := List.cons.inj split
      exact leads.pass (.inr (Nat.le_of_eq level.symm)) others upper farther below

/-- Rows that lead to a lineage have a guide at every depth in it. -/
theorem exists_guide (leads : Leads upwards above) {level : Nat} (inside : level < above.length) :
    ∃ row nearer farther, guide? upwards level = some row ∧
      above = nearer ++ row.comment :: farther ∧ farther.length = level := by
  let place := above.length - 1 - level
  have split : above = above.take place ++ above[place] :: above.drop (place + 1) := by simp
  have rest : (above.drop (place + 1)).length = level := by
    rw [List.length_drop]
    omega
  obtain ⟨row, found, comment⟩ := Option.map_eq_some_iff.mp (leads _ _ _ split)
  exact ⟨row, _, _, rest ▸ found, comment ▸ split, rest⟩

end Leads

/-- Every one of some rows belongs to a lineage, and leads upwards along it: over the rows in front
of it to those that are given. -/
def Guided (discussion : Discussion) : List Row → List Row → Prop
  | _, [] => True
  | upwards, row :: rest =>
      (∃ lineage ∈ discussion.lineages, lineage.comment = row.comment ∧
        lineage.above.length = row.depth ∧ Leads (row :: upwards) lineage.above) ∧
      Guided discussion (row :: upwards) rest

section

variable {discussion : Discussion}

theorem Guided.append {upwards front back : List Row} (first : Guided discussion upwards front)
    (second : Guided discussion (front.reverse ++ upwards) back) :
    Guided discussion upwards (front ++ back) := by
  induction front generalizing upwards with
  | nil => exact second
  | cons row rest ih =>
      refine ⟨first.1, ih first.2 ?_⟩
      simpa using second

theorem Guided.of_append {upwards front back : List Row}
    (guided : Guided discussion upwards (front ++ back)) :
    Guided discussion (front.reverse ++ upwards) back := by
  induction front generalizing upwards with
  | nil => exact guided
  | cons row rest ih => simpa using ih guided.2

end

namespace View

variable {discussion : Discussion} (view : View)

theorem depth_of_mem_ownRows {depth : Nat} {comment : Comment} {row : Row}
    (member : row ∈ view.ownRows depth comment) : row.depth = depth := by
  unfold ownRows at member
  grind

mutual

/-- No row of a thread lies higher than the thread. -/
theorem depth_le_of_mem_threadRows (depth : Nat) : (thread : Thread) → {row : Row} →
    row ∈ view.threadRows depth thread → depth ≤ row.depth
  | ⟨comment, replies⟩, row, member => by
      rcases List.mem_append.mp member with own | deeper
      · exact Nat.le_of_eq (view.depth_of_mem_ownRows own).symm
      · cases folded : view.isFolded comment.id with
        | true => simp [folded] at deeper
        | false =>
            simp only [folded, Bool.false_eq_true, if_false] at deeper
            have below := depth_le_of_mem_threadsRows (depth + 1) replies deeper
            omega

theorem depth_le_of_mem_threadsRows (depth : Nat) : (threads : List Thread) → {row : Row} →
    row ∈ view.threadsRows depth threads → depth ≤ row.depth
  | [], row, member => by simp [threadsRows] at member
  | thread :: rest, row, member => by
      rcases List.mem_append.mp member with inThread | inRest
      · exact depth_le_of_mem_threadRows depth thread inThread
      · exact depth_le_of_mem_threadsRows depth rest inRest

end

mutual

/-- The rows of a thread lead upwards if the rows above the thread do. -/
theorem guided_threadRows (above : List Comment) (upwards : List Row)
    (leads : Leads upwards above) : (thread : Thread) →
      (∀ lineage ∈ thread.lineages above, lineage ∈ discussion.lineages) →
        Guided discussion upwards (view.threadRows above.length thread)
  | ⟨comment, replies⟩, inside => by
      have listed : ⟨above, comment⟩ ∈ discussion.lineages := inside _ List.mem_cons_self
      have inner : ∀ lineage ∈ Thread.lineagesAll (comment :: above) replies,
          lineage ∈ discussion.lineages := fun lineage deeper =>
        inside lineage (List.mem_cons_of_mem _ deeper)
      cases folded : view.isFolded comment.id with
      | true =>
          simp only [threadRows, ownRows, folded, if_true, List.append_nil]
          exact ⟨⟨⟨above, comment⟩, listed, rfl, rfl, leads.pass (.inl nofun)⟩, trivial⟩
      | false =>
          let full : Row := ⟨comment, above.length, .full, view.scoreOf comment⟩
          have entered : Leads (full :: upwards) (comment :: above) := leads.enter rfl rfl
          have first : ∃ lineage ∈ discussion.lineages, lineage.comment = full.comment ∧
              lineage.above.length = full.depth ∧ Leads (full :: upwards) lineage.above :=
            ⟨⟨above, comment⟩, listed, rfl, rfl, leads.pass (.inr Nat.le.refl)⟩
          simp only [threadRows, ownRows, folded, Bool.false_eq_true, if_false]
          split
          · let reply : Row := ⟨comment, above.length, .openReply, view.scoreOf comment⟩
            refine ⟨first, ⟨⟨above, comment⟩, listed, rfl, rfl,
              (leads.pass (.inr Nat.le.refl)).pass (.inl nofun)⟩, ?_⟩
            exact guided_threadsRows (comment :: above) (reply :: full :: upwards)
              (entered.pass (.inl nofun)) replies inner
          · exact ⟨first, guided_threadsRows (comment :: above) (full :: upwards) entered replies
              inner⟩

theorem guided_threadsRows (above : List Comment) (upwards : List Row)
    (leads : Leads upwards above) : (threads : List Thread) →
      (∀ lineage ∈ Thread.lineagesAll above threads, lineage ∈ discussion.lineages) →
        Guided discussion upwards (view.threadsRows above.length threads)
  | [], inside => trivial
  | thread :: rest, inside => by
      have first := guided_threadRows above upwards leads thread fun lineage member =>
        inside lineage (List.mem_append_left _ member)
      have passed := leads.passAll fun row member =>
        view.depth_le_of_mem_threadRows above.length thread member
      exact first.append (guided_threadsRows above _ passed rest fun lineage member =>
        inside lineage (List.mem_append_right _ member))

end

/-- Every row of a discussion belongs to a lineage, and leads upwards along it. -/
theorem exists_lineage_of_split {front back : List Row} {row : Row}
    (split : view.rows discussion = front ++ row :: back) :
    ∃ lineage ∈ discussion.lineages, lineage.comment = row.comment ∧
      lineage.above.length = row.depth ∧ Leads (row :: front.reverse) lineage.above := by
  have guided : Guided discussion [] (view.rows discussion) :=
    view.guided_threadsRows [] [] (.nil []) discussion.threads fun lineage member => member
  rw [split] at guided
  simpa using guided.of_append.1

end View

end Colloquy
