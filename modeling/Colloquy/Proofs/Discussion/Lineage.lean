import Colloquy.Proofs.Discussion.Ancestry

/-!
# Lineages

The lineage of a comment is the comment together with all comments above it, the one that it answers
first. The lineages of a discussion are listed in pre-order by plain recursion on the threads. Number
of ancestors and comment answered can be read off a lineage, and where no id repeats its ancestors
are the comments that stand above it.
-/

namespace Colloquy

/-- A comment, and the comments above it with the nearest one first. -/
structure Lineage where
  above : List Comment
  comment : Comment
  deriving DecidableEq, Repr

/-- The place of the comment in the outline. -/
def Lineage.placed (lineage : Lineage) : Placed :=
  ⟨lineage.above.length, lineage.above.head?.map Comment.id, lineage.comment⟩

/-- The comment as the walk tells of it. -/
def Lineage.walked (lineage : Lineage) : Nat × Comment :=
  (lineage.above.length, lineage.comment)

namespace Thread

mutual

/-- The lineages of a thread in pre-order, given the comments above the thread. -/
def lineages (above : List Comment) : Thread → List Lineage
  | ⟨comment, replies⟩ => ⟨above, comment⟩ :: lineagesAll (comment :: above) replies

/-- The lineages of several threads in pre-order. -/
def lineagesAll (above : List Comment) : List Thread → List Lineage
  | [] => []
  | thread :: rest => thread.lineages above ++ lineagesAll above rest

end

mutual

/-- Lineages and outline list the same comments in the same order. -/
theorem map_placed_lineages (above : List Comment) : (thread : Thread) →
    (thread.lineages above).map Lineage.placed =
      thread.outline above.length (above.head?.map Comment.id)
  | ⟨comment, replies⟩ => by
      simp only [lineages, outline, List.map_cons]
      rw [map_placed_lineagesAll (comment :: above) replies]
      rfl

theorem map_placed_lineagesAll (above : List Comment) : (threads : List Thread) →
    (lineagesAll above threads).map Lineage.placed =
      outlineAll above.length (above.head?.map Comment.id) threads
  | [] => rfl
  | thread :: rest => by
      simp only [lineagesAll, outlineAll, List.map_append]
      rw [map_placed_lineages above thread, map_placed_lineagesAll above rest]

end

mutual

/-- What is above a thread is above each of its comments. -/
theorem above_suffix_of_mem (above : List Comment) : (thread : Thread) → {lineage : Lineage} →
    lineage ∈ thread.lineages above → above <:+ lineage.above
  | ⟨comment, replies⟩, lineage, member => by
      rcases List.mem_cons.mp member with rfl | deeper
      · exact List.suffix_rfl
      · exact (List.suffix_cons comment above).trans
          (above_suffix_of_mem_all (comment :: above) replies deeper)

theorem above_suffix_of_mem_all (above : List Comment) : (threads : List Thread) →
    {lineage : Lineage} → lineage ∈ lineagesAll above threads → above <:+ lineage.above
  | [], lineage, member => by simp [lineagesAll] at member
  | thread :: rest, lineage, member => by
      rcases List.mem_append.mp member with inThread | inRest
      · exact above_suffix_of_mem above thread inThread
      · exact above_suffix_of_mem_all above rest inRest

end

mutual

/-- The nearest comment above another has a lineage of its own, unless it is above the whole
thread. -/
theorem upper_lineage_of_mem (above : List Comment) : (thread : Thread) → {lineage : Lineage} →
    lineage ∈ thread.lineages above → {upper : Comment} → {farther : List Comment} →
      lineage.above = upper :: farther →
        upper :: farther = above ∨ ⟨farther, upper⟩ ∈ thread.lineages above
  | ⟨comment, replies⟩, lineage, member, upper, farther, split => by
      rcases List.mem_cons.mp member with rfl | deeper
      · exact .inl split.symm
      · rcases upper_lineage_of_mem_all (comment :: above) replies deeper split with
          same | listed
        · obtain ⟨rfl, rfl⟩ := List.cons.inj same
          exact .inr List.mem_cons_self
        · exact .inr (List.mem_cons_of_mem _ listed)

theorem upper_lineage_of_mem_all (above : List Comment) : (threads : List Thread) →
    {lineage : Lineage} → lineage ∈ lineagesAll above threads → {upper : Comment} →
      {farther : List Comment} → lineage.above = upper :: farther →
        upper :: farther = above ∨ ⟨farther, upper⟩ ∈ lineagesAll above threads
  | [], lineage, member, upper, farther, split => by simp [lineagesAll] at member
  | thread :: rest, lineage, member, upper, farther, split => by
      rcases List.mem_append.mp member with inThread | inRest
      · exact (upper_lineage_of_mem above thread inThread split).imp_right
          (List.mem_append_left _)
      · exact (upper_lineage_of_mem_all above rest inRest split).imp_right
          (List.mem_append_right _)

end

mutual

/-- The lineages of a visited thread are a block of all lineages. -/
theorem lineages_infix_of_visited (above : List Comment) :
    (thread : Thread) → {visit : Nat × Thread} → visit ∈ thread.visits above.length →
      ∃ higher, visit.2.lineages higher <:+: thread.lineages above
  | ⟨comment, replies⟩, visit, visited => by
      rcases List.mem_cons.mp visited with rfl | deeper
      · exact ⟨above, List.infix_rfl⟩
      · obtain ⟨higher, block⟩ := lineagesAll_infix_of_visited (comment :: above) replies deeper
        exact ⟨higher, block.trans (List.suffix_cons _ _).isInfix⟩

theorem lineagesAll_infix_of_visited (above : List Comment) :
    (threads : List Thread) → {visit : Nat × Thread} → visit ∈ visitsAll above.length threads →
      ∃ higher, visit.2.lineages higher <:+: lineagesAll above threads
  | [], visit, visited => by simp [visitsAll] at visited
  | thread :: rest, visit, visited => by
      rcases List.mem_append.mp visited with inThread | inRest
      · obtain ⟨higher, block⟩ := lineages_infix_of_visited above thread inThread
        exact ⟨higher, block.trans (List.prefix_append _ _).isInfix⟩
      · obtain ⟨higher, block⟩ := lineagesAll_infix_of_visited above rest inRest
        exact ⟨higher, block.trans (List.suffix_append _ _).isInfix⟩

end

/-- The ids of threads are those of their lineages, whatever stands above them. -/
theorem ids_eq_lineagesAll (above : List Comment) (threads : List Thread) :
    Discussion.ids ⟨threads⟩ = (lineagesAll above threads).map fun lineage => lineage.comment.id := by
  rw [Discussion.ids_eq_outlineAll, ← map_placed_lineagesAll above threads, List.map_map]
  rfl

theorem lineages_eq (above : List Comment) (thread : Thread) :
    thread.lineages above =
      ⟨above, thread.comment⟩ :: lineagesAll (thread.comment :: above) thread.replies := by
  cases thread
  rfl

end Thread

namespace Discussion

variable {discussion : Discussion}

/-- The lineages of a discussion in pre-order. -/
def lineages (discussion : Discussion) : List Lineage :=
  Thread.lineagesAll [] discussion.threads

theorem map_placed_lineages (discussion : Discussion) :
    discussion.lineages.map Lineage.placed = discussion.outline :=
  Thread.map_placed_lineagesAll [] discussion.threads

/-- The walk tells of each comment how many there are above it. -/
theorem walk_eq_lineages (discussion : Discussion) :
    discussion.walk = discussion.lineages.map Lineage.walked := by
  rw [walk_eq_outline, ← map_placed_lineages, List.map_map]
  rfl

theorem ids_eq_lineages (discussion : Discussion) :
    discussion.ids = discussion.lineages.map fun lineage => lineage.comment.id :=
  Thread.ids_eq_lineagesAll [] discussion.threads

/-- A comment answers the nearest one above it. -/
theorem answers_iff_of_mem_lineages (distinct : discussion.ids.Nodup) {lineage : Lineage}
    (member : lineage ∈ discussion.lineages) {upper : CommentId} :
    discussion.Answers lineage.comment.id upper ↔
      lineage.above.head?.map Comment.id = some upper := by
  have placed : lineage.placed ∈ discussion.outline := by
    rw [← map_placed_lineages]
    exact List.mem_map_of_mem member
  constructor
  · rintro ⟨other, listed, same, answered⟩
    rw [ids_eq_outline] at distinct
    have equal := List.inj_on_of_nodup_map distinct listed placed same
    rw [equal] at answered
    exact answered
  · intro nearest
    exact ⟨lineage.placed, placed, rfl, nearest⟩

theorem nearest_listed {farther : List Comment} {nearest comment : Comment}
    (member : ⟨nearest :: farther, comment⟩ ∈ discussion.lineages) :
    ⟨farther, nearest⟩ ∈ discussion.lineages := by
  rcases Thread.upper_lineage_of_mem_all [] discussion.threads member rfl with outside | listed
  · contradiction
  · exact listed

/-- The comments of a lineage are those that stand above its comment. -/
theorem mem_above_iff (distinct : discussion.ids.Nodup) {lineage : Lineage}
    (member : lineage ∈ discussion.lineages) {upper : CommentId} :
    upper ∈ lineage.above.map Comment.id ↔ discussion.IsAbove upper lineage.comment.id := by
  obtain ⟨above, comment⟩ := lineage
  induction above generalizing comment with
  | nil =>
      refine ⟨by simp, fun higher => ?_⟩
      obtain ⟨middle, answers, -⟩ := Relation.TransGen.head'_iff.mp higher
      rw [answers_iff_of_mem_lineages distinct member] at answers
      contradiction
  | cons nearest farther ih =>
      have direct : discussion.Answers comment.id nearest.id :=
        (answers_iff_of_mem_lineages distinct member).mpr rfl
      rw [List.map_cons, List.mem_cons, ih nearest (nearest_listed member)]
      constructor
      · rintro (rfl | higher)
        · exact .single direct
        · exact .head direct higher
      · intro higher
        obtain ⟨middle, answers, rest⟩ := Relation.TransGen.head'_iff.mp higher
        rw [answers_iff_of_mem_lineages distinct member] at answers
        obtain rfl : nearest.id = middle := by simpa using answers
        rcases Relation.reflTransGen_iff_eq_or_transGen.mp rest with same | higher
        · exact .inl same
        · exact .inr higher

/-- Every comment of a lineage has a lineage of its own, which goes on with the comments above it. -/
theorem upper_listed {nearer farther : List Comment} {upper comment : Comment}
    (member : ⟨nearer ++ upper :: farther, comment⟩ ∈ discussion.lineages) :
    ⟨farther, upper⟩ ∈ discussion.lineages := by
  induction nearer generalizing comment with
  | nil => exact nearest_listed member
  | cons nearest rest ih => exact ih (nearest_listed member)

theorem depth?_of_mem_lineages (distinct : discussion.ids.Nodup) {lineage : Lineage}
    (member : lineage ∈ discussion.lineages) :
    discussion.depth? lineage.comment.id = some lineage.above.length := by
  have walked : lineage.walked ∈ discussion.walk := by
    rw [walk_eq_lineages]
    exact List.mem_map_of_mem member
  obtain ⟨visit, visited, place⟩ := List.mem_map.mp walked
  obtain ⟨depth, comment⟩ := Prod.mk.inj place
  have named : visit.2.id = lineage.comment.id := by rw [Thread.id, comment]
  rw [depth?, ← named, find?_visit distinct visited, Option.map_some, depth]

/-- There is one comment of every depth above another, and the lineage tells which: it is split at
that depth in one way only. -/
theorem isAbove_depth?_iff (distinct : discussion.ids.Nodup) {nearer farther : List Comment}
    {upper comment : Comment}
    (member : ⟨nearer ++ upper :: farther, comment⟩ ∈ discussion.lineages) {other : CommentId} :
    discussion.IsAbove other comment.id ∧ discussion.depth? other = some farther.length ↔
      other = upper.id := by
  rw [← mem_above_iff distinct member]
  constructor
  · rintro ⟨listed, depth⟩
    obtain ⟨found, among, rfl⟩ := List.mem_map.mp listed
    obtain ⟨front, back, split⟩ := List.append_of_mem among
    change nearer ++ upper :: farther = front ++ found :: back at split
    have located := depth?_of_mem_lineages distinct (upper_listed (split ▸ member))
    rw [depth, Option.some.injEq] at located
    have aligned := (List.append_inj' split (by simp [located])).2
    rw [(List.cons.inj aligned).1]
  · rintro rfl
    exact ⟨by simp, depth?_of_mem_lineages distinct (upper_listed member)⟩

/-- No comment occurs twice in a lineage. -/
theorem nodup_above (distinct : discussion.ids.Nodup) {lineage : Lineage}
    (member : lineage ∈ discussion.lineages) : (lineage.above.map Comment.id).Nodup := by
  obtain ⟨above, comment⟩ := lineage
  induction above generalizing comment with
  | nil => exact List.nodup_nil
  | cons nearest farther ih =>
      have listed := nearest_listed member
      rw [List.map_cons, List.nodup_cons]
      refine ⟨?_, ih nearest listed⟩
      intro again
      exact not_isAbove_self distinct nearest.id ((mem_above_iff distinct listed).mp again)

/-! ## The block of a thread -/

/-- A thread of a discussion, with the comments above it and the lineages in front of its own and
behind them. -/
structure Stands (discussion : Discussion) (thread : Thread) (above : List Comment)
    (front back : List Lineage) : Prop where
  found : discussion.find? thread.id = some thread
  split : discussion.lineages = front ++ thread.lineages above ++ back

theorem exists_stands {id : CommentId} {thread : Thread}
    (found : discussion.find? id = some thread) :
    ∃ above front back, discussion.Stands thread above front back := by
  obtain ⟨rfl, depth, visited⟩ := visited_of_find? found
  rw [visits_eq] at visited
  obtain ⟨above, front, back, split⟩ :=
    Thread.lineagesAll_infix_of_visited [] discussion.threads visited
  exact ⟨above, front, back, found, split.symm⟩

namespace Stands

variable {thread : Thread} {above : List Comment} {front back : List Lineage}

theorem listed (stands : discussion.Stands thread above front back) :
    ⟨above, thread.comment⟩ ∈ discussion.lineages := by
  rw [stands.split, Thread.lineages_eq]
  simp

theorem mem_above_iff (distinct : discussion.ids.Nodup)
    (stands : discussion.Stands thread above front back) {upper : CommentId} :
    upper ∈ above.map Comment.id ↔ discussion.IsAbove upper thread.id :=
  Discussion.mem_above_iff distinct stands.listed

/-- The comments below the first one of the thread are the other comments of the thread. -/
theorem isAbove_iff (distinct : discussion.ids.Nodup)
    (stands : discussion.Stands thread above front back) {lower : CommentId} :
    discussion.IsAbove thread.id lower ↔ lower ∈ ids ⟨thread.replies⟩ := by
  rw [← mem_descendants_iff distinct, descendants, stands.found]

theorem isAbove_of_mem (distinct : discussion.ids.Nodup)
    (stands : discussion.Stands thread above front back) {lineage : Lineage}
    (member : lineage ∈ Thread.lineagesAll (thread.comment :: above) thread.replies) :
    discussion.IsAbove thread.id lineage.comment.id := by
  rw [isAbove_iff distinct stands, Thread.ids_eq_lineagesAll]
  exact List.mem_map_of_mem member

/-- In front of the thread and behind it stand other comments. -/
theorem apart (distinct : discussion.ids.Nodup)
    (stands : discussion.Stands thread above front back) {lineage : Lineage}
    (outside : lineage ∈ front ++ back) :
    lineage.comment.id ≠ thread.id ∧ ¬discussion.IsAbove thread.id lineage.comment.id := by
  rw [isAbove_iff distinct stands, ← not_or, ← List.mem_cons]
  have own : (thread.lineages above).map (fun lineage => lineage.comment.id) =
      thread.id :: ids ⟨thread.replies⟩ := by
    rw [Thread.lineages_eq, List.map_cons, Thread.ids_eq_lineagesAll]
    rfl
  have moved : discussion.ids.Perm ((front ++ back).map (fun lineage => lineage.comment.id) ++
      thread.id :: ids ⟨thread.replies⟩) := by
    rw [ids_eq_lineages, stands.split, ← own, ← List.map_append]
    apply List.Perm.map
    rw [List.append_assoc, List.append_assoc]
    exact List.perm_append_comm.append_left front
  intro inside
  exact (List.nodup_append.mp (moved.nodup_iff.mp distinct)).2.2 _ (List.mem_map_of_mem outside)
    _ inside rfl

end Stands

end Discussion

end Colloquy
