import Colloquy.Discussion.Row
import Colloquy.Discussion.Sample
import Colloquy.Proofs.Discussion.Lineage

/-!
# What is shown

A comment is shown if no comment above it is folded. The rows of a view are, in pre-order, those of
the comments that are shown: one row for a folded comment, and otherwise a full row with the reply
under way right below it. What becomes of a row thus depends on the lineage of its comment alone.
-/

namespace Colloquy

namespace Lineage

variable (view : View) (lineage : Lineage)

/-- Nothing above the comment is folded. -/
def isShown : Bool :=
  lineage.above.all fun upper => !view.isFolded upper.id

/-- The kinds of the rows that a comment takes up where it is shown. -/
def kinds : List RowKind :=
  if view.isFolded lineage.comment.id then [.folded]
  else .full :: if (view.openReply? lineage.comment.id).isSome then [.openReply] else []

/-- The row of a comment as it was received. -/
def receivedRow : Row :=
  ⟨lineage.comment, lineage.above.length, .full, lineage.comment.score⟩

/-- The rows that a comment takes up where it is shown. -/
def rows : List Row :=
  (lineage.kinds view).map fun kind =>
    ⟨lineage.comment, lineage.above.length, kind, view.scoreOf lineage.comment⟩

theorem kinds_cases :
    lineage.kinds view = [.folded] ∨ lineage.kinds view = [.full] ∨
      lineage.kinds view = [.full, .openReply] := by
  cases folded : view.isFolded lineage.comment.id with
  | true => simp [kinds, folded]
  | false =>
      cases opened : view.openReply? lineage.comment.id with
      | none => simp [kinds, folded, opened]
      | some reply => simp [kinds, folded, opened]

/-- A comment that is shown is shown once. -/
theorem filter_isComment_rows :
    ((lineage.rows view).filter Row.isComment).map Row.id = [lineage.comment.id] := by
  rcases lineage.kinds_cases view with kinds | kinds | kinds
  · rw [rows, kinds]
    rfl
  · rw [rows, kinds]
    rfl
  · rw [rows, kinds]
    rfl

theorem isShown_eq_false_of_folded {upper : Comment} (above : upper ∈ lineage.above)
    (folded : view.isFolded upper.id = true) : lineage.isShown view = false := by
  simp only [isShown, List.all_eq_false]
  exact ⟨upper, above, by simp [folded]⟩

end Lineage

namespace View

variable (view : View)

theorem ownRows_eq (above : List Comment) (comment : Comment) :
    view.ownRows above.length comment = Lineage.rows view ⟨above, comment⟩ := by
  cases folded : view.isFolded comment.id with
  | true => simp [ownRows, Lineage.rows, Lineage.kinds, folded]
  | false =>
      cases opened : view.openReply? comment.id with
      | none => simp [ownRows, Lineage.rows, Lineage.kinds, folded, opened]
      | some reply => simp [ownRows, Lineage.rows, Lineage.kinds, folded, opened]

/-- Nothing below a folded comment is shown. -/
theorem filter_isShown_of_folded {above : List Comment} {upper : Comment} (member : upper ∈ above)
    (folded : view.isFolded upper.id = true) (threads : List Thread) :
    (Thread.lineagesAll above threads).filter (Lineage.isShown view) = [] := by
  rw [List.filter_eq_nil_iff]
  intro lineage listed
  have inherited := (Thread.above_suffix_of_mem_all above threads listed).subset member
  simp [lineage.isShown_eq_false_of_folded view inherited folded]

mutual

/-- The rows of a thread below comments that are not folded. -/
theorem threadRows_eq (above : List Comment)
    (unfolded : ∀ upper ∈ above, view.isFolded upper.id = false) : (thread : Thread) →
      view.threadRows above.length thread =
        ((thread.lineages above).filter (Lineage.isShown view)).flatMap (Lineage.rows view)
  | ⟨comment, replies⟩ => by
      have shown : Lineage.isShown view ⟨above, comment⟩ = true := by
        simpa [Lineage.isShown] using unfolded
      simp only [threadRows, Thread.lineages, List.filter_cons_of_pos shown, List.flatMap_cons,
        ownRows_eq]
      congr 1
      cases folded : view.isFolded comment.id with
      | true =>
          rw [view.filter_isShown_of_folded List.mem_cons_self folded]
          rfl
      | false =>
          have below := threadsRows_eq (comment :: above)
            (List.forall_mem_cons.mpr ⟨folded, unfolded⟩) replies
          simpa using below

theorem threadsRows_eq (above : List Comment)
    (unfolded : ∀ upper ∈ above, view.isFolded upper.id = false) : (threads : List Thread) →
      view.threadsRows above.length threads =
        ((Thread.lineagesAll above threads).filter (Lineage.isShown view)).flatMap
          (Lineage.rows view)
  | [] => rfl
  | thread :: rest => by
      simp only [threadsRows, Thread.lineagesAll, List.filter_append, List.flatMap_append]
      rw [threadRows_eq above unfolded thread, threadsRows_eq above unfolded rest]

end

mutual

/-- Where nothing is mounted, every comment is shown in full and as it was received. -/
theorem threadRows_of_unmounted (above : List Comment) : (thread : Thread) →
    (∀ id ∈ Discussion.ids ⟨[thread]⟩, view.node? id = none) →
      view.threadRows above.length thread = (thread.lineages above).map Lineage.receivedRow
  | ⟨comment, replies⟩, unmounted => by
      simp only [Discussion.ids_cons, Discussion.ids_nil, List.append_nil,
        List.forall_mem_cons] at unmounted
      have own : view.node? comment.id = none := unmounted.1
      have below := threadsRows_of_unmounted (comment :: above) replies unmounted.2
      rw [List.length_cons] at below
      simp [threadRows, ownRows, isFolded, openReply?, scoreOf, own, below, Thread.lineages,
        Lineage.receivedRow]

theorem threadsRows_of_unmounted (above : List Comment) : (threads : List Thread) →
    (∀ id ∈ Discussion.ids ⟨threads⟩, view.node? id = none) →
      view.threadsRows above.length threads =
        (Thread.lineagesAll above threads).map Lineage.receivedRow
  | [], _ => rfl
  | thread :: rest, unmounted => by
      simp only [Discussion.ids_cons, ← List.cons_append, List.forall_mem_append] at unmounted
      have first : ∀ id ∈ Discussion.ids ⟨[thread]⟩, view.node? id = none := by
        simpa using unmounted.1
      rw [threadsRows, Thread.lineagesAll, List.map_append,
        threadRows_of_unmounted above thread first,
        threadsRows_of_unmounted above rest unmounted.2]

end

variable (discussion : Discussion)

/-- The rows are those of the comments that are shown. -/
theorem rows_eq_flatMap :
    view.rows discussion =
      (discussion.lineages.filter (Lineage.isShown view)).flatMap (Lineage.rows view) :=
  view.threadsRows_eq [] (by simp) discussion.threads

/-- The comments that have a row are those that are shown, each of them once. -/
theorem map_id_rows :
    ((view.rows discussion).filter Row.isComment).map Row.id =
      (discussion.lineages.filter (Lineage.isShown view)).map fun lineage =>
        lineage.comment.id := by
  rw [rows_eq_flatMap, List.filter_flatMap, List.map_flatMap]
  simp only [Lineage.filter_isComment_rows]
  exact List.map_eq_flatMap.symm

variable {discussion}

theorem isShown_iff (distinct : discussion.ids.Nodup) {lineage : Lineage}
    (member : lineage ∈ discussion.lineages) :
    lineage.isShown view = true ↔
      ∀ upper, discussion.IsAbove upper lineage.comment.id → view.isFolded upper = false := by
  simp only [← Discussion.mem_above_iff distinct member, Lineage.isShown, List.all_eq_true,
    Bool.not_eq_true', List.forall_mem_map]

/-- A reply under way has its row exactly if no comment above the one answered is folded. -/
theorem openReply_row_iff (distinct : discussion.ids.Nodup) {id : CommentId}
    (listed : id ∈ discussion.ids) (unfolded : view.isFolded id = false)
    (opened : (view.openReply? id).isSome) :
    (∃ row ∈ view.rows discussion, row.id = id ∧ row.kind = .openReply) ↔
      ∀ upper, discussion.IsAbove upper id → view.isFolded upper = false := by
  rw [rows_eq_flatMap]
  constructor
  · rintro ⟨row, member, rfl, -⟩
    obtain ⟨lineage, shown, own⟩ := List.mem_flatMap.mp member
    obtain ⟨visited, shown⟩ := List.mem_filter.mp shown
    obtain ⟨kind, -, rfl⟩ := List.mem_map.mp own
    exact (view.isShown_iff distinct visited).mp shown
  · intro uncovered
    rw [Discussion.ids_eq_lineages] at listed
    obtain ⟨lineage, visited, rfl⟩ := List.mem_map.mp listed
    have shown := (view.isShown_iff distinct visited).mpr uncovered
    have kinds : .openReply ∈ lineage.kinds view := by simp [Lineage.kinds, unfolded, opened]
    have own : ⟨lineage.comment, lineage.above.length, .openReply, view.scoreOf lineage.comment⟩ ∈
        lineage.rows view := List.mem_map.mpr ⟨.openReply, kinds, rfl⟩
    exact ⟨_, List.mem_flatMap.mpr ⟨lineage, List.mem_filter.mpr ⟨visited, shown⟩, own⟩, rfl, rfl⟩

variable (discussion)

/-- Where nothing is mounted, everything is shown in full. -/
theorem rows_empty :
    ({} : View).rows discussion = discussion.walk.map fun entry =>
      ⟨entry.2, entry.1, .full, entry.2.score⟩ := by
  have received := ({} : View).threadsRows_of_unmounted [] discussion.threads fun _ _ => rfl
  rw [Discussion.walk_eq_lineages, List.map_map]
  exact received

/-- The rows are, in the order of the walk, those of the comments that have no folded comment above
them: a row for a folded comment, and otherwise a full row, with a row for the reply under way right
below it if there is one. Each row has the number of comments above and the score shown. With
nothing mounted the rows are the walk. Where no id repeats, no comment is shown twice, and a lineage
holds each comment that stands above its comment once, and no other. -/
theorem rows_eq_shown :
    view.rows discussion =
        (discussion.lineages.filter (Lineage.isShown view)).flatMap (Lineage.rows view) ∧
      discussion.walk = discussion.lineages.map (fun lineage =>
        (lineage.above.length, lineage.comment)) ∧
      ({} : View).rows discussion = discussion.walk.map (fun entry =>
        ⟨entry.2, entry.1, .full, entry.2.score⟩) ∧
      (discussion.ids.Nodup →
        (((view.rows discussion).filter Row.isComment).map Row.id).Nodup ∧
          ∀ lineage ∈ discussion.lineages, (lineage.above.map Comment.id).Nodup ∧
            ∀ upper, upper ∈ lineage.above.map Comment.id ↔
              discussion.IsAbove upper lineage.comment.id) := by
  refine ⟨view.rows_eq_flatMap discussion, discussion.walk_eq_lineages, rows_empty discussion, ?_⟩
  intro distinct
  refine ⟨?_, fun lineage member => ⟨Discussion.nodup_above distinct member,
    fun upper => Discussion.mem_above_iff distinct member⟩⟩
  rw [map_id_rows]
  rw [Discussion.ids_eq_lineages] at distinct
  exact distinct.sublist (List.filter_sublist.map _)

/-- One comment is folded that has a reply, and a reply to another one is under way. -/
def partlyFolded : View :=
  ((({} : View).fold ⟨Discussion.sampleThreads⟩ 11).1.toggleReply ⟨Discussion.sampleThreads⟩ 2).1

theorem rows_partlyFolded :
    (partlyFolded.rows ⟨Discussion.sampleThreads⟩).map (fun row => (row.id, row.depth, row.kind)) =
        [(1, 0, .full), (11, 1, .folded), (12, 1, .full), (2, 0, .full), (2, 0, .openReply),
          (21, 1, .full)] ∧
      (Discussion.ids ⟨Discussion.sampleThreads⟩).Nodup ∧
      (((partlyFolded.rows ⟨Discussion.sampleThreads⟩).filter Row.isComment).map Row.id).Nodup := by
  have distinct : (Discussion.ids ⟨Discussion.sampleThreads⟩).Nodup := by decide +kernel
  have once := ((rows_eq_shown partlyFolded ⟨Discussion.sampleThreads⟩).2.2.2 distinct).1
  exact ⟨by decide +kernel, distinct, once⟩

end View

end Colloquy
