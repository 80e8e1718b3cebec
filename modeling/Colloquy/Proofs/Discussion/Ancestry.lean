import Colloquy.Proofs.Discussion.Outline
import Mathlib.Logic.Relation

/-!
# Ancestry

One comment stands above another if a chain of answers leads from the other up to it. The ids that
a discussion lists below a comment are exactly those of the comments it stands above.
-/

namespace Colloquy

namespace Thread

mutual

/-- The outline of a visited thread is a block of the whole outline. -/
theorem outline_infix_of_visited (depth : Nat) (upper : Option CommentId) :
    (thread : Thread) → {visit : Nat × Thread} → visit ∈ thread.visits depth →
      ∃ answered, visit.2.outline visit.1 answered <:+: thread.outline depth upper
  | ⟨comment, replies⟩, visit, visited => by
      rcases List.mem_cons.mp visited with rfl | deeper
      · exact ⟨upper, List.infix_rfl⟩
      · obtain ⟨answered, block⟩ :=
          outlineAll_infix_of_visited (depth + 1) (some comment.id) replies deeper
        exact ⟨answered, block.trans (List.suffix_cons _ _).isInfix⟩

theorem outlineAll_infix_of_visited (depth : Nat) (upper : Option CommentId) :
    (threads : List Thread) → {visit : Nat × Thread} → visit ∈ visitsAll depth threads →
      ∃ answered, visit.2.outline visit.1 answered <:+: outlineAll depth upper threads
  | [], visit, visited => by simp [visitsAll] at visited
  | thread :: rest, visit, visited => by
      rcases List.mem_append.mp visited with inThread | inRest
      · obtain ⟨answered, block⟩ := outline_infix_of_visited depth upper thread inThread
        exact ⟨answered, block.trans (List.prefix_append _ _).isInfix⟩
      · obtain ⟨answered, block⟩ := outlineAll_infix_of_visited depth upper rest inRest
        exact ⟨answered, block.trans (List.suffix_append _ _).isInfix⟩

end

mutual

/-- Whatever is visited within a visited thread is visited. -/
theorem visits_trans (depth : Nat) : (thread : Thread) → {visit inner : Nat × Thread} →
    visit ∈ thread.visits depth → inner ∈ visit.2.visits visit.1 → inner ∈ thread.visits depth
  | ⟨comment, replies⟩, visit, inner, visited, within => by
      rcases List.mem_cons.mp visited with rfl | deeper
      · exact within
      · exact List.mem_cons_of_mem _ (visitsAll_trans (depth + 1) replies deeper within)

theorem visitsAll_trans (depth : Nat) : (threads : List Thread) → {visit inner : Nat × Thread} →
    visit ∈ visitsAll depth threads → inner ∈ visit.2.visits visit.1 →
      inner ∈ visitsAll depth threads
  | [], visit, inner, visited, within => by simp [visitsAll] at visited
  | thread :: rest, visit, inner, visited, within => by
      rcases List.mem_append.mp visited with inThread | inRest
      · exact List.mem_append_left _ (visits_trans depth thread inThread within)
      · exact List.mem_append_right _ (visitsAll_trans depth rest inRest within)

end

mutual

/-- The comment that is answered is visited, and the answer is listed among its replies. -/
theorem answered_visited (depth : Nat) (upper : Option CommentId) :
    (thread : Thread) → {placed : Placed} → placed ∈ thread.outline depth upper →
      placed.parent = upper ∨ ∃ visit ∈ thread.visits depth,
        placed.parent = some visit.2.id ∧ placed.id ∈ Discussion.ids ⟨visit.2.replies⟩
  | ⟨comment, replies⟩, placed, member => by
      rcases List.mem_cons.mp member with rfl | deeper
      · exact .inl rfl
      · rcases answeredAll_visited (depth + 1) (some comment.id) replies deeper with
          direct | ⟨visit, visited, answers, listed⟩
        · refine .inr ⟨(depth, ⟨comment, replies⟩), List.mem_cons_self, direct, ?_⟩
          rw [Discussion.ids_eq_outlineAll (depth + 1) (some comment.id)]
          exact List.mem_map_of_mem deeper
        · exact .inr ⟨visit, List.mem_cons_of_mem _ visited, answers, listed⟩

theorem answeredAll_visited (depth : Nat) (upper : Option CommentId) :
    (threads : List Thread) → {placed : Placed} → placed ∈ outlineAll depth upper threads →
      placed.parent = upper ∨ ∃ visit ∈ visitsAll depth threads,
        placed.parent = some visit.2.id ∧ placed.id ∈ Discussion.ids ⟨visit.2.replies⟩
  | [], placed, member => by simp [outlineAll] at member
  | thread :: rest, placed, member => by
      rcases List.mem_append.mp member with inThread | inRest
      · rcases answered_visited depth upper thread inThread with
          direct | ⟨visit, visited, answers⟩
        · exact .inl direct
        · exact .inr ⟨visit, List.mem_append_left _ visited, answers⟩
      · rcases answeredAll_visited depth upper rest inRest with
          direct | ⟨visit, visited, answers⟩
        · exact .inl direct
        · exact .inr ⟨visit, List.mem_append_right _ visited, answers⟩

end

/-- Replies that are visited bring nothing below them that is not listed. -/
theorem ids_replies_subset {depth : Nat} {threads : List Thread} {visit : Nat × Thread}
    (visited : visit ∈ visitsAll depth threads) :
    Discussion.ids ⟨visit.2.replies⟩ ⊆ Discussion.ids ⟨threads⟩ := by
  obtain ⟨answered, block⟩ := outlineAll_infix_of_visited depth none threads visited
  rw [Discussion.ids_eq_outlineAll (visit.1 + 1) (some visit.2.id),
    Discussion.ids_eq_outlineAll depth none]
  rw [outline_eq] at block
  exact List.map_subset Placed.id ((List.sublist_cons_self _ _).trans block.sublist).subset

end Thread

namespace Discussion

variable {discussion : Discussion}

/-- One comment is a direct answer to another. -/
def Answers (discussion : Discussion) (lower upper : CommentId) : Prop :=
  ∃ placed ∈ discussion.outline, placed.id = lower ∧ placed.parent = some upper

/-- One comment stands above another: answers lead from the other up to it. -/
def IsAbove (discussion : Discussion) (upper lower : CommentId) : Prop :=
  Relation.TransGen discussion.Answers lower upper

/-- A thread without a comment above it is visited. -/
theorem root_visited {root : Thread} (member : root ∈ discussion.threads) :
    (0, root) ∈ discussion.visits := by
  rw [visits_eq, Thread.visitsAll_eq_flatMap]
  exact List.mem_flatMap.mpr ⟨root, member, by rw [Thread.visits_eq]; exact List.mem_cons_self⟩

/-- The replies to a visited comment are visited. -/
theorem reply_visited {visit : Nat × Thread} (visited : visit ∈ discussion.visits)
    {reply : Thread} (member : reply ∈ visit.2.replies) :
    (visit.1 + 1, reply) ∈ discussion.visits := by
  rw [visits_eq] at visited ⊢
  apply Thread.visitsAll_trans 0 _ visited
  rw [Thread.visits_eq, Thread.visitsAll_eq_flatMap]
  refine List.mem_cons_of_mem _ (List.mem_flatMap.mpr ⟨reply, member, ?_⟩)
  rw [Thread.visits_eq]
  exact List.mem_cons_self

/-- The outline of a visited thread is a block of the discussion's outline. -/
theorem outline_infix_of_visited {visit : Nat × Thread} (visited : visit ∈ discussion.visits) :
    ∃ answered, visit.2.outline visit.1 answered <:+: discussion.outline := by
  rw [visits_eq] at visited
  exact Thread.outlineAll_infix_of_visited 0 none discussion.threads visited

/-- A comment does not stand among the replies to itself. -/
theorem id_not_mem_replies (distinct : discussion.ids.Nodup) {visit : Nat × Thread}
    (visited : visit ∈ discussion.visits) : visit.2.id ∉ ids ⟨visit.2.replies⟩ := by
  obtain ⟨answered, block⟩ := outline_infix_of_visited visited
  rw [ids_eq_outline] at distinct
  have unrepeated := (block.sublist.map Placed.id).nodup distinct
  rw [Thread.outline_eq, List.map_cons, List.nodup_cons] at unrepeated
  rw [ids_eq_outlineAll (visit.1 + 1) (some visit.2.id)]
  exact unrepeated.1

mutual

/-- A comment stands above all that is listed below it in an outline. -/
theorem isAbove_of_mem_outline {upper : CommentId} (depth : Nat) : (thread : Thread) →
    (∀ placed ∈ thread.outline depth (some upper), placed ∈ discussion.outline) →
      ∀ placed ∈ thread.outline depth (some upper), discussion.IsAbove upper placed.id
  | ⟨comment, replies⟩, inside, placed, member => by
      have root : discussion.IsAbove upper comment.id :=
        .single ⟨_, inside _ List.mem_cons_self, rfl, rfl⟩
      rcases List.mem_cons.mp member with rfl | deeper
      · exact root
      · have below := isAbove_of_mem_outlineAll (depth + 1) replies
          (fun other found => inside other (List.mem_cons_of_mem _ found)) placed deeper
        exact below.trans root

theorem isAbove_of_mem_outlineAll {upper : CommentId} (depth : Nat) : (threads : List Thread) →
    (∀ placed ∈ Thread.outlineAll depth (some upper) threads, placed ∈ discussion.outline) →
      ∀ placed ∈ Thread.outlineAll depth (some upper) threads,
        discussion.IsAbove upper placed.id
  | [], _, placed, member => by simp [Thread.outlineAll] at member
  | thread :: rest, inside, placed, member => by
      rcases List.mem_append.mp member with inThread | inRest
      · exact isAbove_of_mem_outline depth thread
          (fun other found => inside other (List.mem_append_left _ found)) placed inThread
      · exact isAbove_of_mem_outlineAll depth rest
          (fun other found => inside other (List.mem_append_right _ found)) placed inRest

end

/-- A chain of answers stays within the replies of the comment that it leads up to. -/
theorem visited_of_isAbove (distinct : discussion.ids.Nodup) {upper lower : CommentId}
    (above : discussion.IsAbove upper lower) :
    ∃ visit ∈ discussion.visits, visit.2.id = upper ∧ lower ∈ ids ⟨visit.2.replies⟩ := by
  have answered : ∀ {low high}, discussion.Answers low high →
      ∃ visit ∈ discussion.visits, visit.2.id = high ∧ low ∈ ids ⟨visit.2.replies⟩ := by
    rintro low high ⟨placed, member, rfl, answers⟩
    rcases Thread.answeredAll_visited 0 none discussion.threads member with
      orphan | ⟨visit, visited, direct, listed⟩
    · rw [answers] at orphan
      contradiction
    · rw [answers, Option.some.injEq] at direct
      exact ⟨visit, visits_eq discussion ▸ visited, direct.symm, listed⟩
  induction above with
  | single answers => exact answered answers
  | tail _ answers ih =>
      obtain ⟨inner, innerVisited, rfl, listed⟩ := ih
      obtain ⟨outer, outerVisited, same, below⟩ := answered answers
      refine ⟨outer, outerVisited, same, ?_⟩
      obtain ⟨found, foundBelow, foundId⟩ := (mem_ids_iff_visitsAll (outer.1 + 1)).mp below
      have foundVisited : found ∈ discussion.visits := by
        rw [visits_eq] at outerVisited ⊢
        apply Thread.visitsAll_trans 0 _ outerVisited
        rw [Thread.visits_eq]
        exact List.mem_cons_of_mem _ foundBelow
      have equal := eq_of_visited distinct foundVisited innerVisited foundId
      subst equal
      exact Thread.ids_replies_subset foundBelow listed

/-- What a discussion lists below a comment is what the comment stands above. -/
theorem mem_descendants_iff (distinct : discussion.ids.Nodup) {upper lower : CommentId} :
    lower ∈ discussion.descendants upper ↔ discussion.IsAbove upper lower := by
  constructor
  · intro listed
    cases found : discussion.find? upper with
    | none => simp [descendants, found] at listed
    | some thread =>
        obtain ⟨rfl, depth, visited⟩ := visited_of_find? found
        obtain ⟨answered, block⟩ := outline_infix_of_visited visited
        rw [Thread.outline_eq] at block
        simp only [descendants, found] at listed
        rw [ids_eq_outlineAll (depth + 1) (some thread.id)] at listed
        obtain ⟨placed, member, rfl⟩ := List.mem_map.mp listed
        exact isAbove_of_mem_outlineAll (depth + 1) thread.replies
          (fun other inside => block.subset (List.mem_cons_of_mem _ inside)) placed member
  · intro above
    obtain ⟨⟨depth, thread⟩, visited, rfl, listed⟩ := visited_of_isAbove distinct above
    rw [descendants, find?_of_visited distinct visited]
    exact listed

/-- Only comments of the discussion stand above others. -/
theorem mem_ids_of_answers {lower upper : CommentId} (answers : discussion.Answers lower upper) :
    lower ∈ discussion.ids ∧ upper ∈ discussion.ids := by
  obtain ⟨placed, member, rfl, answered⟩ := answers
  constructor
  · rw [ids_eq_outline]
    exact List.mem_map_of_mem member
  · rcases Thread.answeredAll_visited 0 none discussion.threads member with
      orphan | ⟨visit, visited, direct, -⟩
    · rw [answered] at orphan
      contradiction
    · rw [answered, Option.some.injEq] at direct
      rw [mem_ids_iff, visits_eq]
      exact ⟨visit, visited, direct.symm⟩

theorem mem_ids_of_isAbove {upper lower : CommentId} (above : discussion.IsAbove upper lower) :
    lower ∈ discussion.ids := by
  obtain ⟨middle, answers, -⟩ := Relation.TransGen.head'_iff.mp above
  exact (mem_ids_of_answers answers).1

/-- Comments that join a discussion do not come between those that are there. -/
theorem isAbove_of_sublist {grown : Discussion} (distinct : grown.ids.Nodup)
    (kept : discussion.outline.Sublist grown.outline) {upper lower : CommentId}
    (present : lower ∈ discussion.ids) (above : grown.IsAbove upper lower) :
    discussion.IsAbove upper lower := by
  have answers : ∀ {low high}, low ∈ discussion.ids → grown.Answers low high →
      discussion.Answers low high := by
    rintro low high known ⟨placed, member, rfl, answered⟩
    rw [ids_eq_outline] at known distinct
    obtain ⟨earlier, listed, same⟩ := List.mem_map.mp known
    have equal := List.inj_on_of_nodup_map distinct (kept.subset listed) member same
    exact ⟨placed, equal ▸ listed, rfl, answered⟩
  induction above using Relation.TransGen.head_induction_on with
  | single direct => exact .single (answers present direct)
  | head direct _ ih =>
      have first := answers present direct
      exact .head first (ih (mem_ids_of_answers first).2)

theorem not_isAbove_self (distinct : discussion.ids.Nodup) (id : CommentId) :
    ¬discussion.IsAbove id id := by
  intro above
  obtain ⟨visit, visited, rfl, inside⟩ := visited_of_isAbove distinct above
  exact id_not_mem_replies distinct visited inside

/-- No comment is listed below itself. -/
theorem not_mem_descendants_self (distinct : discussion.ids.Nodup) (id : CommentId) :
    id ∉ discussion.descendants id := by
  rw [mem_descendants_iff distinct]
  exact not_isAbove_self distinct id

end Discussion

end Colloquy
