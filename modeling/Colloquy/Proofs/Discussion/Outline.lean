import Colloquy.Discussion.Insert
import Mathlib.Data.List.Nodup

/-!
# Outlines

The outline of a discussion lists its comments in pre-order, each with its number of ancestors and
the comment that it answers. It is defined by recursion on the threads, and the walk from an agenda
is shown to follow the same recursion. Ids, lookups and the check for repeated ids are then read off
the outline.
-/

namespace Colloquy

/-- A comment and its place: its number of ancestors, and the comment it answers, if any. -/
structure Placed where
  depth : Nat
  parent : Option CommentId
  comment : Comment
  deriving DecidableEq, Repr

/-- The id of the comment. -/
def Placed.id (placed : Placed) : CommentId := placed.comment.id

namespace Thread

mutual

/-- The comments of a thread in pre-order, each with its place. -/
def outline (depth : Nat) (parent : Option CommentId) : Thread → List Placed
  | ⟨comment, replies⟩ =>
      ⟨depth, parent, comment⟩ :: outlineAll (depth + 1) (some comment.id) replies

/-- The comments of several threads in pre-order, each with its place. -/
def outlineAll (depth : Nat) (parent : Option CommentId) : List Thread → List Placed
  | [] => []
  | thread :: rest => thread.outline depth parent ++ outlineAll depth parent rest

end

mutual

/-- A thread and all threads within it in pre-order, each with its number of ancestors. -/
def visits (depth : Nat) : Thread → List (Nat × Thread)
  | ⟨comment, replies⟩ => (depth, ⟨comment, replies⟩) :: visitsAll (depth + 1) replies

/-- Several threads and all threads within them in pre-order. -/
def visitsAll (depth : Nat) : List Thread → List (Nat × Thread)
  | [] => []
  | thread :: rest => thread.visits depth ++ visitsAll depth rest

end

/-- The rows of the recursion on a thread, without taking the thread apart. -/
theorem visits_eq (depth : Nat) (thread : Thread) :
    thread.visits depth = (depth, thread) :: visitsAll (depth + 1) thread.replies := by
  cases thread
  rfl

theorem outline_eq (depth : Nat) (parent : Option CommentId) (thread : Thread) :
    thread.outline depth parent =
      ⟨depth, parent, thread.comment⟩ ::
        outlineAll (depth + 1) (some thread.id) thread.replies := by
  cases thread
  rfl

@[simp] theorem outlineAll_append (depth : Nat) (parent : Option CommentId)
    (left right : List Thread) :
    outlineAll depth parent (left ++ right) =
      outlineAll depth parent left ++ outlineAll depth parent right := by
  induction left with
  | nil => rfl
  | cons thread rest ih => simp [outlineAll, ih]

theorem visitsAll_eq_flatMap (depth : Nat) (threads : List Thread) :
    visitsAll depth threads = threads.flatMap (visits depth) := by
  induction threads with
  | nil => rfl
  | cons thread rest ih => simp [visitsAll, ih]

mutual

/-- The ids do not depend on where a thread stands. -/
theorem map_id_visits (depth place : Nat) (parent : Option CommentId) :
    (thread : Thread) →
      (thread.visits depth).map (fun visit => visit.2.id) =
        (thread.outline place parent).map Placed.id
  | ⟨comment, replies⟩ => by
      simp only [visits, outline, List.map_cons]
      rw [map_id_visitsAll (depth + 1) (place + 1) (some comment.id) replies]
      rfl

theorem map_id_visitsAll (depth place : Nat) (parent : Option CommentId) :
    (threads : List Thread) →
      (visitsAll depth threads).map (fun visit => visit.2.id) =
        (outlineAll place parent threads).map Placed.id
  | [] => rfl
  | thread :: rest => by
      simp only [visitsAll, outlineAll, List.map_append]
      rw [map_id_visits depth place parent thread, map_id_visitsAll depth place parent rest]

end

mutual

/-- Depths and comments are those of the walk. -/
theorem map_comment_visits (depth : Nat) (parent : Option CommentId) :
    (thread : Thread) →
      (thread.visits depth).map (fun visit => (visit.1, visit.2.comment)) =
        (thread.outline depth parent).map fun placed => (placed.depth, placed.comment)
  | ⟨comment, replies⟩ => by
      simp only [visits, outline, List.map_cons]
      rw [map_comment_visitsAll (depth + 1) (some comment.id) replies]

theorem map_comment_visitsAll (depth : Nat) (parent : Option CommentId) :
    (threads : List Thread) →
      (visitsAll depth threads).map (fun visit => (visit.1, visit.2.comment)) =
        (outlineAll depth parent threads).map fun placed => (placed.depth, placed.comment)
  | [] => rfl
  | thread :: rest => by
      simp only [visitsAll, outlineAll, List.map_append]
      rw [map_comment_visits depth parent thread, map_comment_visitsAll depth parent rest]

end

mutual

/-- The comments of an outline do not depend on where a thread stands. -/
theorem map_comment_outline (depth place : Nat) (parent upper : Option CommentId) :
    (thread : Thread) →
      (thread.outline depth parent).map Placed.comment =
        (thread.outline place upper).map Placed.comment
  | ⟨comment, replies⟩ => by
      simp only [outline, List.map_cons]
      rw [map_comment_outlineAll (depth + 1) (place + 1) (some comment.id) (some comment.id) replies]

theorem map_comment_outlineAll (depth place : Nat) (parent upper : Option CommentId) :
    (threads : List Thread) →
      (outlineAll depth parent threads).map Placed.comment =
        (outlineAll place upper threads).map Placed.comment
  | [] => rfl
  | thread :: rest => by
      simp only [outlineAll, List.map_append]
      rw [map_comment_outline depth place parent upper thread,
        map_comment_outlineAll depth place parent upper rest]

end

mutual

/-- A thread that stands deeper has the same outline further down. -/
theorem map_depth_outline (levels depth : Nat) (parent upper : Option CommentId) :
    (thread : Thread) →
      (thread.outline (levels + depth) parent).map (fun placed => (placed.depth, placed.comment)) =
        (thread.outline depth upper).map fun placed => (levels + placed.depth, placed.comment)
  | ⟨comment, replies⟩ => by
      simp only [outline, List.map_cons]
      rw [Nat.add_assoc, map_depth_outlineAll levels (depth + 1) (some comment.id) (some comment.id)]

theorem map_depth_outlineAll (levels depth : Nat) (parent upper : Option CommentId) :
    (threads : List Thread) →
      (outlineAll (levels + depth) parent threads).map
          (fun placed => (placed.depth, placed.comment)) =
        (outlineAll depth upper threads).map fun placed => (levels + placed.depth, placed.comment)
  | [] => rfl
  | thread :: rest => by
      simp only [outlineAll, List.map_append]
      rw [map_depth_outline levels depth parent upper thread,
        map_depth_outlineAll levels depth parent upper rest]

end

mutual

/-- A change of every comment that keeps the ids changes the outline comment by comment. -/
theorem outline_mapComments (change : Comment → Comment)
    (keeps : ∀ comment, (change comment).id = comment.id) (depth : Nat)
    (parent : Option CommentId) : (thread : Thread) →
      (thread.mapComments change).outline depth parent =
        (thread.outline depth parent).map fun placed =>
          { placed with comment := change placed.comment }
  | ⟨comment, replies⟩ => by
      simp only [mapComments, outline, List.map_cons, keeps]
      rw [outlineAll_mapAll change keeps (depth + 1) (some comment.id) replies]

theorem outlineAll_mapAll (change : Comment → Comment)
    (keeps : ∀ comment, (change comment).id = comment.id) (depth : Nat)
    (parent : Option CommentId) : (threads : List Thread) →
      outlineAll depth parent (mapAll change threads) =
        (outlineAll depth parent threads).map fun placed =>
          { placed with comment := change placed.comment }
  | [] => rfl
  | thread :: rest => by
      simp only [mapAll, outlineAll, List.map_append]
      rw [outline_mapComments change keeps depth parent thread,
        outlineAll_mapAll change keeps depth parent rest]

end

/-- What follows the outline of threads that stand so deep stands less deep. -/
def EndsAbove (depth : Nat) (after : List Placed) : Prop :=
  ∀ placed ∈ after.head?, placed.depth < depth

theorem EndsAbove.outlineAll_append {depth : Nat} {after : List Placed}
    (ends : EndsAbove depth after) (parent : Option CommentId) (rest : List Thread) :
    EndsAbove (depth + 1) (outlineAll depth parent rest ++ after) := by
  cases rest with
  | nil => exact fun placed first => Nat.lt_succ_of_lt (ends placed first)
  | cons thread others => simp [EndsAbove, outlineAll, outline_eq]

/-- The depths tell where the outline of a thread's replies ends, so that an outline can be read back
in only one way. -/
theorem outlineAll_append_inj {depth : Nat} {parent : Option CommentId} :
    (left right : List Thread) → {leftAfter rightAfter : List Placed} →
      EndsAbove depth leftAfter → EndsAbove depth rightAfter →
      outlineAll depth parent left ++ leftAfter = outlineAll depth parent right ++ rightAfter →
      left = right ∧ leftAfter = rightAfter
  | [], [], _, _, _, _, same => ⟨rfl, same⟩
  | [], ⟨comment, replies⟩ :: rest, _, _, leftEnds, _, same => by
      subst same
      simp [EndsAbove, outlineAll, outline] at leftEnds
  | ⟨comment, replies⟩ :: rest, [], _, _, _, rightEnds, same => by
      subst same
      simp [EndsAbove, outlineAll, outline] at rightEnds
  | ⟨comment, replies⟩ :: rest, ⟨other, otherReplies⟩ :: otherRest, _, _, leftEnds, rightEnds,
      same => by
      simp only [outlineAll, outline, List.cons_append, List.append_assoc, List.cons.injEq,
        Placed.mk.injEq, true_and] at same
      obtain ⟨rfl, below⟩ := same
      obtain ⟨rfl, behind⟩ := outlineAll_append_inj replies otherReplies
        (leftEnds.outlineAll_append parent rest) (rightEnds.outlineAll_append parent otherRest)
        below
      obtain ⟨rfl, after⟩ := outlineAll_append_inj rest otherRest leftEnds rightEnds behind
      exact ⟨rfl, after⟩

end Thread

/-- What is on the agenda is visited thread by thread. -/
theorem Agenda.walk_eq_flatMap (agenda : Agenda) :
    agenda.walk = agenda.flatMap fun entry => entry.2.visits entry.1 := by
  fun_induction Agenda.walk agenda with
  | case1 => rfl
  | case2 depth thread rest ih =>
      rw [ih, List.flatMap_cons, Thread.visits_eq, List.flatMap_append,
        Thread.visitsAll_eq_flatMap]
      simp [Agenda.ofThreads, List.flatMap_map]

namespace Discussion

/-- The comments of a discussion in pre-order, each with its place. -/
def outline (discussion : Discussion) : List Placed :=
  Thread.outlineAll 0 none discussion.threads

/-- A discussion is settled by its outline. -/
theorem outline_injective : Function.Injective outline := by
  rintro ⟨left⟩ ⟨right⟩ same
  have ends : Thread.EndsAbove 0 [] := by simp [Thread.EndsAbove]
  obtain ⟨rfl, -⟩ := Thread.outlineAll_append_inj left right ends ends
    (by simpa only [outline, List.append_nil] using same)
  rfl

theorem visits_eq (discussion : Discussion) :
    discussion.visits = Thread.visitsAll 0 discussion.threads := by
  rw [visits, Agenda.walk_eq_flatMap, Thread.visitsAll_eq_flatMap]
  simp [Agenda.ofThreads, List.flatMap_map]

/-- The walk is the outline without the comments answered. -/
theorem walk_eq_outline (discussion : Discussion) :
    discussion.walk = discussion.outline.map fun placed => (placed.depth, placed.comment) := by
  rw [walk, visits_eq, outline, Thread.map_comment_visitsAll]

/-- The comments of a discussion in pre-order. -/
def comments (discussion : Discussion) : List Comment :=
  discussion.walk.map Prod.snd

/-- The comments of threads are those of their outline, wherever they stand. -/
theorem comments_eq_outlineAll (depth : Nat) (parent : Option CommentId) (threads : List Thread) :
    comments ⟨threads⟩ = (Thread.outlineAll depth parent threads).map Placed.comment := by
  rw [Thread.map_comment_outlineAll depth 0 parent none, comments, walk_eq_outline, List.map_map]
  rfl

theorem comments_eq_outline (discussion : Discussion) :
    discussion.comments = discussion.outline.map Placed.comment :=
  comments_eq_outlineAll 0 none discussion.threads

/-- The ids of threads are those of their outline, wherever they stand. -/
theorem ids_eq_outlineAll (depth : Nat) (parent : Option CommentId) (threads : List Thread) :
    ids ⟨threads⟩ = (Thread.outlineAll depth parent threads).map Placed.id := by
  rw [ids, visits_eq, Thread.map_id_visitsAll]

theorem ids_eq_outline (discussion : Discussion) :
    discussion.ids = discussion.outline.map Placed.id :=
  ids_eq_outlineAll 0 none discussion.threads

@[simp] theorem ids_nil : ids ⟨[]⟩ = [] := by
  rw [ids_eq_outline]
  rfl

@[simp] theorem ids_cons (thread : Thread) (rest : List Thread) :
    ids ⟨thread :: rest⟩ = thread.id :: (ids ⟨thread.replies⟩ ++ ids ⟨rest⟩) := by
  rw [ids_eq_outlineAll 1 (some thread.id) thread.replies, ids_eq_outline, ids_eq_outline]
  simp [outline, Thread.outlineAll, Thread.outline_eq, Placed.id, Thread.id]

theorem mem_ids_iff {discussion : Discussion} {id : CommentId} :
    id ∈ discussion.ids ↔ ∃ visit ∈ discussion.visits, visit.2.id = id := by
  simp [ids]

theorem mem_ids_iff_visitsAll (depth : Nat) {threads : List Thread} {id : CommentId} :
    id ∈ ids ⟨threads⟩ ↔ ∃ visit ∈ Thread.visitsAll depth threads, visit.2.id = id := by
  rw [ids_eq_outlineAll 0 none, ← Thread.map_id_visitsAll depth, List.mem_map]

/-- A thread that is found has the id looked for and is one of those visited. -/
theorem visited_of_find? {discussion : Discussion} {id : CommentId} {thread : Thread}
    (found : discussion.find? id = some thread) :
    thread.id = id ∧ ∃ depth, (depth, thread) ∈ discussion.visits := by
  obtain ⟨⟨depth, visited⟩, hit, rfl⟩ := Option.map_eq_some_iff.mp found
  have same := List.find?_some hit
  exact ⟨by simpa using same, depth, List.mem_of_find?_eq_some hit⟩

theorem find?_isSome_iff {discussion : Discussion} {id : CommentId} :
    (discussion.find? id).isSome ↔ id ∈ discussion.ids := by
  rw [find?, Option.isSome_map, List.find?_isSome, mem_ids_iff]
  simp

theorem contains_iff {discussion : Discussion} {id : CommentId} :
    discussion.contains id = true ↔ id ∈ discussion.ids :=
  find?_isSome_iff

theorem ids_eq_comments (discussion : Discussion) :
    discussion.ids = discussion.comments.map Comment.id := by
  rw [ids_eq_outline, comments_eq_outline, List.map_map]
  rfl

theorem comments_subset_of_sublist {discussion grown : Discussion}
    (kept : discussion.outline.Sublist grown.outline) : discussion.comments ⊆ grown.comments := by
  rw [comments_eq_outline, comments_eq_outline]
  exact List.map_subset _ kept.subset

/-- Where no id repeats, two comments with one id are the same comment. -/
theorem eq_of_listed {discussion : Discussion} (distinct : discussion.ids.Nodup)
    {left right : Comment} (leftListed : left ∈ discussion.comments)
    (rightListed : right ∈ discussion.comments) (same : left.id = right.id) : left = right := by
  rw [ids_eq_comments] at distinct
  exact List.inj_on_of_nodup_map distinct leftListed rightListed same

/-- Where no id repeats, looking up the id of a comment finds the comment. -/
theorem find?_of_listed {discussion : Discussion} (distinct : discussion.ids.Nodup)
    {comment : Comment} (listed : comment ∈ discussion.comments) :
    ∃ thread, discussion.find? comment.id = some thread ∧ thread.comment = comment := by
  have present : comment.id ∈ discussion.ids := by
    rw [ids_eq_comments]
    exact List.mem_map_of_mem listed
  obtain ⟨thread, found⟩ := Option.isSome_iff_exists.mp (find?_isSome_iff.mpr present)
  obtain ⟨same, depth, visited⟩ := visited_of_find? found
  have among : thread.comment ∈ discussion.comments := by
    rw [comments, walk, List.map_map]
    exact List.mem_map_of_mem visited
  exact ⟨thread, found, eq_of_listed distinct among listed same⟩

/-- Where no id repeats, two visited threads with one id are the same thread. -/
theorem eq_of_visited {discussion : Discussion} (distinct : discussion.ids.Nodup)
    {left right : Nat × Thread} (leftVisited : left ∈ discussion.visits)
    (rightVisited : right ∈ discussion.visits) (same : left.2.id = right.2.id) : left = right :=
  List.inj_on_of_nodup_map distinct leftVisited rightVisited same

/-- Where no id repeats, looking up the id of a visited thread finds the visit. -/
theorem find?_visit {discussion : Discussion} (distinct : discussion.ids.Nodup)
    {visit : Nat × Thread} (visited : visit ∈ discussion.visits) :
    (discussion.visits.find? fun other => other.2.id == visit.2.id) = some visit := by
  have present : (discussion.visits.find? fun other => other.2.id == visit.2.id).isSome := by
    rw [List.find?_isSome]
    exact ⟨visit, visited, by simp⟩
  obtain ⟨found, hit⟩ := Option.isSome_iff_exists.mp present
  have same : found.2.id = visit.2.id := by simpa using List.find?_some hit
  rw [hit, eq_of_visited distinct (List.mem_of_find?_eq_some hit) visited same]

/-- Where no id repeats, looking up the id of a visited thread finds the thread. -/
theorem find?_of_visited {discussion : Discussion} (distinct : discussion.ids.Nodup)
    {depth : Nat} {thread : Thread} (visited : (depth, thread) ∈ discussion.visits) :
    discussion.find? thread.id = some thread := by
  rw [find?, find?_visit distinct visited]
  rfl

end Discussion

namespace Discussion

/-- Marking the author's comments changes no place. -/
theorem outline_markAuthor (discussion : Discussion) (author : String) :
    (discussion.markAuthor author).outline = discussion.outline.map fun placed =>
      { placed with comment := placed.comment.mark author } :=
  Thread.outlineAll_mapAll (Comment.mark author) (fun _ => rfl) 0 none discussion.threads

theorem comments_markAuthor (discussion : Discussion) (author : String) :
    (discussion.markAuthor author).comments = discussion.comments.map (Comment.mark author) := by
  rw [comments_eq_outline, comments_eq_outline, outline_markAuthor, List.map_map, List.map_map]
  rfl

@[simp] theorem ids_markAuthor (discussion : Discussion) (author : String) :
    (discussion.markAuthor author).ids = discussion.ids := by
  rw [ids_eq_outline, ids_eq_outline, outline_markAuthor, List.map_map]
  rfl

end Discussion

theorem Thread.ids_eq_outline (depth : Nat) (parent : Option CommentId) (thread : Thread) :
    thread.ids = (thread.outline depth parent).map Placed.id := by
  rw [Thread.ids, Discussion.ids_eq_outlineAll depth parent]
  simp [Thread.outlineAll]

/-- Nothing repeats exactly if the list has no duplicates and nothing of what was seen before. -/
theorem firstRepeat?_eq_none_iff [BEq α] [LawfulBEq α] (seen values : List α) :
    firstRepeat? seen values = none ↔ values.Nodup ∧ ∀ value ∈ values, value ∉ seen := by
  induction values generalizing seen with
  | nil => simp [firstRepeat?]
  | cons value rest ih =>
      by_cases known : value ∈ seen
      · simp [firstRepeat?, known]
      · simp only [firstRepeat?, List.contains_iff_mem, known, if_false, ih, List.mem_cons,
          List.nodup_cons]
        grind

namespace Discussion

/-- Threads form a discussion exactly if no id occurs twice among them. -/
theorem ofThreads_eq_ok_iff {threads : List Thread} {discussion : Discussion} :
    ofThreads threads = .ok discussion ↔ (ids ⟨threads⟩).Nodup ∧ discussion = ⟨threads⟩ := by
  have repeated := firstRepeat?_eq_none_iff [] (ids ⟨threads⟩)
  rw [ofThreads]
  cases found : firstRepeat? [] (ids ⟨threads⟩) with
  | some id => simp_all
  | none => simp_all [eq_comm]

end Discussion

end Colloquy
