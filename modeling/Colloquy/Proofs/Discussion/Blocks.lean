import Colloquy.Discussion.Sample
import Colloquy.Proofs.Discussion.Lineage

/-!
# The walk and its blocks

The walk from an agenda is the plain recursion on the threads: it visits every comment once, in
pre-order, and tells how many comments stand above it. A thread is one block of the walk. It starts
with the thread's first comment and goes on as long as comments stand deeper; every question about a
comment is answered by its block.
-/

namespace Colloquy

namespace Thread

/-- What follows a comment of the given depth and all that is below it does not stand deeper. -/
def NotDeeper (depth : Nat) (after : List (Nat × Thread)) : Prop :=
  ∀ visit ∈ after.head?, visit.1 ≤ depth

theorem NotDeeper.append {depth : Nat} {left right : List (Nat × Thread)}
    (first : NotDeeper depth left) (second : NotDeeper depth right) :
    NotDeeper depth (left ++ right) := by
  cases left with
  | nil => exact second
  | cons visit rest => exact first

theorem notDeeper_visitsAll {depth lower : Nat} (order : depth ≤ lower) (threads : List Thread) :
    NotDeeper lower (visitsAll depth threads) := by
  cases threads with
  | nil => simp [NotDeeper, visitsAll]
  | cons thread rest => simpa [NotDeeper, visitsAll, visits_eq] using order

mutual

/-- The comments of a thread stand no higher than its first one. -/
theorem depth_le_of_mem_visits (depth : Nat) : (thread : Thread) → {visit : Nat × Thread} →
    visit ∈ thread.visits depth → depth ≤ visit.1
  | ⟨comment, replies⟩, visit, visited => by
      rcases List.mem_cons.mp visited with rfl | deeper
      · exact Nat.le.refl
      · exact Nat.le_of_succ_le (depth_le_of_mem_visitsAll (depth + 1) replies deeper)

theorem depth_le_of_mem_visitsAll (depth : Nat) : (threads : List Thread) →
    {visit : Nat × Thread} → visit ∈ visitsAll depth threads → depth ≤ visit.1
  | [], visit, visited => by simp [visitsAll] at visited
  | thread :: rest, visit, visited => by
      rcases List.mem_append.mp visited with inThread | inRest
      · exact depth_le_of_mem_visits depth thread inThread
      · exact depth_le_of_mem_visitsAll depth rest inRest

end

mutual

/-- A visited thread is a block of the visits, up to a comment that does not stand deeper. -/
theorem exists_block (depth : Nat) : (thread : Thread) → {visit : Nat × Thread} →
    visit ∈ thread.visits depth →
      ∃ before after, thread.visits depth = before ++ visit.2.visits visit.1 ++ after ∧
        NotDeeper visit.1 after
  | ⟨comment, replies⟩, visit, visited => by
      rcases List.mem_cons.mp visited with rfl | deeper
      · exact ⟨[], [], by simp, by simp [NotDeeper]⟩
      · obtain ⟨before, after, split, ends⟩ := exists_blockAll (depth + 1) replies deeper
        exact ⟨(depth, ⟨comment, replies⟩) :: before, after, by rw [visits, split]; rfl, ends⟩

theorem exists_blockAll (depth : Nat) : (threads : List Thread) → {visit : Nat × Thread} →
    visit ∈ visitsAll depth threads →
      ∃ before after, visitsAll depth threads = before ++ visit.2.visits visit.1 ++ after ∧
        NotDeeper visit.1 after
  | [], visit, visited => by simp [visitsAll] at visited
  | thread :: rest, visit, visited => by
      rcases List.mem_append.mp visited with inThread | inRest
      · obtain ⟨before, after, split, ends⟩ := exists_block depth thread inThread
        have order := depth_le_of_mem_visits depth thread inThread
        refine ⟨before, after ++ visitsAll depth rest, ?_,
          ends.append (notDeeper_visitsAll order rest)⟩
        rw [visitsAll, split, List.append_assoc _ after]
      · obtain ⟨before, after, split, ends⟩ := exists_blockAll depth rest inRest
        refine ⟨thread.visits depth ++ before, after, ?_, ends⟩
        rw [visitsAll, split]
        simp only [List.append_assoc]

end

mutual

theorem length_visits (depth : Nat) : (thread : Thread) →
    (thread.visits depth).length = thread.size
  | ⟨comment, replies⟩ => by
      rw [visits, size, List.length_cons, length_visitsAll (depth + 1) replies, Nat.add_comm]

theorem length_visitsAll (depth : Nat) : (threads : List Thread) →
    (visitsAll depth threads).length = sizeAll threads
  | [] => rfl
  | thread :: rest => by
      rw [visitsAll, sizeAll, List.length_append, length_visits depth thread,
        length_visitsAll depth rest]

end

end Thread

namespace Discussion

variable {discussion : Discussion}

/-- A thread as a block of the walk: its first comment, then comments that stand deeper, up to one
that does not. -/
structure Block (discussion : Discussion) (depth : Nat) (thread : Thread)
    (before below after : List (Nat × Thread)) : Prop where
  split : discussion.visits = before ++ (depth, thread) :: below ++ after
  deeper : ∀ visit ∈ below, depth < visit.1
  ends : Thread.NotDeeper depth after

theorem exists_block {depth : Nat} {thread : Thread}
    (visited : (depth, thread) ∈ discussion.visits) :
    ∃ before after, discussion.Block depth thread before
      (Thread.visitsAll (depth + 1) thread.replies) after := by
  rw [visits_eq] at visited
  obtain ⟨before, after, split, ends⟩ := Thread.exists_blockAll 0 discussion.threads visited
  rw [← visits_eq, Thread.visits_eq] at split
  exact ⟨before, after, split,
    fun visit within => Thread.depth_le_of_mem_visitsAll (depth + 1) thread.replies within, ends⟩

/-- An id that no comment has is not found. -/
theorem find?_visit_eq_none {id : CommentId} (absent : id ∉ discussion.ids) :
    (discussion.visits.find? fun visit => visit.2.id == id) = none := by
  rw [List.find?_eq_none]
  intro visit visited same
  exact absent (mem_ids_iff.mpr ⟨visit, visited, by simpa using same⟩)

/-- The walk is the recursion on the threads: each comment once, in pre-order, with the number of
comments above it. Where no id repeats, each thread is a block of the walk, and the block tells where
the thread is found, how deep it stands, what is below its first comment, and its size. An id that no
comment has is not found anywhere. -/
theorem walk_in_blocks (discussion : Discussion) :
    discussion.visits = Thread.visitsAll 0 discussion.threads ∧
    discussion.walk = discussion.lineages.map
      (fun lineage => (lineage.above.length, lineage.comment)) ∧
    discussion.size = Thread.sizeAll discussion.threads ∧
    (discussion.ids.Nodup → ∀ id,
      (id ∈ discussion.ids → ∃ depth thread before below after,
        discussion.Block depth thread before below after ∧ thread.id = id ∧
        discussion.find? id = some thread ∧ discussion.depth? id = some depth ∧
        discussion.descendants id = below.map (fun visit => visit.2.id) ∧
        thread.size = below.length + 1) ∧
      (id ∉ discussion.ids → discussion.find? id = none ∧ discussion.depth? id = none ∧
        discussion.descendants id = [])) := by
  refine ⟨visits_eq discussion, walk_eq_lineages discussion, ?_, fun distinct id => ⟨?_, ?_⟩⟩
  · rw [size, visits_eq, Thread.length_visitsAll]
  · intro listed
    obtain ⟨⟨depth, thread⟩, visited, rfl⟩ := mem_ids_iff.mp listed
    obtain ⟨before, after, block⟩ := exists_block visited
    have hit := find?_visit distinct visited
    have found : discussion.find? thread.id = some thread := by rw [find?, hit]; rfl
    refine ⟨depth, thread, before, _, after, block, rfl, found, ?_, ?_, ?_⟩
    · rw [depth?, hit]
      rfl
    · simp only [descendants, found]
      rw [ids_eq_outlineAll 0 none, Thread.map_id_visitsAll]
    · rw [Thread.length_visitsAll, Thread.size_eq, Nat.add_comm]
  · intro absent
    have missing := find?_visit_eq_none absent
    have unfound : discussion.find? id = none := by rw [find?, missing]; rfl
    refine ⟨unfound, ?_, ?_⟩
    · rw [depth?, missing]
      rfl
    · simp only [descendants, unfound]

/-- An answered reply of the sample, and an id that no comment of it has. -/
theorem walk_in_blocks_answered :
    (ids ⟨sampleThreads⟩).Nodup ∧
    (∃ thread before below after, Block ⟨sampleThreads⟩ 1 thread before below after ∧
      find? ⟨sampleThreads⟩ 11 = some thread ∧ thread.size = 2 ∧
      below.map (fun visit => visit.2.id) = [111]) ∧
    find? ⟨sampleThreads⟩ 7 = none ∧ descendants ⟨sampleThreads⟩ 7 = [] := by
  have distinct : (ids ⟨sampleThreads⟩).Nodup := by decide +kernel
  have blocks := (walk_in_blocks ⟨sampleThreads⟩).2.2.2 distinct
  obtain ⟨depth, thread, before, below, after, block, -, found, located, listed, size⟩ :=
    (blocks 11).1 (by decide +kernel)
  have place : depth? ⟨sampleThreads⟩ 11 = some 1 := by decide +kernel
  have answers : descendants ⟨sampleThreads⟩ 11 = [111] := by decide +kernel
  obtain rfl : depth = 1 := Option.some.inj (located.symm.trans place)
  have only : below.map (fun visit => visit.2.id) = [111] := listed.symm.trans answers
  have one : below.length = 1 := by simpa using congrArg List.length only
  have absent := (blocks 7).2 (by decide +kernel)
  exact ⟨distinct, ⟨thread, before, below, after, block, found, by rw [size, one], only⟩,
    absent.1, absent.2.2⟩

end Discussion

end Colloquy
