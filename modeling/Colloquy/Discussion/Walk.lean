import Colloquy.Discussion.Comment

/-!
# Walking a discussion

Threads are visited in pre-order from an agenda: the threads still to visit, each with its depth.
Visiting a thread puts its replies in front of the agenda, so chains of any depth are walked in
constant stack space. Every query of a discussion is a question about this walk.
-/

namespace Colloquy

/-- Threads still to visit, each with its number of ancestors. -/
abbrev Agenda := List (Nat × Thread)

namespace Agenda

/-- Threads at one depth. -/
def ofThreads (depth : Nat) (threads : List Thread) : Agenda :=
  threads.map fun thread => (depth, thread)

/-- Number of comments still to visit. -/
def size (agenda : Agenda) : Nat :=
  Thread.sizeAll (agenda.map Prod.snd)

theorem size_ofThreads_append (depth : Nat) (threads : List Thread) (agenda : Agenda) :
    size (ofThreads depth threads ++ agenda) = Thread.sizeAll threads + size agenda := by
  have forget : (ofThreads depth threads).map Prod.snd = threads := by
    simp [ofThreads, Function.comp_def]
  simp [size, forget]

/-- Visit everything on the agenda. -/
def walk : Agenda → List (Nat × Thread)
  | [] => []
  | (depth, thread) :: rest =>
      (depth, thread) :: walk (ofThreads (depth + 1) thread.replies ++ rest)
  termination_by agenda => agenda.size
  decreasing_by
    rw [size_ofThreads_append]
    simp only [size, List.map_cons, Thread.sizeAll, Thread.size_eq thread]
    omega

end Agenda

/-- The first element of a list that occurs earlier in it. -/
def firstRepeat? [BEq α] : List α → List α → Option α
  | _, [] => none
  | seen, value :: rest =>
      if seen.contains value then some value else firstRepeat? (value :: seen) rest

/-- The threads of one post, in order. -/
structure Discussion where
  threads : List Thread := []
  deriving Repr, Inhabited

namespace Discussion

/-- Every thread in pre-order, each with its number of ancestors. -/
def visits (discussion : Discussion) : List (Nat × Thread) :=
  (Agenda.ofThreads 0 discussion.threads).walk

/-- Every comment in pre-order, each with its number of ancestors. -/
def walk (discussion : Discussion) : List (Nat × Comment) :=
  discussion.visits.map fun visit => (visit.1, visit.2.comment)

/-- The ids in pre-order. -/
def ids (discussion : Discussion) : List CommentId :=
  discussion.visits.map fun visit => visit.2.id

/-- Number of comments at every depth. -/
def size (discussion : Discussion) : Nat :=
  discussion.visits.length

/-- Whether nobody has commented. -/
def isEmpty (discussion : Discussion) : Bool :=
  discussion.threads.isEmpty

/-- The thread that starts with the given comment. -/
def find? (discussion : Discussion) (id : CommentId) : Option Thread :=
  (discussion.visits.find? fun visit => visit.2.id == id).map Prod.snd

/-- Whether a comment with this id exists. -/
def contains (discussion : Discussion) (id : CommentId) : Bool :=
  (discussion.find? id).isSome

/-- Number of ancestors of a comment. -/
def depth? (discussion : Discussion) (id : CommentId) : Option Nat :=
  (discussion.visits.find? fun visit => visit.2.id == id).map Prod.fst

/-- The ids strictly below a comment, in pre-order. -/
def descendants (discussion : Discussion) (id : CommentId) : List CommentId :=
  match discussion.find? id with
  | some thread => Discussion.ids ⟨thread.replies⟩
  | none => []

/-- Mark the comments of the post's author, given by handle, and no others. -/
def markAuthor (discussion : Discussion) (author : String) : Discussion :=
  ⟨Thread.mapAll (Comment.mark author) discussion.threads⟩

end Discussion

namespace Thread

/-- The ids of a thread in pre-order. -/
def ids (thread : Thread) : List CommentId :=
  Discussion.ids ⟨[thread]⟩

/-- Mark the first comment of a thread if it is by the post's author, given by handle. -/
def markRoot (thread : Thread) (author : String) : Thread :=
  { thread with comment := thread.comment.mark author }

end Thread

end Colloquy
