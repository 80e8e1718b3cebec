/-!
# Comments and threads

A comment is what one person wrote. A thread is a comment with the threads of its replies, in the
order in which they are shown. What a reader has folded away, voted or typed is not kept here.
-/

namespace Colloquy

/-- The number that names a comment within a discussion. -/
abbrev CommentId := UInt64

/-- One comment as received. -/
structure Comment where
  id : CommentId
  /-- Handle of the author. -/
  author : String
  body : String
  /-- Age as shown to the reader. -/
  label : String
  /-- Score as received, without the reader's own votes. -/
  score : Int64
  /-- Written by the author of the post under discussion. -/
  byPostAuthor : Bool
  deriving DecidableEq, Repr, Inhabited

/-- Mark a comment that is by the post's author, given by handle, and unmark any other. -/
def Comment.mark (author : String) (comment : Comment) : Comment :=
  { comment with byPostAuthor := comment.author == author }

/-- A comment together with the threads below it. -/
structure Thread where
  comment : Comment
  replies : List Thread
  deriving Repr, Inhabited

namespace Thread

/-- The id of the thread's first comment. -/
def id (thread : Thread) : CommentId := thread.comment.id

mutual

/-- Number of comments in a thread. -/
def size : Thread → Nat
  | ⟨_, replies⟩ => 1 + sizeAll replies

/-- Number of comments in several threads. -/
def sizeAll : List Thread → Nat
  | [] => 0
  | thread :: rest => thread.size + sizeAll rest

end

mutual

/-- The comments of a thread in pre-order, each with its number of ancestors. -/
def preorder (depth : Nat) : Thread → List (Nat × Comment)
  | ⟨comment, replies⟩ => (depth, comment) :: preorderAll (depth + 1) replies

/-- The comments of several threads in pre-order. -/
def preorderAll (depth : Nat) : List Thread → List (Nat × Comment)
  | [] => []
  | thread :: rest => thread.preorder depth ++ preorderAll depth rest

end

mutual

/-- Change every comment of a thread, keeping its shape. -/
def mapComments (change : Comment → Comment) : Thread → Thread
  | ⟨comment, replies⟩ => ⟨change comment, mapAll change replies⟩

/-- Change every comment of several threads. -/
def mapAll (change : Comment → Comment) : List Thread → List Thread
  | [] => []
  | thread :: rest => thread.mapComments change :: mapAll change rest

end

@[simp] theorem sizeAll_append (left right : List Thread) :
    sizeAll (left ++ right) = sizeAll left + sizeAll right := by
  induction left with
  | nil => simp [sizeAll]
  | cons thread rest ih => simp [sizeAll, ih, Nat.add_assoc]

theorem size_eq (thread : Thread) : thread.size = 1 + sizeAll thread.replies := by
  cases thread
  rfl

end Thread

end Colloquy
