import Colloquy.Discussion.Walk

/-!
# Building and growing a discussion

A discussion holds every id at most once. Comments from outside are checked when a discussion is
built from them and when a reply is put below one of its comments.
-/

namespace Colloquy

/-- Why comments cannot form a discussion. -/
inductive DiscussionError where
  /-- The id occurs before. -/
  | idInUse (id : CommentId)
  /-- There is no comment with this id to reply to. -/
  | noSuchParent (id : CommentId)
  deriving DecidableEq, Repr

/-- The text of an error. -/
def DiscussionError.message : DiscussionError → String
  | idInUse id => "duplicate comment id " ++ toString id.toNat
  | noSuchParent id => "no comment with id " ++ toString id.toNat ++ " to reply to"

/-- Where a new reply goes among its siblings. -/
inductive Placement where
  | newestLast
  | newestFirst
  deriving DecidableEq, Repr, Inhabited

/-- Put a reply among its siblings. -/
def Placement.place (placement : Placement) (reply : Thread) (siblings : List Thread) :
    List Thread :=
  match placement with
  | newestLast => siblings ++ [reply]
  | newestFirst => reply :: siblings

namespace Thread

mutual

/-- Put a reply below the first comment with the given id, in pre-order. -/
def insert? (parent : CommentId) (reply : Thread) (placement : Placement) :
    Thread → Option Thread
  | ⟨comment, replies⟩ =>
      if comment.id = parent then some ⟨comment, placement.place reply replies⟩
      else (insertAny? parent reply placement replies).map fun replies => ⟨comment, replies⟩

/-- Put a reply into the first of several threads that has a comment with the given id. -/
def insertAny? (parent : CommentId) (reply : Thread) (placement : Placement) :
    List Thread → Option (List Thread)
  | [] => none
  | thread :: rest =>
      match insert? parent reply placement thread with
      | some grown => some (grown :: rest)
      | none => (insertAny? parent reply placement rest).map fun rest => thread :: rest

end

end Thread

namespace Discussion

/-- The discussion of the given threads, if no id occurs twice. -/
def ofThreads (threads : List Thread) : Except DiscussionError Discussion :=
  match firstRepeat? [] (Discussion.ids ⟨threads⟩) with
  | some id => .error (.idInUse id)
  | none => .ok ⟨threads⟩

/-- The first id of a reply that occurs earlier in the reply or anywhere in the discussion. -/
def firstClash? (discussion : Discussion) : List CommentId → List CommentId → Option CommentId
  | _, [] => none
  | seen, id :: rest =>
      if seen.contains id || discussion.contains id then some id
      else discussion.firstClash? (id :: seen) rest

/-- Put a reply, with any replies of its own, below a comment. -/
def addReply (discussion : Discussion) (parent : CommentId) (reply : Thread)
    (placement : Placement) : Except DiscussionError Discussion :=
  match discussion.firstClash? [] reply.ids with
  | some id => .error (.idInUse id)
  | none =>
      match Thread.insertAny? parent reply placement discussion.threads with
      | some threads => .ok ⟨threads⟩
      | none => .error (.noSuchParent parent)

/-- The number of comments in words. -/
def countLabel (count : Nat) : String :=
  if count = 1 then "1 comment" else toString count ++ " comments"

end Discussion

end Colloquy
