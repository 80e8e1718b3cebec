import Colloquy.Discussion.View

/-!
# Rows

A discussion as the flat list of rows that is shown. A comment is a full row, followed by a row for
the reply under way below it and then by the rows of its replies, one level deeper; a folded comment
is a single row, and nothing beneath it is shown.
-/

namespace Colloquy

/-- What a row shows. -/
inductive RowKind where
  | full
  | folded
  | openReply
  deriving DecidableEq, Repr, Inhabited

/-- One row: the comment it belongs to, that comment's number of ancestors, and the score shown. -/
structure Row where
  comment : Comment
  depth : Nat
  kind : RowKind
  score : Int64
  deriving DecidableEq, Repr, Inhabited

namespace Row

/-- The id of the row's comment. -/
def id (row : Row) : CommentId := row.comment.id

/-- Whether the row is a comment and not a reply under way. -/
def isComment (row : Row) : Bool := row.kind != .openReply

end Row

namespace View

/-- The rows of a comment by itself. -/
def ownRows (view : View) (depth : Nat) (comment : Comment) : List Row :=
  let row (kind : RowKind) : Row := ⟨comment, depth, kind, view.scoreOf comment⟩
  if view.isFolded comment.id then [row .folded]
  else if (view.openReply? comment.id).isSome then [row .full, row .openReply]
  else [row .full]

mutual

/-- The rows of a thread. -/
def threadRows (view : View) (depth : Nat) : Thread → List Row
  | ⟨comment, replies⟩ =>
      view.ownRows depth comment ++
        if view.isFolded comment.id then [] else view.threadsRows (depth + 1) replies

/-- The rows of several threads. -/
def threadsRows (view : View) (depth : Nat) : List Thread → List Row
  | [] => []
  | thread :: rest => view.threadRows depth thread ++ view.threadsRows depth rest

end

/-- The rows of a discussion. -/
def rows (view : View) (discussion : Discussion) : List Row :=
  view.threadsRows 0 discussion.threads

end View

end Colloquy
