import Colloquy.Calendar.Instant
import Colloquy.Discussion.Row
import Colloquy.Reply.Session

/-!
# Application state

One discussion as one reader sees it: the comments, what the reader did to them, notices, who is
logged in, and what the title says. State changes only through `App.update`.
-/

namespace Colloquy

/-- The surroundings of a step: the time of day, a clock that never runs backwards in nanoseconds,
and the files there are. -/
structure Moment where
  wall : Instant := ⟨0, 0⟩
  ticks : Nat := 0
  files : FileTree := {}
  deriving Repr

/-- The state of the application. -/
structure App where
  discussion : Discussion := {}
  view : View := {}
  notices : Notices := {}
  session : Session
  /-- The post under discussion. -/
  postId : UInt64 := 1
  /-- Handle of the post's author, whose comments are marked. -/
  postAuthor : Option String := none
  /-- Where a posted reply goes among its siblings. -/
  placement : Placement := .newestLast
  /-- How long an answer of the backend is awaited. -/
  timeoutSeconds : Nat := 30
  /-- What the title says about the discussion. -/
  status : String := ""
  /-- The comments have been asked for and have not arrived. -/
  loading : Bool := false
  /-- Why there are no comments to show. -/
  loadError : Option String := none
  /-- The number of the next submission. -/
  nextSubmission : SubmissionNumber := 1

namespace App

/-- Mark the comments of the post's author, if the author is known. -/
def markPostAuthor (postAuthor : Option String) (discussion : Discussion) : Discussion :=
  match postAuthor with
  | some author => discussion.markAuthor author
  | none => discussion

/-- Mark a reply if it is by the post's author and the author is known. -/
def markReply (postAuthor : Option String) (reply : Thread) : Thread :=
  match postAuthor with
  | some author => reply.markRoot author
  | none => reply

/-- Show a known discussion from the start. -/
def withDiscussion (app : App) (discussion : Discussion) : App :=
  { app with
    discussion := markPostAuthor app.postAuthor discussion
    view := {}
    status := Discussion.countLabel discussion.size }

/-- The rows that are shown. -/
def rows (app : App) : List Row :=
  app.view.rows app.discussion

/-- Whether any reply is being posted. -/
def isPosting (app : App) : Bool :=
  app.view.openReplies.any fun entry => entry.2.isPosting

end App

end Colloquy
