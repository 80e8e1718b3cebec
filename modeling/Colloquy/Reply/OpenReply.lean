import Colloquy.Reply.Backend
import Colloquy.Reply.Notice
import Colloquy.Text.Blank

/-!
# Replies under way

The text of a reply to one comment, from the first character to the backend's answer. Submitting
locks the reply and yields a ticket, the whole of what has to be sent; the answer to the ticket
unlocks it. Submissions are numbered, so that an answer is never mistaken for the answer to a later
submission below the same comment.
-/

namespace Colloquy

/-- The number of a submission. The counter behind it has 64 bits and starts over when they are used
up, so that a number stands for one submission as long as there are fewer than 2^64 of them. -/
abbrev SubmissionNumber := Nat

/-- What has to be sent for one submission. -/
structure Ticket where
  submission : SubmissionNumber
  parent : CommentId
  content : String
  token : String
  deriving DecidableEq, Repr, Inhabited

/-- The reply being written below one comment, and the submission whose answer is awaited. -/
structure OpenReply where
  parent : CommentId
  content : String := ""
  awaiting : Option SubmissionNumber := none
  deriving DecidableEq, Repr, Inhabited

/-- What becomes of a reply: it is discarded, or it is posted and the backend answers. -/
inductive ReplyOutcome where
  | cancelled
  | posted (answer : Json)

/-- Why a submission did not succeed. -/
inductive SubmitError where
  /-- There is nothing but blanks. Nothing was sent. -/
  | blankText
  /-- Nobody is logged in. Nothing was sent. -/
  | notLoggedIn
  /-- The last submission is not answered yet. Nothing was sent. -/
  | stillPosting
  /-- The backend could not be asked, or refused. -/
  | transport (cause : BackendError)
  deriving DecidableEq, Repr, Inhabited

namespace SubmitError

/-- The text of an error. -/
def message : SubmitError → String
  | blankText => "reply is empty"
  | notLoggedIn => "not logged in"
  | stillPosting => "submission already in flight"
  | transport cause => "failed to post reply: " ++ cause.message

/-- What is announced for an error; a second submission is ignored in silence. -/
def announcements : SubmitError → List Announcement
  | blankText => [⟨.error, "Reply cannot be empty."⟩]
  | notLoggedIn => [⟨.error, "You must be logged in to reply."⟩]
  | stillPosting => []
  | transport _ => [⟨.error, "Failed to send reply. Please try again."⟩]

end SubmitError

/-- What is announced for the backend's answer to a reply. -/
def answerAnnouncements : PostResult → List Announcement
  | .ok _ => [⟨.success, "Reply posted!"⟩]
  | .error cause => (SubmitError.transport cause).announcements

namespace OpenReply

/-- Whether an answer is awaited. -/
def isPosting (reply : OpenReply) : Bool :=
  reply.awaiting.isSome

/-- Whether the reply awaits the answer to a submission. -/
def isAwaiting (reply : OpenReply) (submission : SubmissionNumber) : Bool :=
  reply.awaiting == some submission

/-- Whether submitting is offered. -/
def isReady (reply : OpenReply) : Bool :=
  !reply.isPosting && !Text.allBlank reply.content

/-- Start a submission under a fresh number, given the token of whoever is logged in. -/
def submit (reply : OpenReply) (token : Option String) (fresh : SubmissionNumber) :
    Except SubmitError (OpenReply × Ticket) :=
  if reply.isPosting then .error .stillPosting
  else if Text.allBlank reply.content then .error .blankText
  else
    match token with
    | none => .error .notLoggedIn
    | some token =>
        .ok ({ reply with awaiting := some fresh },
          ⟨fresh, reply.parent, reply.content, token⟩)

/-- A submission that starts locks the reply and yields a ticket for what is written. -/
theorem submit_eq_ok_iff {reply locked : OpenReply} {token : Option String}
    {fresh : SubmissionNumber} {ticket : Ticket} :
    reply.submit token fresh = .ok (locked, ticket) ↔
      reply.awaiting = none ∧ Text.allBlank reply.content = false ∧
        ∃ bearer, token = some bearer ∧ locked = { reply with awaiting := some fresh } ∧
          ticket = ⟨fresh, reply.parent, reply.content, bearer⟩ := by
  cases awaiting : reply.awaiting with
  | some number => simp [submit, isPosting, awaiting]
  | none =>
      cases blank : Text.allBlank reply.content with
      | true => simp [submit, isPosting, awaiting, blank]
      | false =>
          cases token with
          | none => simp [submit, isPosting, awaiting, blank]
          | some bearer => simp [submit, isPosting, awaiting, blank, eq_comm]

/-- Apply the backend's answer: the reply is unlocked, and emptied if it was posted. -/
def finish (reply : OpenReply) (result : PostResult) :
    OpenReply × Except SubmitError ReplyOutcome :=
  match result with
  | .ok answer => ({ reply with content := "", awaiting := none }, .ok (.posted answer))
  | .error cause => ({ reply with awaiting := none }, .error (.transport cause))

end OpenReply

namespace Notices

/-- Give the notice that goes with an error, if any. -/
def pushError (queue : Notices) (error : SubmitError) (now : Nat) : Notices :=
  queue.announce error.announcements now

/-- Give the notice that goes with the backend's answer to a reply. -/
def pushResult (queue : Notices) (result : PostResult) (now : Nat) : Notices :=
  queue.announce (answerAnnouncements result) now

end Notices

end Colloquy
