import Colloquy.Reply.OpenReply

/-!
# Delivery

Calling the backend and waiting for a limited time. A backend answers a call after a while or never;
an answer that is there when the time is up still counts. What goes out in the course of a
submission, to the backend and to whoever submits, is kept in full.
-/

namespace Colloquy

/-- How a backend treats a request, times in milliseconds. -/
inductive Response (α : Type) where
  | after (delay : Nat) (result : Except BackendError α)
  | never
  deriving Inhabited

namespace Response

/-- What a client hears that waits for a limited time. -/
def within (response : Response α) (timeout : Nat) : Except BackendError α :=
  match response with
  | after delay result => if delay ≤ timeout then result else .error (.timeout (timeout / 1000))
  | never => .error (.timeout (timeout / 1000))

/-- When a client that waits for a limited time hears something. -/
def settled (response : Response α) (timeout : Nat) : Nat :=
  match response with
  | after delay _ => min delay timeout
  | never => timeout

end Response

/-- A reply to post as the backend receives it, with the token of whoever posts it. -/
structure PostCall where
  request : PostRequest
  token : String
  deriving DecidableEq, Repr, Inhabited

/-- The call that a ticket is for. -/
def Ticket.call (ticket : Ticket) : PostCall :=
  ⟨⟨ticket.parent, ticket.content⟩, ticket.token⟩

/-- A backend that replies are posted to: how it treats the last of the calls it has received. -/
abbrev PostBackend := List PostCall → Response Json

/-- What has gone out, oldest first: the calls the backend has received, and the announcements. -/
@[ext] structure Outgoing where
  calls : List PostCall := []
  announced : List Announcement := []
  deriving DecidableEq, Repr, Inhabited

/-- Something that is done while calls and announcements go out. -/
abbrev Delivery := StateM Outgoing

namespace Delivery

/-- Make announcements. -/
def announce (made : List Announcement) : Delivery Unit :=
  modify fun outgoing => { outgoing with announced := outgoing.announced ++ made }

/-- Call the backend, and wait for its answer. -/
def post (backend : PostBackend) (timeout : Nat) (call : PostCall) : Delivery PostResult := do
  modify fun outgoing => { outgoing with calls := outgoing.calls ++ [call] }
  return (backend (← get).calls).within timeout

end Delivery

/-- What came of a whole submission: the reply, and the outcome. -/
structure Submission where
  openReply : OpenReply
  outcome : Except SubmitError ReplyOutcome

/-- Submit a reply and wait for the answer. The backend is called only for a ticket. -/
def OpenReply.submitAndWait (openReply : OpenReply) (token : Option String)
    (fresh : SubmissionNumber) (backend : PostBackend) (timeout : Nat) : Delivery Submission := do
  match openReply.submit token fresh with
  | .error cause =>
      Delivery.announce cause.announcements
      return ⟨openReply, .error cause⟩
  | .ok (locked, ticket) =>
      let result ← Delivery.post backend timeout ticket.call
      Delivery.announce (answerAnnouncements result)
      let (finished, outcome) := locked.finish result
      return ⟨finished, outcome⟩

end Colloquy
