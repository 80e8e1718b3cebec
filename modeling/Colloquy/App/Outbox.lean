import Colloquy.App.Update
import Colloquy.Reply.Delivery

/-!
# Requests under way

What has been asked of a backend and not been answered yet. The backend is known by its responses
to the requests it will get, in order. Requests start when time next passes, each waits for its
response only so long, and what is answered turns into actions in the order of the answers.
-/

namespace Colloquy

/-- A request to the backend. -/
inductive Request where
  | fetch (postId : UInt64)
  | post (ticket : Ticket)
  deriving DecidableEq, Repr, Inhabited

/-- The request that an effect makes. -/
def Effect.request? : Effect → Option Request
  | .fetch postId => some (.fetch postId)
  | .send ticket => some (.post ticket)
  | .none | .quit => Option.none

/-- An action that happens when a request is answered or given up. -/
structure Flight where
  due : Nat
  action : Action

/-- A backend, by its responses to what it will be asked. -/
structure Backend where
  posts : List (Response Json) := []
  listings : List (Response (List Thread)) := []

/-- The response of a backend with nothing more to say. -/
def Response.exhausted : Response α := .after 0 (.error (.network "script exhausted"))

/-- Requests under way, times in milliseconds. -/
structure Outbox where
  backend : Backend := {}
  /-- How long a response is awaited. -/
  timeout : Nat
  now : Nat := 0
  /-- Requests that have not started, in order. -/
  waiting : List Request := []
  /-- Requests that have started, in order. -/
  flights : List Flight := []

namespace Outbox

/-- Take up the request that an effect makes. -/
def take (outbox : Outbox) (effect : Effect) : Outbox :=
  { outbox with waiting := outbox.waiting ++ effect.request?.toList }

/-- Start a request. -/
def start (outbox : Outbox) (request : Request) : Outbox :=
  match request with
  | .fetch _ =>
      let response := outbox.backend.listings.headD .exhausted
      { outbox with
        backend := { outbox.backend with listings := outbox.backend.listings.drop 1 }
        flights := outbox.flights ++
          [⟨outbox.now + response.settled outbox.timeout,
            .arrived (response.within outbox.timeout)⟩] }
  | .post ticket =>
      let response := outbox.backend.posts.headD .exhausted
      { outbox with
        backend := { outbox.backend with posts := outbox.backend.posts.drop 1 }
        flights := outbox.flights ++
          [⟨outbox.now + response.settled outbox.timeout,
            ticket.answered (response.within outbox.timeout)⟩] }

/-- Start all waiting requests and let time pass; gives what was sent, and the actions of what was
answered meanwhile, the earliest first and those of one time in the order of their requests. -/
def settle (outbox : Outbox) (elapsed : Nat) : Outbox × List Request × List Action :=
  let started := outbox.waiting.foldl start { outbox with waiting := [] }
  let now := outbox.now + elapsed
  let (answered, flights) := started.flights.partition fun flight => flight.due ≤ now
  let ordered := answered.mergeSort fun left right => left.due ≤ right.due
  ({ started with now, flights }, outbox.waiting, ordered.map Flight.action)

/-- Let actions happen one after the other, and take up the requests that they make. An action that
stops the program is the last one. -/
def apply (outbox : Outbox) (app : App) (moment : Moment) :
    List Action → Outbox × App × Except Fault Unit
  | [] => (outbox, app, .ok ())
  | action :: rest =>
      match app.update moment action with
      | (next, .ok effect) => (outbox.take effect).apply next moment rest
      | (next, .error fault) => (outbox, next, .error fault)

end Outbox

end Colloquy
