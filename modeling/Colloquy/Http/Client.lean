import Colloquy.Listing.FromText
import Colloquy.Reply.Backend
import Colloquy.Text.Utf8

/-!
# The backend over HTTP

How the backend's two services are called: what is sent for a call, and what the response to it
means. Sending is left to whoever has a network.
-/

namespace Colloquy

/-- The service that is called. -/
inductive HttpMethod where
  | get
  | post
  deriving DecidableEq, Repr, Inhabited

/-- What is sent. -/
structure HttpRequest where
  method : HttpMethod
  url : String
  authorization : Option String := none
  contentType : Option String := none
  body : String := ""
  deriving DecidableEq, Repr, Inhabited

/-- What comes back. -/
structure HttpResponse where
  status : Nat
  body : List UInt8
  /-- The connection broke before the body was complete. -/
  broken : Bool := false
  deriving DecidableEq, Repr, Inhabited

namespace HttpResponse

/-- Whether responses of this status have a body at all. -/
def hasBody (response : HttpResponse) : Bool :=
  response.status ≠ 204 && response.status ≠ 304

/-- The body, if it is complete. -/
def complete? (response : HttpResponse) : Option (List UInt8) :=
  if !response.hasBody then some []
  else if response.broken then none
  else some response.body

/-- Whether the call succeeded. -/
def isSuccess (response : HttpResponse) : Bool :=
  200 ≤ response.status && response.status ≤ 299

/-- Why a call failed that the backend refused. -/
def refusal (response : HttpResponse) : BackendError :=
  .refused response.status
    ((response.complete?.map Text.decodeLossy).getD "unknown error")

end HttpResponse

/-- A call: what to send, and what the response means. -/
structure HttpCall (α : Type) where
  request : HttpRequest
  interpret : HttpResponse → Except BackendError α

namespace HttpCall

/-- Make a call over a network, which may fail to bring a response. -/
def perform (call : HttpCall α) (network : HttpRequest → Option HttpResponse) :
    Except BackendError α :=
  match network call.request with
  | some response => call.interpret response
  | none => .error (.network "the backend cannot be reached")

end HttpCall

/-- The services of the backend at an address. -/
structure HttpClient where
  baseUrl : String
  deriving DecidableEq, Repr, Inhabited

namespace HttpClient

/-- The services at an address; slashes at its end do not count. -/
def ofUrl (url : String) : HttpClient :=
  ⟨String.ofList (url.toList.reverse.dropWhile (· = '/')).reverse⟩

/-- Whether text can be sent in a header: it holds no control character but the tab. -/
def canBeHeader (text : String) : Bool :=
  text.toList.all fun character =>
    character = '\t' || (0x20 ≤ character.toNat && character.toNat ≠ 0x7f)

/-- The greatest nesting of a described comment that is read. -/
def nestingLimit : Nat := 127

/-- What the response to a posted reply means. -/
def interpretPost (response : HttpResponse) : Except BackendError Json :=
  if !response.isSuccess then .error response.refusal
  else
    match response.complete? with
    | none => .error (.parse "the response ends too early")
    | some body =>
        match Json.ofBytes body with
        | .ok answer =>
            if answer.nesting ≤ nestingLimit then .ok answer
            else .error (.parse "the response is nested too deeply")
        | .error _ => .error (.parse "the response is not JSON")

/-- What the response to a request for comments means. -/
def interpretListing (now : Instant) (response : HttpResponse) :
    Except BackendError (List Thread) :=
  if !response.isSuccess then .error response.refusal
  else
    match response.complete? with
    | none => .error (.network "the response ends too early")
    | some body =>
        match Listing.ofBytes body with
        | .ok entries => .ok (entries.map fun entry => entry.toThread now)
        | .error _ => .error (.parse "the response is no list of comments")

/-- Post a reply. A token that cannot be sent fails the call before anything is sent. -/
def post (client : HttpClient) (reply : PostRequest) (token : String) :
    Except BackendError (HttpCall Json) :=
  if canBeHeader token then
    .ok {
      request := {
        method := .post
        url := client.baseUrl ++ "/api/SubmitComment"
        authorization := some ("Bearer " ++ token)
        contentType := some "application/json"
        body := reply.body }
      interpret := interpretPost }
  else .error (.network "the token cannot be sent")

/-- Ask for the comments of a post. -/
def list (client : HttpClient) (postId : UInt64) (now : Instant) : HttpCall (List Thread) :=
  { request := {
      method := .get
      url := client.baseUrl ++ "/posts/" ++ toString postId.toNat ++ "/comments" }
    interpret := interpretListing now }

end HttpClient

end Colloquy
