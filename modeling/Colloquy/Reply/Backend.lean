import Colloquy.Discussion.Comment
import Colloquy.Json.Basic

/-!
# The comment backend

What is asked of the backend, and how asking can fail. A posted reply is answered with the
backend's own description of the new comment, which is kept as it came.
-/

namespace Colloquy

/-- Why a request to the backend failed. -/
inductive BackendError where
  /-- The client is set up wrongly. -/
  | config (message : String)
  /-- The backend could not be reached, or the connection broke. -/
  | network (message : String)
  /-- The backend refused, with a status outside 200 to 299. -/
  | refused (status : Nat) (message : String)
  /-- The answer is not the JSON that was expected. -/
  | parse (message : String)
  /-- No answer came in time. -/
  | timeout (seconds : Nat)
  deriving DecidableEq, Repr, Inhabited

/-- The text of an error. -/
def BackendError.message : BackendError → String
  | config message => "config error: " ++ message
  | network message => "network error: " ++ message
  | refused status message => "API error (HTTP " ++ toString status ++ "): " ++ message
  | parse message => "parse error: " ++ message
  | timeout seconds => "request timed out after " ++ toString seconds ++ "s"

/-- The answer to a posted reply. -/
abbrev PostResult := Except BackendError Json

/-- The answer to a request for the comments of a post. -/
abbrev ListingResult := Except BackendError (List Thread)

/-- A reply as it is posted. -/
structure PostRequest where
  parent : CommentId
  content : String
  deriving DecidableEq, Repr, Inhabited

/-- The JSON text of a posted reply. -/
def PostRequest.body (request : PostRequest) : String :=
  "\x7b\"parentId\":" ++ toString request.parent.toNat ++ ",\"content\":" ++
    Json.quoteText request.content ++ "\x7d"

end Colloquy
