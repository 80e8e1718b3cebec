import Colloquy.Files
import Colloquy.Text.Blank

/-!
# Sessions

Credentials of whoever is logged in, looked up by key: in memory, or in a directory with one file a
key, which is read again at every lookup. A blank credential counts as absent.
-/

namespace Colloquy

/-- Text that has something to it. -/
def nonBlank? (text : String) : Option String :=
  if Text.allBlank text then none else some text

/-- Where credentials are looked up. -/
inductive Session where
  /-- Only a token is known, if any. -/
  | memory (token : Option String)
  /-- Every key is a file in a directory. -/
  | directory (path : String)
  deriving Repr

namespace Session

/-- The key of the token that authorises replies. -/
def tokenKey : String := "authToken"

/-- Look up a key among the files there are now. A token in memory is given as it is; the content
of a file is given without the blanks around it. -/
def lookup? (session : Session) (files : FileTree) (key : String) : Option String :=
  match session with
  | memory token => if key = tokenKey then token.bind nonBlank? else none
  | directory path => do
      let text ← files.readText? (joinPath path key)
      nonBlank? (Text.trim text)

/-- The token of whoever is logged in. -/
def token? (session : Session) (files : FileTree) : Option String :=
  session.lookup? files tokenKey

end Session

end Colloquy
