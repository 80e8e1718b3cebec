import Colloquy.App.State
import Colloquy.Settings.File

/-!
# Resolved settings

A setting may be given on the command line, in the environment and in the settings file, and has a
default. The first of these that gives it decides, whatever the others say.
-/

namespace Colloquy

/-- What the command line says. -/
structure CommandLine where
  baseUrl : Option String := none
  postId : Option UInt64 := none
  postAuthor : Option String := none
  deriving DecidableEq, Repr, Inhabited

/-- The variables of the environment. -/
abbrev Environment := String → Option String

/-- The settings that the program runs with. -/
structure Settings where
  baseUrl : String
  timeoutSeconds : Nat
  /-- A token that needs no looking up. -/
  token : Option String
  /-- Where credentials are looked up if no token is given. -/
  sessionDirectory : Option String
  postId : UInt64
  postAuthor : Option String
  placement : Placement
  deriving DecidableEq, Repr, Inhabited

namespace Settings

/-- Where the backend is by default. -/
def defaultBaseUrl : String := "http://localhost:8080"

/-- How long an answer is awaited by default. -/
def defaultTimeoutSeconds : Nat := 30

/-- The post that is shown by default. -/
def defaultPostId : UInt64 := 1

/-- The session directory by default, below somebody's home. -/
def defaultSessionDirectory (home : String) : String :=
  joinPath (FileSettings.programDirectory home) "session"

/-- A number written in decimal digits. -/
def numberOfDigits? (digits : List Char) : Option Nat :=
  if digits.isEmpty || !digits.all Char.isDigit then none
  else some (digits.foldl (fun value digit => value * 10 + (digit.toNat - '0'.toNat)) 0)

/-- The id of a post in decimal digits, with blanks around it and perhaps a plus before it. -/
def postIdOfText? (text : String) : Option UInt64 := do
  let digits :=
    match (Text.trim text).toList with
    | '+' :: digits => digits
    | digits => digits
  let value ← numberOfDigits? digits
  if value < UInt64.size then some value.toUInt64 else none

/-- Decide every setting. -/
def resolve (file : FileSettings) (commandLine : CommandLine) (environment : Environment)
    (home : Option String) : Settings :=
  { baseUrl :=
      ((commandLine.baseUrl.or (environment "THREADLINE_BASE_URL")).or file.baseUrl).getD
        defaultBaseUrl
    timeoutSeconds := file.timeoutSeconds.getD defaultTimeoutSeconds
    token := (environment "THREADLINE_AUTH_TOKEN").or file.token
    sessionDirectory := file.sessionDirectory.or (home.map defaultSessionDirectory)
    postId :=
      ((commandLine.postId.or ((environment "THREADLINE_POST_ID").bind postIdOfText?)).or
        file.postId).getD defaultPostId
    postAuthor := commandLine.postAuthor.or file.postAuthor
    placement := file.placement.getD .newestLast }

/-- Where credentials are looked up: a token that is given decides, even a blank one. -/
def session (settings : Settings) (home : Option String) : Session :=
  match settings.token with
  | some token => .memory (some token)
  | none =>
      match settings.sessionDirectory.or (home.map defaultSessionDirectory) with
      | some path => .directory path
      | none => .memory none

/-- The application at its start. -/
def app (settings : Settings) (home : Option String) : App :=
  { session := settings.session home
    postId := settings.postId
    postAuthor := settings.postAuthor
    placement := settings.placement
    timeoutSeconds := settings.timeoutSeconds }

end Settings

end Colloquy
