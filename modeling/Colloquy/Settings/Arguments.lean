import Colloquy.Settings.Resolved

/-!
# Command line

The options of the program. A value follows its option as the next argument, or behind an equals
sign in the same one.
-/

namespace Colloquy

/-- What the program was asked to do. -/
structure Arguments where
  commandLine : CommandLine := {}
  /-- Show the sample discussion. -/
  demo : Bool := false
  /-- Only say how to use the program. -/
  help : Bool := false
  deriving DecidableEq, Repr, Inhabited

/-- Why the program cannot be run like this. -/
inductive ArgumentError where
  | unexpected (argument : String)
  | valueMissing (option : String)
  | notANumber (option value : String)
  deriving DecidableEq, Repr

/-- The text of an error. -/
def ArgumentError.message : ArgumentError → String
  | unexpected argument => "unexpected argument: " ++ argument
  | valueMissing option => "a value is required for " ++ option
  | notANumber option value => "not a post id for " ++ option ++ ": " ++ value

namespace Arguments

/-- How to use the program. -/
def usage : String :=
  "Browse and reply to a threaded comment section\n\n" ++
    "  -p, --post <POST>          Post whose comments to show\n" ++
    "      --base-url <BASE_URL>  Comment backend base URL\n" ++
    "      --op <OP>              Post author, highlighted as OP\n" ++
    "      --demo                 Show the built-in sample thread instead of fetching one\n" ++
    "  -h, --help                 Print help\n"

/-- An option in front of an equals sign, and the value behind it. -/
def splitValue? (argument : String) : Option (String × String) :=
  let characters := argument.toList
  if argument.startsWith "--" && characters.contains '=' then
    some (String.ofList (characters.takeWhile (· ≠ '=')),
      String.ofList ((characters.dropWhile (· ≠ '=')).drop 1))
  else none

/-- Give an option its value. -/
def withValue (arguments : Arguments) (option value : String) : Except ArgumentError Arguments :=
  let commandLine := arguments.commandLine
  match option with
  | "-p" | "--post" =>
      match Settings.postIdOfText? value with
      | some id => .ok { arguments with commandLine := { commandLine with postId := some id } }
      | none => .error (.notANumber option value)
  | "--base-url" =>
      .ok { arguments with commandLine := { commandLine with baseUrl := some value } }
  | "--op" => .ok { arguments with commandLine := { commandLine with postAuthor := some value } }
  | _ => .error (.unexpected option)

/-- Whether an option takes a value. -/
def takesValue (option : String) : Bool :=
  ["-p", "--post", "--base-url", "--op"].contains option

/-- Read arguments after those that were read. -/
def readFrom : Arguments → List String → Except ArgumentError Arguments
  | arguments, [] => .ok arguments
  | arguments, "--demo" :: rest => readFrom { arguments with demo := true } rest
  | arguments, "-h" :: rest => readFrom { arguments with help := true } rest
  | arguments, "--help" :: rest => readFrom { arguments with help := true } rest
  | arguments, [last] =>
      match splitValue? last with
      | some (option, value) => arguments.withValue option value
      | none => .error (if takesValue last then .valueMissing last else .unexpected last)
  | arguments, argument :: next :: rest =>
      match splitValue? argument with
      | some (option, value) =>
          match arguments.withValue option value with
          | .ok arguments => readFrom arguments (next :: rest)
          | .error cause => .error cause
      | none =>
          match arguments.withValue argument next with
          | .ok arguments => readFrom arguments rest
          | .error cause => .error cause

/-- Read the command line. -/
def read (arguments : List String) : Except ArgumentError Arguments :=
  readFrom {} arguments

end Arguments

end Colloquy
