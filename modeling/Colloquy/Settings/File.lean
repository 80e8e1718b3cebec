import Colloquy.Discussion.Insert
import Colloquy.Files
import Colloquy.Toml.Document

/-!
# The settings file

Every setting in the file is optional, and what the file says beyond the settings is ignored. A
setting of the wrong kind makes the whole file unusable. Where there is no file, one that explains
the settings is left for the reader to fill in.
-/

namespace Colloquy

/-- What a settings file says. -/
structure FileSettings where
  baseUrl : Option String := none
  timeoutSeconds : Option Nat := none
  token : Option String := none
  sessionDirectory : Option String := none
  postId : Option UInt64 := none
  postAuthor : Option String := none
  placement : Option Placement := none
  deriving DecidableEq, Repr, Inhabited

/-- Why a settings file cannot be used. -/
inductive SettingsError where
  /-- There is no such file, or it is not text. -/
  | unreadable
  /-- It is not TOML, or a setting is of the wrong kind. -/
  | malformed
  deriving DecidableEq, Repr, Inhabited

namespace FileSettings

/-- Give names to items in order. Further items are ignored. -/
def named? (names : List String) (items : List Toml) : Option Toml.Members :=
  if names.length ≤ items.length then some (names.zip items) else none

/-- The settings of a section with the given names. A section may also be an array with a value for
every name, and a date is a section without settings. -/
def section? (names : List String) : Option Toml → Option Toml.Members
  | none => some []
  | some (.table _ members) => some members
  | some .moment => some []
  | some (.array items) => named? names items
  | some (.tables elements) => named? names (elements.map (.table .header))
  | some _ => none

/-- A setting of a section, if it is given and of the right kind. -/
def setting? (read : Toml → Option α) (members : Toml.Members) (name : String) :
    Option (Option α) :=
  match members.lookup name with
  | none => some none
  | some value => (read value).map some

/-- A text. -/
def text? : Toml → Option String
  | .string text => some text
  | _ => none

/-- A whole number that is not negative. -/
def count? : Toml → Option Nat
  | .integer value => if 0 ≤ value then some value.toNat else none
  | _ => none

/-- Whether nothing is in an array or a table. -/
def isHollow : Toml → Bool
  | .array items => items.isEmpty
  | .table _ members => members.isEmpty
  | _ => false

/-- The name of a choice: a text, or the only key of a table, with nothing behind it. -/
def choice? : Toml → Option String
  | .string text => some text
  | .table _ [(name, value)] => if isHollow value then some name else none
  | _ => none

/-- Where replies are put. -/
def placement? (value : Toml) : Option Placement :=
  match choice? value with
  | some "newest_last" => some .newestLast
  | some "newest_first" => some .newestFirst
  | _ => none

/-- What a document says about the settings. -/
def ofDocument? (document : Toml.Members) : Option FileSettings := do
  let backend ← section? ["base_url", "timeout_secs"] (document.lookup "backend")
  let session ← section? ["token", "dir"] (document.lookup "session")
  let thread ← section? ["post_id", "post_author", "reply_placement"] (document.lookup "thread")
  return {
    baseUrl := ← setting? text? backend "base_url"
    timeoutSeconds := ← setting? count? backend "timeout_secs"
    token := ← setting? text? session "token"
    sessionDirectory := ← setting? text? session "dir"
    postId := (← setting? count? thread "post_id").map Nat.toUInt64
    postAuthor := ← setting? text? thread "post_author"
    placement := ← setting? placement? thread "reply_placement" }

/-- What the text of a settings file says. -/
def ofText (text : String) : Except SettingsError FileSettings :=
  match (Toml.parse? text).bind ofDocument? with
  | some settings => .ok settings
  | none => .error .malformed

/-- What a file says. -/
def ofFile (files : FileTree) (path : String) : Except SettingsError FileSettings :=
  match files.readText? path with
  | some text => ofText text
  | none => .error .unreadable

/-- The file that is left where there is none. -/
def template : String :=
    "# Threadline Configuration\n" ++
    "# All settings are optional. Defaults are used for anything not specified.\n" ++
    "# Override hierarchy: defaults → this file → env vars → CLI flags.\n" ++
    "\n" ++
    "# [backend]\n" ++
    "# base_url = \"http://localhost:8080\"   # Or set THREADLINE_BASE_URL\n" ++
    "# timeout_secs = 30                    # Applies to reply submission and listing\n" ++
    "\n" ++
    "# [session]\n" ++
    "# token = \"eyJhbGciOi...\"              # Or set THREADLINE_AUTH_TOKEN\n" ++
    "# dir = \"/home/me/.threadline/session\" # One file per key; the token is read from `authToken`\n" ++
    "\n" ++
    "# [thread]\n" ++
    "# post_id = 1                          # Or set THREADLINE_POST_ID\n" ++
    "# post_author = \"music_fan_99\"         # Marks the author's comments as OP\n" ++
    "# reply_placement = \"newest_last\"      # \"newest_last\" or \"newest_first\"\n"

/-- Where the program keeps its files, below somebody's home. -/
def programDirectory (home : String) : String := joinPath home ".threadline"

/-- The settings file, below somebody's home. -/
def path (home : String) : String := joinPath (programDirectory home) "config.toml"

/-- Load the settings file; it is made if it is not there and can be made. Without a home nothing
is set. -/
def load (files : FileTree) (home : Option String) :
    FileTree × Except SettingsError FileSettings :=
  match home with
  | none => (files, .ok {})
  | some home =>
      if files.isThere (path home) then (files, ofFile files (path home))
      else (files.create (path home) template, .ok {})

end FileSettings

end Colloquy
