import Colloquy.App.Outbox
import Colloquy.Discussion.Sample
import Colloquy.Page.Page
import Colloquy.Settings.Arguments

/-!
# The program

Draws the page on standard output and takes keys from standard input, a line at a time. There is no
network here, so whatever is asked of the backend fails; the sample discussion needs none.
-/

namespace Colloquy.Program

/-- The rows and columns of the page. -/
def pageSize : Nat × Nat := (80, 24)

/-- The answer to a request where there is no network. -/
def unreachable : Request → Action
  | .fetch _ => .arrived (.error (.network "no network"))
  | .post ticket => ticket.answered (.error (.network "no network"))

/-- The state of the program. -/
structure State where
  app : App
  page : Page := {}

/-- Let actions happen, and everything that comes of them. The steps bound their number. -/
def settle (moment : Moment) : Nat → App → Effect → App
  | 0, app, _ => app
  | steps + 1, app, effect =>
      match effect.request? with
      | none => app
      | some request =>
          match app.update moment (unreachable request) with
          | (next, .ok effect) => settle moment steps next effect
          | (next, .error _) => next

/-- Take events one after the other; tells whether the program goes on. -/
def take (moment : Moment) : State → List InputEvent → State × Bool
  | state, [] => (state, true)
  | state, event :: rest =>
      let turn := state.page.handle state.app moment event
      match turn.outcome with
      | .error _ | .ok .quit => (⟨turn.app, turn.page⟩, false)
      | .ok effect => take moment ⟨settle moment 2 turn.app effect, turn.page⟩ rest

/-- A file of the outside world, if it can be read. -/
def readEntry (path : String) : IO (List (Path × FileEntry)) := do
  try
    let bytes ← IO.FS.readBinFile path
    return [((path.splitOn "/").filter (· ≠ ""), .file bytes.toList)]
  catch _ => return []

/-- The files that the program looks at. -/
def readFiles (paths : List String) : IO FileTree := do
  return ⟨(← paths.mapM readEntry).flatten⟩

/-- The files that a session looks into for the token. -/
def tokenFiles : Session → List String
  | .memory _ => []
  | .directory path => [joinPath path Session.tokenKey]

/-- Draw the page, take a line of keys, and go on until the program is left or the keys end. The
token is read again for each line. -/
partial def run (state : State) : IO Unit := do
  let files ← readFiles (tokenFiles state.app.session)
  let moment : Moment := { ticks := ← IO.monoNanosNow, files }
  let notices := (state.app.notices.dropExpired moment.ticks).1
  let app := { state.app with notices }
  match (state.page.sync app).draw app pageSize.1 pageSize.2 0 with
  | .error _ => return
  | .ok (page, grid) =>
      for y in List.range grid.height do
        IO.println (String.join ((grid.row y).map (·.symbol)))
      let typed ← (← IO.getStdin).getLine
      if typed.isEmpty then return
      let (next, goesOn) := take moment ⟨app, page⟩ (InputEvent.ofTyped typed.toList)
      if goesOn then run next

/-- Settle what the files, the environment and the command line say, and show the page. -/
def start (arguments : Arguments) : IO Unit := do
  let home ← IO.getEnv "HOME"
  let known ← ["THREADLINE_BASE_URL", "THREADLINE_POST_ID", "THREADLINE_AUTH_TOKEN"].mapM
    fun name => return (name, ← IO.getEnv name)
  let environment (name : String) : Option String := (known.lookup name).join
  let files ← readFiles ((home.map FileSettings.path).toList)
  let file := (FileSettings.load files home).2.toOption.getD {}
  let settings := Settings.resolve file arguments.commandLine environment home
  let app := settings.app home
  let shown :=
    if arguments.demo then app.withDiscussion ⟨Discussion.sampleThreads⟩
    else settle {} 2 (app.update {} .refresh).1 (.fetch app.postId)
  run { app := shown }

/-- Run the program, or say what is wrong with its arguments. -/
def enter (arguments : List String) : IO UInt32 := do
  match Arguments.read arguments with
  | .error cause =>
      IO.eprintln ("error: " ++ cause.message)
      return 2
  | .ok arguments =>
      if arguments.help then IO.print Arguments.usage else start arguments
      return 0

end Colloquy.Program

def main (arguments : List String) : IO UInt32 :=
  Colloquy.Program.enter arguments
