import Colloquy.Proofs.Page.Correspondence
import Colloquy.Proofs.Settings.Layers

/-!
# The token that authorises replies

A token that the environment or else the settings file gives is used as it is, even if there is
another one in a file. Without one, the token is read from a file whenever a reply is submitted. In
both cases a blank token is as good as none. An application that was set up with these settings
sends a reply under this token, and sends nothing while there is none.
-/

namespace Colloquy

/-! ## Sessions -/

theorem nonBlank?_eq_some_iff {text token : String} :
    nonBlank? text = some token ↔ text = token ∧ Text.IsWritten token := by
  rw [← Text.allBlank_eq_false_iff, nonBlank?]
  constructor
  · intro found
    rw [Option.ite_none_left_eq_some, Bool.not_eq_true] at found
    obtain ⟨written, same⟩ := found
    obtain rfl := Option.some.inj same
    exact ⟨rfl, written⟩
  · rintro ⟨rfl, written⟩
    rw [written]
    rfl

namespace Session

variable {files : FileTree} {token : String}

theorem token?_memory_eq_some_iff {given : Option String} :
    (memory given).token? files = some token ↔ given = some token ∧ Text.IsWritten token := by
  have found : (memory given).token? files = given.bind nonBlank? := rfl
  rw [found, Option.bind_eq_some_iff]
  constructor
  · rintro ⟨text, rfl, present⟩
    obtain ⟨rfl, written⟩ := nonBlank?_eq_some_iff.mp present
    exact ⟨rfl, written⟩
  · rintro ⟨rfl, written⟩
    exact ⟨token, rfl, nonBlank?_eq_some_iff.mpr ⟨rfl, written⟩⟩

theorem token?_directory_eq_some_iff {directory : String} :
    (Session.directory directory).token? files = some token ↔
      ∃ content, files.readText? (joinPath directory "authToken") = some content ∧
        Text.Strips content token ∧ Text.IsWritten token := by
  have found : (Session.directory directory).token? files =
      (files.readText? (joinPath directory "authToken")).bind
        fun text => nonBlank? (Text.trim text) := rfl
  rw [found, Option.bind_eq_some_iff]
  simp only [nonBlank?_eq_some_iff, Text.trim_eq_iff]

end Session

/-! ## The token that settings lead to -/

namespace Settings.Sources

/-- The text that is given as the token: by the environment, or else by the settings file. -/
inductive GivesToken (sources : Sources) : String → Prop where
  | environment {text : String}
      (given : sources.environment "THREADLINE_AUTH_TOKEN" = some text) : GivesToken sources text
  | file {text : String} (silent : sources.environment "THREADLINE_AUTH_TOKEN" = none)
      (given : sources.file.token = some text) : GivesToken sources text

/-- The directory with credentials: the one that the settings file names, or else one at home. -/
inductive LooksIn (sources : Sources) : String → Prop where
  | named {directory : String} (given : sources.file.sessionDirectory = some directory) :
      LooksIn sources directory
  | atHome {home : String} (unnamed : sources.file.sessionDirectory = none)
      (known : sources.home = some home) :
      LooksIn sources (joinPath (joinPath home ".threadline") "session")

/-- The token that authorises replies while some files are there. -/
inductive Authorises (sources : Sources) (files : FileTree) : String → Prop where
  | given {token : String} (gives : sources.GivesToken token) (written : Text.IsWritten token) :
      Authorises sources files token
  /-- No token is given, not even a blank one, and a file holds the token. -/
  | stored {directory content token : String} (ungiven : ∀ text, ¬sources.GivesToken text)
      (looks : sources.LooksIn directory)
      (read : files.readText? (joinPath directory "authToken") = some content)
      (strips : Text.Strips content token) (written : Text.IsWritten token) :
      Authorises sources files token

variable {sources : Sources} {files : FileTree}

theorem Authorises.isWritten {token : String} (authorises : sources.Authorises files token) :
    Text.IsWritten token := by
  cases authorises with
  | given gives written => exact written
  | stored ungiven looks read strips written => exact written

theorem givesToken_iff {text : String} :
    sources.GivesToken text ↔ sources.settings.token = some text := by
  have layered : sources.settings.token =
      (sources.environment "THREADLINE_AUTH_TOKEN").or sources.file.token := rfl
  rw [layered, Option.or_eq_some_iff]
  constructor
  · rintro (given | ⟨silent, given⟩)
    · exact .inl given
    · exact .inr ⟨silent, given⟩
  · rintro (given | ⟨silent, given⟩)
    · exact .environment given
    · exact .file silent given

theorem looksIn_iff {directory : String} :
    sources.LooksIn directory ↔
      sources.settings.sessionDirectory.or (sources.home.map defaultSessionDirectory) =
        some directory := by
  have layered : sources.settings.sessionDirectory =
      sources.file.sessionDirectory.or (sources.home.map defaultSessionDirectory) := rfl
  rw [layered, Option.or_assoc, Option.or_self, Option.or_eq_some_iff, Option.map_eq_some_iff]
  constructor
  · rintro (given | ⟨unnamed, known⟩)
    · exact .inl given
    · exact .inr ⟨unnamed, _, known, rfl⟩
  · rintro (given | ⟨unnamed, home, known, rfl⟩)
    · exact .named given
    · exact .atHome unnamed known

/-- A text that is given is the only one that can authorise, whatever files there are. -/
theorem authorises_iff_of_givesToken {text token : String} (gives : sources.GivesToken text) :
    sources.Authorises files token ↔ some text = some token ∧ Text.IsWritten token := by
  constructor
  · intro authorises
    cases authorises with
    | given other written =>
        exact ⟨(givesToken_iff.mp gives).symm.trans (givesToken_iff.mp other), written⟩
    | stored ungiven => exact absurd gives (ungiven text)
  · rintro ⟨same, written⟩
    obtain rfl := Option.some.inj same
    exact .given gives written

/-- Without a text that is given, the file in the one directory decides. -/
theorem authorises_iff_of_looksIn {directory token : String}
    (ungiven : ∀ text, ¬sources.GivesToken text) (looks : sources.LooksIn directory) :
    sources.Authorises files token ↔
      ∃ content, files.readText? (joinPath directory "authToken") = some content ∧
        Text.Strips content token ∧ Text.IsWritten token := by
  constructor
  · intro authorises
    cases authorises with
    | given gives => exact absurd gives (ungiven token)
    | @stored other content _ _ elsewhere read strips written =>
        have same := (looksIn_iff.mp elsewhere).symm.trans (looksIn_iff.mp looks)
        obtain rfl := Option.some.inj same
        exact ⟨content, read, strips, written⟩
  · rintro ⟨content, read, strips, written⟩
    exact .stored ungiven looks read strips written

/-- Nothing authorises where there is neither a text nor a directory. -/
theorem not_authorises_of_nowhere {token : String} (ungiven : ∀ text, ¬sources.GivesToken text)
    (nowhere : ∀ directory, ¬sources.LooksIn directory) : ¬sources.Authorises files token := by
  intro authorises
  cases authorises with
  | given gives => exact ungiven token gives
  | @stored directory _ _ _ looks => exact nowhere directory looks

/-- What is looked up is the token that authorises replies. -/
theorem token?_eq_some_iff {token : String} :
    (sources.settings.session sources.home).token? files = some token ↔
      sources.Authorises files token := by
  rw [Settings.session]
  cases given : sources.settings.token with
  | some text =>
      rw [authorises_iff_of_givesToken (givesToken_iff.mpr given)]
      exact Session.token?_memory_eq_some_iff
  | none =>
      have ungiven (text : String) : ¬sources.GivesToken text := by
        rw [givesToken_iff, given]
        exact nofun
      cases place : sources.settings.sessionDirectory.or
          (sources.home.map defaultSessionDirectory) with
      | some directory =>
          rw [authorises_iff_of_looksIn ungiven (looksIn_iff.mpr place)]
          exact Session.token?_directory_eq_some_iff
      | none =>
          have nowhere (directory : String) : ¬sources.LooksIn directory := by
            rw [looksIn_iff, place]
            exact nofun
          rw [iff_false_right (not_authorises_of_nowhere ungiven nowhere),
            Session.token?_memory_eq_some_iff]
          exact fun found => nomatch found.1

end Settings.Sources

/-! ## Tickets -/

namespace App

/-- A ticket is sent under the token that is looked up at that moment. -/
theorem token?_of_sent {app : App} {moment : Moment} {action : Action} {ticket : Ticket}
    (issued : ticket ∈ sent (app.update moment action).2) :
    app.session.token? moment.files = some ticket.token := by
  rcases app.sent_update moment action with
    ⟨silent, -⟩ | ⟨id, reply, bearer, rfl, opened, accepted, sends, -⟩
  · rw [silent] at issued
    contradiction
  · obtain ⟨token, found⟩ := Option.isSome_iff_exists.mp accepted.2.2
    rw [update, submit_of_token opened accepted found, sent, List.mem_singleton] at issued
    rw [issued]
    exact found

end App

namespace Page.Reacts

variable {page : Page} {app : App} {moment : Moment} {event : InputEvent} {turn : Turn}

theorem setup_eq (reacts : page.Reacts app moment event turn) : turn.app.setup = app.setup := by
  cases reacts with
  | rested next carets => rfl
  | acted next carets action => exact app.setup_after (.acted moment action)
  | drafted next id reply outcome => rfl
  | submitted next id => exact app.setup_after (.acted moment (.postReply id))
  | discarded next id => exact app.setup_after (.acted moment (.discardReply id))

theorem token?_of_sent (reacts : page.Reacts app moment event turn) {ticket : Ticket}
    (issued : ticket ∈ App.sent turn.outcome) :
    app.session.token? moment.files = some ticket.token := by
  cases reacts with
  | rested next carets => contradiction
  | acted next carets action => exact App.token?_of_sent issued
  | drafted next id reply outcome focused opened carets quiet =>
      have nothing : App.sent outcome = [] := by
        rw [quiet]
        cases ((page.draft id reply).handle reply.isPosting event).2 with
        | error fault => rfl
        | ok edited => rfl
      have listed : ticket ∈ App.sent outcome := issued
      rw [nothing] at listed
      contradiction
  | submitted next id => exact App.token?_of_sent issued
  | discarded next id => exact App.token?_of_sent issued

end Page.Reacts

namespace Terminal

/-- What an application was given stays as it is while the application is shown. -/
theorem setup_after (terminal : Terminal) (occurrence : Occurrence) :
    (terminal.after occurrence).app.setup = terminal.app.setup := by
  cases occurrence with
  | handled moment event => exact (terminal.page.reacts_handle terminal.app moment event).setup_eq
  | arrived moment result => exact terminal.app.setup_after (.acted moment (.arrived result))
  | answered moment parent submission result =>
      exact terminal.app.setup_after (.acted moment (.replyAnswered parent submission result))
  | synced => rfl
  | drawn width height frame =>
      simp only [after]
      split <;> rfl

theorem setup_run (terminal : Terminal) (occurrences : List Occurrence) :
    (terminal.run occurrences).app.setup = terminal.app.setup :=
  run_keeps (motive := fun next => next.app.setup = terminal.app.setup)
    (fun next occurrence same => (next.setup_after occurrence).trans same) rfl occurrences

end Terminal

/-- Only what somebody does at a terminal sends tickets. -/
theorem Correspondence.sent_eq_nil {terminal : Terminal} {occurrence : Occurrence}
    (unhandled : ∀ moment event, occurrence ≠ .handled moment event) :
    sent terminal occurrence = [] := by
  cases occurrence with
  | handled moment event => exact absurd rfl (unhandled moment event)
  | arrived | answered | synced | drawn => rfl

namespace Settings.Sources

/-- Tickets that may be sent while some files are there: all of them under the token that authorises
replies then, and none if there is no such token. -/
structure Permits (sources : Sources) (files : FileTree) (tickets : List Ticket) : Prop where
  authorised : ∀ ticket ∈ tickets, sources.Authorises files ticket.token
  written : ∀ ticket ∈ tickets, Text.IsWritten ticket.token
  silent : (∀ token, ¬sources.Authorises files token) → tickets = []

theorem permits_of_authorised {sources : Sources} {files : FileTree} {tickets : List Ticket}
    (authorised : ∀ ticket ∈ tickets, sources.Authorises files ticket.token) :
    sources.Permits files tickets := by
  refine ⟨authorised, fun ticket issued => (authorised ticket issued).isWritten, ?_⟩
  intro nobody
  apply List.eq_nil_iff_forall_not_mem.mpr
  intro ticket issued
  exact nobody ticket.token (authorised ticket issued)

/-- The token that is looked up is the one that authorises replies: a text that is given, as it is,
unless it is blank, and otherwise the content of a file, without the blanks around it, unless there
is nothing else in it. Whatever happens to an application that was set up with it, by actions in any
order or at a terminal, tickets are sent only under the token that authorises replies at that
moment, which is never blank, and while there is no such token none is sent. -/
theorem replies_authorised (sources : Sources) :
    (∀ files token, (sources.settings.session sources.home).token? files = some token ↔
      sources.Authorises files token) ∧
    ∀ start : App, start.session = sources.settings.session sources.home →
      (∀ events moment action,
        sources.Permits moment.files (App.sent ((start.run events).update moment action).2)) ∧
      ∀ page occurrences, let terminal := (⟨start, page⟩ : Terminal).run occurrences
        (∀ moment event,
          sources.Permits moment.files (Correspondence.sent terminal (.handled moment event))) ∧
        ∀ occurrence, (∀ moment event, occurrence ≠ .handled moment event) →
          Correspondence.sent terminal occurrence = [] := by
  refine ⟨fun files token => token?_eq_some_iff, fun start equipped => ⟨?_, ?_⟩⟩
  · intro events moment action
    apply permits_of_authorised
    intro ticket issued
    have kept : (start.run events).session = start.session :=
      congrArg App.Setup.session (start.setup_run events)
    rw [← token?_eq_some_iff, ← equipped, ← kept]
    exact App.token?_of_sent issued
  · intro page occurrences terminal
    refine ⟨?_, fun occurrence => Correspondence.sent_eq_nil⟩
    intro moment event
    apply permits_of_authorised
    intro ticket issued
    have kept : terminal.app.session = start.session :=
      congrArg App.Setup.session (Terminal.setup_run ⟨start, page⟩ occurrences)
    rw [← token?_eq_some_iff, ← equipped, ← kept]
    exact (terminal.page.reacts_handle terminal.app moment event).token?_of_sent issued

/-- Settings with a session directory, and perhaps with a token in the environment. -/
def withToken (token : Option String) : Sources where
  file := { sessionDirectory := some "/srv/session" }
  commandLine := {}
  environment := fun name => if name = "THREADLINE_AUTH_TOKEN" then token else none
  home := some "/home/ada"

/-- The sample discussion, shown with these settings. -/
def sampleWith (token : Option String) : App :=
  ((withToken token).settings.app (withToken token).home).withDiscussion
    ⟨Discussion.sampleThreads⟩

/-- The beginning of a reply. -/
def begun : List Event :=
  [.acted {} (.toggleReply 12), .typed 12 "It does."]

/-- A token with blanks around it is sent as it is, a blank one keeps a reply from being sent, and
only without one the session directory is looked into. -/
theorem replies_authorised_withToken :
    App.sent (((sampleWith (some " jwt")).run begun).update {} (.postReply 12)).2 =
        [⟨1, 12, "It does.", " jwt"⟩] ∧
      (withToken (some " jwt")).Authorises {} " jwt" ∧
      App.sent (((sampleWith (some " ")).run begun).update {} (.postReply 12)).2 = [] ∧
      ∀ files : FileTree,
        files.readText? (joinPath "/srv/session" "authToken") = some " jwt\n" →
          (sampleWith none).session.token? files = some "jwt" := by
  have sends : App.sent (((sampleWith (some " jwt")).run begun).update {} (.postReply 12)).2 =
      [⟨1, 12, "It does.", " jwt"⟩] := by decide +kernel
  have permitted := ((replies_authorised (withToken (some " jwt"))).2
    (sampleWith (some " jwt")) rfl).1 begun {} (.postReply 12)
  obtain ⟨found, refuses⟩ := replies_authorised (withToken (some " "))
  refine ⟨sends, ?_, ?_, ?_⟩
  · exact permitted.authorised ⟨1, 12, "It does.", " jwt"⟩ (by rw [sends]; exact .head _)
  · apply ((refuses (sampleWith (some " ")) rfl).1 begun {} (.postReply 12)).silent
    intro token authorises
    have blank : ((withToken (some " ")).settings.session (withToken (some " ")).home).token? {} =
        none := by decide +kernel
    rw [(found {} token).mpr authorises] at blank
    contradiction
  · intro files read
    refine ((replies_authorised (withToken none)).1 files "jwt").mpr ?_
    refine .stored ?_ (.named rfl) read (Text.trim_eq_iff.mp (by decide +kernel))
      ⟨'j', by decide, by decide⟩
    intro text gives
    rw [givesToken_iff] at gives
    contradiction

end Settings.Sources

end Colloquy
