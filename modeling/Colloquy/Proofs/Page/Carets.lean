import Colloquy.Proofs.Page.Measures
import Colloquy.Proofs.Page.Turns

/-!
# Carets on a terminal

An application with the page that shows it. Events, comments and answers that arrive, drawing and
clearing up follow each other in any order. Carets are kept by the ids of comments and outlive the
replies they were made for, yet the caret of a reply under way, brought back from beyond the end,
always stands between two characters of its text; and a reply whose caret is not known is empty.
-/

namespace Colloquy

/-- An application and the page that shows it. -/
structure Terminal where
  app : App
  page : Page := {}

/-- Something that happens at a terminal. -/
inductive Occurrence where
  | handled (moment : Moment) (event : InputEvent)
  /-- Comments arrive, or fail to. -/
  | arrived (moment : Moment) (result : ListingResult)
  /-- Some submission is answered. -/
  | answered (moment : Moment) (parent : CommentId) (submission : SubmissionNumber)
      (result : PostResult)
  /-- The page forgets the carets of replies that are gone. -/
  | synced
  | drawn (width height frame : Nat)

namespace Terminal

/-- The terminal after something happened, also after what stops the program. -/
def after (terminal : Terminal) : Occurrence → Terminal
  | .handled moment event =>
      let turn := terminal.page.handle terminal.app moment event
      ⟨turn.app, turn.page⟩
  | .arrived moment result =>
      { terminal with app := (terminal.app.update moment (.arrived result)).1 }
  | .answered moment parent submission result =>
      { terminal with app := (terminal.app.update moment (.replyAnswered parent submission result)).1 }
  | .synced => { terminal with page := terminal.page.sync terminal.app }
  | .drawn width height frame =>
      match terminal.page.draw terminal.app width height frame with
      | .ok (page, _) => { terminal with page }
      | .error _ => terminal

/-- The terminal after several things happened. -/
def run (terminal : Terminal) (occurrences : List Occurrence) : Terminal :=
  occurrences.foldl after terminal

/-- What everything that happens keeps, a run keeps. -/
theorem run_keeps {motive : Terminal → Prop}
    (keeps : ∀ terminal occurrence, motive terminal → motive (terminal.after occurrence))
    {terminal : Terminal} (initial : motive terminal) (occurrences : List Occurrence) :
    motive (terminal.run occurrences) := by
  induction occurrences generalizing terminal with
  | nil => exact initial
  | cons occurrence rest ih => exact ih (keeps terminal occurrence initial)

end Terminal

namespace Page

/-- Where the caret of a reply is measured and drawn. -/
def caretIn (page : Page) (id : CommentId) (reply : OpenReply) : Nat :=
  min ((page.caret? id).getD 0) (Text.byteLength reply.content.toList)

/-- The caret of a reply stands between two characters of its text, and the reply is empty if the
caret is not known. -/
structure Tracks (page : Page) (id : CommentId) (reply : OpenReply) : Prop where
  boundary : Text.IsBoundary reply.content.toList (page.caretIn id reply)
  unwritten : page.caret? id = none → reply.content = ""

variable {page next : Page} {id : CommentId} {reply : OpenReply}

/-- A reply that is begun is tracked, whatever caret is left over from an earlier one. -/
theorem tracks_begun (page : Page) (id parent : CommentId) : page.Tracks id { parent } :=
  ⟨by simpa [caretIn] using Text.isBoundary_byteLength [], fun _ => rfl⟩

/-- Whether a reply is tracked depends on its text and its caret only. -/
theorem Tracks.congr (tracked : page.Tracks id reply) {other : OpenReply}
    (content : other.content = reply.content) (caret : next.caret? id = page.caret? id) :
    next.Tracks id other := by
  refine ⟨?_, ?_⟩
  · rw [caretIn, caret, content]
    exact tracked.boundary
  · rw [caret, content]
    exact tracked.unwritten

/-- A caret in the text is where it is measured. -/
theorem tracks_of_inText {draft : Draft} (inside : draft.InText)
    (content : reply.content = draft.content) (caret : next.caret? id = some draft.caret) :
    next.Tracks id reply := by
  refine ⟨?_, by simp [caret]⟩
  have short := inside.le
  rw [caretIn, caret, content, Option.getD_some, Nat.min_eq_left short]
  exact inside

/-- An event meets the draft with its caret where it is measured. -/
theorem Tracks.caret_clamp (tracked : page.Tracks id reply) :
    (page.draft id reply).clamp.caret = page.caretIn id reply := by
  cases known : page.caret? id with
  | some caret => simp [draft, Draft.clamp, Draft.size, caretIn, known]
  | none => simp [draft, Draft.clamp, Draft.size, caretIn, known, tracked.unwritten known]

theorem Tracks.inText (tracked : page.Tracks id reply) :
    (page.draft id reply).clamp.InText := by
  rw [Draft.InText, tracked.caret_clamp]
  exact tracked.boundary

end Page

namespace Terminal

/-- Every reply under way is tracked. -/
def Tracked (terminal : Terminal) : Prop :=
  ∀ id reply, terminal.app.view.openReply? id = some reply → terminal.page.Tracks id reply

variable {terminal : Terminal} {app : App} {page next : Page} {moment : Moment} {action : Action}

/-- A reply has the text that it had before an action, or none. -/
theorem tracks_update {id : CommentId} {reply : OpenReply}
    (tracked : ∀ earlier, app.view.openReply? id = some earlier → next.Tracks id earlier)
    (opened : (app.update moment action).1.view.openReply? id = some reply) :
    next.Tracks id reply := by
  cases App.origin_of_update opened with
  | begun node fetched closed => exact next.tracks_begun id node.id
  | kept reply earlier => exact tracked reply earlier
  | locked reply earlier posts accepted => exact (tracked reply earlier).congr rfl rfl
  | unlocked reply earlier submission awaited cause fails =>
      exact (tracked reply earlier).congr rfl rfl

/-- Actions leave the carets alone. -/
theorem Tracked.update (tracked : Tracked ⟨app, page⟩) (moment : Moment) (action : Action) :
    Tracked ⟨(app.update moment action).1, page⟩ :=
  fun id _ => tracks_update (tracked id)

/-- Every turn keeps the replies tracked. -/
theorem Tracked.turn (tracked : Tracked ⟨app, page⟩) {event : InputEvent} {turn : Turn}
    (reacts : page.Reacts app moment event turn) : Tracked ⟨turn.app, turn.page⟩ := by
  intro id reply opened
  have kept (same : turn.page.caret? id = page.caret? id) :
      ∀ earlier, app.view.openReply? id = some earlier → turn.page.Tracks id earlier :=
    fun earlier before => (tracked id earlier before).congr rfl same
  cases reacts with
  | rested next carets => exact kept (Page.caret?_of_carets carets id) reply opened
  | acted next carets action unanswered =>
      exact tracks_update (kept (Page.caret?_of_carets carets id)) opened
  | drafted next focus draft outcome focused editing carets quiet =>
      rw [View.openReply?_setOpenReply] at opened
      by_cases here : id = focus
      · subst here
        obtain ⟨edited, result, handled, inside⟩ :=
          (tracked id draft editing).inText.handle draft.isPosting event
        rw [handled] at opened carets
        simp only [if_true, editing, Option.map_some, Option.some.injEq] at opened
        exact Page.tracks_of_inText inside (by rw [← opened]) (by rw [carets, if_pos rfl])
      · rw [if_neg here] at opened
        exact kept (by rw [carets, if_neg here]) reply opened
  | submitted next focus draft focused editing carets =>
      by_cases here : id = focus
      · subst here
        refine tracks_update (fun earlier before => ?_) opened
        obtain rfl : draft = earlier := Option.some.inj (editing.symm.trans before)
        exact Page.tracks_of_inText (tracked id draft editing).inText rfl (by rw [carets, if_pos rfl])
      · exact tracks_update (kept (by rw [carets, if_neg here])) opened
  | discarded next focus carets =>
      by_cases here : id = focus
      · subst here
        rw [App.openReply?_update] at opened
        simp at opened
      · exact tracks_update (kept (carets id here)) opened

theorem Tracked.after (tracked : terminal.Tracked) (occurrence : Occurrence) :
    (terminal.after occurrence).Tracked := by
  cases occurrence with
  | handled moment event => exact tracked.turn (terminal.page.reacts_handle _ moment event)
  | arrived moment result => exact tracked.update moment _
  | answered moment parent submission result => exact tracked.update moment _
  | synced =>
      intro id reply opened
      have present : (terminal.app.view.openReply? id).isSome := Option.isSome_of_eq_some opened
      have known : (terminal.page.sync terminal.app).caret? id = terminal.page.caret? id := by
        rw [Page.caret?_sync, if_pos present]
      exact (tracked id reply opened).congr rfl known
  | drawn width height frame =>
      cases shown : terminal.page.draw terminal.app width height frame with
      | error fault => simpa [Terminal.after, shown] using tracked
      | ok result =>
          obtain ⟨page, grid⟩ := result
          have same : page.carets = terminal.page.carets := by rw [Page.draw_eq_ok shown]
          simp only [Terminal.after, shown]
          exact fun id reply opened =>
            (tracked id reply opened).congr rfl (Page.caret?_of_carets same id)

/-- Where no reply is under way, every one is tracked. -/
theorem tracked_of_closed (closed : ∀ id, terminal.app.view.openReply? id = none) :
    terminal.Tracked := by
  intro id reply opened
  rw [closed id] at opened
  contradiction

/-! ## Faults and places -/

/-- One comment, which nobody has answered. -/
def remark : App :=
  ({ session := .memory (some "jwt") } : App).withDiscussion
    ⟨[⟨⟨7, "ada", "Hm", "", 0, false⟩, []⟩]⟩

end Terminal

end Colloquy
