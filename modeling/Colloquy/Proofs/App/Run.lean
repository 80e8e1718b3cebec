import Colloquy.App.Update
import Colloquy.Discussion.Sample
import Colloquy.Proofs.Discussion.Growth
import Colloquy.Proofs.View.WellFormed

/-!
# Runs of the application

A run starts from an application that shows nothing or a known discussion, and goes on with events:
actions in any surroundings, and text typed into a reply. An event leaves the discussion as it is,
replaces it together with the view, or makes it grow by one reply. What comments that arrive, a
posted reply and an attempt to submit can do is said here once, for everything that follows.
-/

namespace Colloquy

/-- Something that happens to the application. -/
inductive Event where
  | acted (moment : Moment) (action : Action)
  /-- The text of the reply below a comment is replaced. -/
  | typed (id : CommentId) (text : String)

namespace App

/-- Replace the text of the reply below a comment, if there is one. -/
def type (app : App) (id : CommentId) (text : String) : App :=
  match app.view.openReply? id with
  | some reply => { app with view := app.view.setOpenReply id { reply with content := text } }
  | none => app

/-- The application after an event, also after one that stops the program. -/
def after (app : App) : Event → App
  | .acted moment action => (app.update moment action).1
  | .typed id text => app.type id text

/-- The application after several events. -/
def run (app : App) : List Event → App
  | [] => app
  | event :: rest => (app.after event).run rest

theorem run_append (app : App) (first second : List Event) :
    app.run (first ++ second) = (app.run first).run second := by
  induction first generalizing app with
  | nil => rfl
  | cons event rest ih => exact ih (app.after event)

/-- What every event of a run keeps, the run keeps. -/
theorem run_keeps {motive : App → Prop} {events : List Event}
    (keeps : ∀ event ∈ events, ∀ app, motive app → motive (app.after event)) {app : App}
    (initial : motive app) : motive (app.run events) := by
  induction events generalizing app with
  | nil => exact initial
  | cons event rest ih =>
      exact ih (fun later member => keeps later (List.mem_cons_of_mem event member))
        (keeps event List.mem_cons_self app initial)

/-- No event of a run is of some kind, judged in the state that the event meets. -/
def Avoids (app : App) (kind : App → Event → Prop) : List Event → Prop
  | [] => True
  | event :: rest => ¬kind app event ∧ (app.after event).Avoids kind rest

theorem avoids_append (app : App) (kind : App → Event → Prop) (first second : List Event) :
    app.Avoids kind (first ++ second) ↔
      app.Avoids kind first ∧ (app.run first).Avoids kind second := by
  induction first generalizing app with
  | nil => simp [Avoids, run]
  | cons event rest ih => simp [Avoids, run, ih, and_assoc]

/-- A run is cut behind its last event of some kind, or at its beginning if it has none. -/
structure SinceLast (app : App) (kind : App → Event → Prop) (earlier later : List Event) :
    Prop where
  begins : earlier = [] ∨
    ∃ before last, earlier = before ++ [last] ∧ kind (app.run before) last
  avoids : (app.run earlier).Avoids kind later

/-- Every run can be cut behind its last event of some kind. -/
theorem exists_sinceLast (app : App) (kind : App → Event → Prop) (events : List Event) :
    ∃ earlier later, events = earlier ++ later ∧ app.SinceLast kind earlier later := by
  induction events generalizing app with
  | nil => exact ⟨[], [], rfl, .inl rfl, trivial⟩
  | cons event rest ih =>
      obtain ⟨earlier, later, rfl, begins, avoids⟩ := ih (app.after event)
      rcases begins with rfl | ⟨before, last, rfl, hit⟩
      · by_cases first : kind app event
        · exact ⟨[event], later, rfl, .inr ⟨[], event, rfl, first⟩, avoids⟩
        · exact ⟨[], event :: later, rfl, .inl rfl, first, avoids⟩
      · exact ⟨event :: (before ++ [last]), later, rfl,
          .inr ⟨event :: before, last, rfl, hit⟩, avoids⟩

/-- There is one way only to cut a run behind its last event of some kind: if one cut came behind the
other, its last event would be of the kind and yet avoid it. -/
theorem SinceLast.unique {app : App} {kind : App → Event → Prop}
    {earlier later before after : List Event} (left : app.SinceLast kind earlier later)
    (right : app.SinceLast kind before after) (same : earlier ++ later = before ++ after) :
    earlier = before ∧ later = after := by
  have overlap : ∀ {front middle back : List Event}, app.SinceLast kind (front ++ middle) back →
      (app.run front).Avoids kind (middle ++ back) → middle = [] := by
    intro front middle back cut avoids
    rcases List.eq_nil_or_concat' middle with none | ⟨inner, final, rfl⟩
    · exact none
    · rw [avoids_append, avoids_append] at avoids
      rcases cut.begins with empty | ⟨passed, last, split, hit⟩
      · simp at empty
      · rw [← List.append_assoc] at split
        obtain ⟨rfl, single⟩ := List.append_inj' split rfl
        obtain rfl : final = last := List.singleton_inj.mp single
        rw [run_append] at hit
        exact absurd hit avoids.1.2.1
  rcases List.append_eq_append_iff.mp same with ⟨middle, rfl, rfl⟩ | ⟨middle, rfl, rfl⟩
  · obtain rfl := overlap right left.avoids
    simp
  · obtain rfl := overlap left right.avoids
    simp

/-- How an application starts: with nothing to show, or with a known discussion. -/
inductive Starts : App → Prop where
  | empty (app : App) (unread : app.discussion = {}) (untouched : app.view = {}) : Starts app
  | known (app : App) (threads : List Thread) (discussion : Discussion)
      (built : Discussion.ofThreads threads = .ok discussion) :
      Starts (app.withDiscussion discussion)

/-- Nothing is mounted at the start. -/
theorem Starts.view_eq {app : App} (starts : Starts app) : app.view = {} := by
  cases starts with
  | empty app unread untouched => exact untouched
  | known app threads discussion built => rfl

/-- The sample discussion, read by somebody who is logged in. -/
def sample : App :=
  ({ session := .memory (some "jwt") } : App).withDiscussion ⟨Discussion.sampleThreads⟩

theorem starts_sample : Starts sample :=
  .known _ Discussion.sampleThreads _
    (Discussion.ofThreads_eq_ok_iff.mpr ⟨by decide +kernel, rfl⟩)

/-- An answer of the backend that describes a reply, answered in its turn. -/
def sampleAnswer : Json :=
  .object [("id", .number (.natural 500)), ("author", .string "late_reader"),
    ("content", .string "It grows on you."), ("replies", .array [
      .object [("id", .number (.natural 501)), ("author", .string "hater_101"),
        ("content", .string "Never.")]])]

/-- An application that a run leads to. -/
def Reachable (app : App) : Prop :=
  ∃ start events, Starts start ∧ start.run events = app

/-! ## The discussion -/

@[simp] theorem ids_markPostAuthor (postAuthor : Option String) (discussion : Discussion) :
    (markPostAuthor postAuthor discussion).ids = discussion.ids := by
  cases postAuthor with
  | none => rfl
  | some author => exact discussion.ids_markAuthor author

/-- The reply that an answer of the backend puts below a comment: the answer has to describe a
comment, and the comment has to fit there. -/
def graft? (app : App) (moment : Moment) (parent : CommentId) (answer : Json) : Option Thread :=
  match Listing.entryOfJson answer with
  | .error _ => none
  | .ok entry =>
      let reply := markReply app.postAuthor (entry.toThread moment.wall)
      if app.discussion.Fits parent reply then some reply else none

theorem fits_of_graft? {app : App} {moment : Moment} {parent : CommentId} {answer : Json}
    {reply : Thread} (grafted : app.graft? moment parent answer = some reply) :
    app.discussion.Fits parent reply := by
  cases decoded : Listing.entryOfJson answer with
  | error cause => simp [graft?, decoded] at grafted
  | ok entry =>
      simp only [graft?, decoded, Option.ite_none_right_eq_some, Option.some.injEq] at grafted
      exact grafted.2 ▸ grafted.1

theorem splice_of_graft?_eq_none {app : App} {moment : Moment} {parent : CommentId} {answer : Json}
    (refused : app.graft? moment parent answer = none) :
    app.splice moment parent answer = app := by
  cases decoded : Listing.entryOfJson answer with
  | error cause => simp [splice, decoded]
  | ok entry =>
      have misfit : ¬app.discussion.Fits parent
          (markReply app.postAuthor (entry.toThread moment.wall)) := by
        simpa [graft?, decoded] using refused
      obtain ⟨cause, rejected⟩ := Discussion.addReply_of_not_fits app.placement misfit
      simp [splice, decoded, rejected]

theorem splice_of_graft? {app : App} {moment : Moment} {parent : CommentId} {answer : Json}
    {reply : Thread} (grafted : app.graft? moment parent answer = some reply) :
    ∃ grown, app.splice moment parent answer = { app with discussion := grown } ∧
      Thread.Grown parent reply app.placement app.discussion.outline grown.outline := by
  cases decoded : Listing.entryOfJson answer with
  | error cause => simp [graft?, decoded] at grafted
  | ok entry =>
      simp only [graft?, decoded, Option.ite_none_right_eq_some, Option.some.injEq] at grafted
      obtain ⟨fits, rfl⟩ := grafted
      obtain ⟨grown, accepted, growth⟩ := Discussion.addReply_of_fits app.placement fits
      exact ⟨grown, by simp [splice, decoded, accepted], growth⟩

/-- Putting a reply into the discussion touches nothing else. -/
theorem splice_eq (app : App) (moment : Moment) (parent : CommentId) (answer : Json) :
    app.splice moment parent answer =
      { app with discussion := (app.splice moment parent answer).discussion } := by
  cases grafted : app.graft? moment parent answer with
  | none => simp [splice_of_graft?_eq_none grafted]
  | some reply =>
      obtain ⟨grown, spliced, -⟩ := splice_of_graft? grafted
      simp [spliced]

/-- Comments that arrive are installed, marked, if their ids are all different, and the view is
emptied. -/
theorem update_arrived_of_nodup (app : App) (moment : Moment) {threads : List Thread}
    (distinct : (Discussion.ids ⟨threads⟩).Nodup) :
    app.update moment (.arrived (.ok threads)) =
      ({ app with
          discussion := markPostAuthor app.postAuthor ⟨threads⟩
          view := {}
          loading := false
          loadError := none
          status := Discussion.countLabel (Discussion.size ⟨threads⟩) }, .ok .none) := by
  have built := Discussion.ofThreads_eq_ok_iff.mpr ⟨distinct, rfl⟩
  simp [update, takeListing, built]

/-- Anything else that arrives changes neither discussion nor view. -/
theorem update_arrived_of_refused (app : App) (moment : Moment) {result : ListingResult}
    (refused : ∀ threads, result = .ok threads → ¬(Discussion.ids ⟨threads⟩).Nodup) :
    (app.update moment (.arrived result)).1.discussion = app.discussion ∧
      (app.update moment (.arrived result)).1.view = app.view := by
  cases result with
  | error cause => simp [update, takeListing]
  | ok threads =>
      cases built : Discussion.ofThreads threads with
      | error cause => simp [update, takeListing, built]
      | ok discussion =>
          exact absurd (Discussion.ofThreads_eq_ok_iff.mp built).1 (refused threads rfl)

/-! ## Submissions -/

/-- A submission of a reply is accepted: none is awaited, there is some text, and somebody is logged
in. -/
def Accepts (app : App) (moment : Moment) (reply : OpenReply) : Prop :=
  reply.awaiting = none ∧ Text.allBlank reply.content = false ∧
    (app.session.token? moment.files).isSome

/-- An accepted submission sends its ticket under the token of whoever is logged in. -/
theorem submit_of_token {app : App} {moment : Moment} {id : CommentId} {reply : OpenReply}
    (opened : app.view.openReply? id = some reply) (accepted : app.Accepts moment reply)
    {bearer : String} (token : app.session.token? moment.files = some bearer) :
    app.submit moment id =
      ({ app with
          view := app.view.setOpenReply id { reply with awaiting := some app.nextSubmission }
          status := "Posting reply..."
          nextSubmission := app.nextSubmission + 1 },
        .send ⟨app.nextSubmission, reply.parent, reply.content, bearer⟩) := by
  have started : reply.submit (app.session.token? moment.files) app.nextSubmission = .ok (_, _) :=
    OpenReply.submit_eq_ok_iff.mpr ⟨accepted.1, accepted.2.1, bearer, token, rfl, rfl⟩
  simp [submit, opened, started]

/-- An accepted submission locks the reply under a new number and sends a ticket. -/
theorem submit_of_accepts {app : App} {moment : Moment} {id : CommentId} {reply : OpenReply}
    (opened : app.view.openReply? id = some reply) (accepted : app.Accepts moment reply) :
    ∃ bearer, app.submit moment id =
      ({ app with
          view := app.view.setOpenReply id { reply with awaiting := some app.nextSubmission }
          status := "Posting reply..."
          nextSubmission := app.nextSubmission + 1 },
        .send ⟨app.nextSubmission, reply.parent, reply.content, bearer⟩) := by
  obtain ⟨bearer, token⟩ := Option.isSome_iff_exists.mp accepted.2.2
  exact ⟨bearer, submit_of_token opened accepted token⟩

/-- A submission that is not accepted gives a notice at most. -/
theorem submit_of_not_accepts {app : App} {moment : Moment} {id : CommentId}
    (refused : ∀ reply, app.view.openReply? id = some reply → ¬app.Accepts moment reply) :
    ∃ notices, app.submit moment id = ({ app with notices }, .none) := by
  cases opened : app.view.openReply? id with
  | none => exact ⟨app.notices, by simp [submit, opened]⟩
  | some reply =>
      cases started : reply.submit (app.session.token? moment.files) app.nextSubmission with
      | error cause =>
          exact ⟨app.notices.pushError cause moment.ticks, by simp [submit, opened, started]⟩
      | ok issued =>
          obtain ⟨locked, ticket⟩ := issued
          obtain ⟨idle, written, bearer, token, -⟩ := OpenReply.submit_eq_ok_iff.mp started
          exact absurd ⟨idle, written, by simp [token]⟩ (refused reply opened)

/-- Everything that an attempt to submit can do. -/
theorem submit_cases (app : App) (moment : Moment) (id : CommentId) :
    (∃ reply bearer, app.view.openReply? id = some reply ∧ app.Accepts moment reply ∧
        app.submit moment id =
          ({ app with
              view := app.view.setOpenReply id { reply with awaiting := some app.nextSubmission }
              status := "Posting reply..."
              nextSubmission := app.nextSubmission + 1 },
            .send ⟨app.nextSubmission, reply.parent, reply.content, bearer⟩)) ∨
      ((∀ reply, app.view.openReply? id = some reply → ¬app.Accepts moment reply) ∧
        ∃ notices, app.submit moment id = ({ app with notices }, .none)) := by
  by_cases accepted : ∃ reply, app.view.openReply? id = some reply ∧ app.Accepts moment reply
  · obtain ⟨reply, opened, accepted⟩ := accepted
    obtain ⟨bearer, submitted⟩ := submit_of_accepts opened accepted
    exact .inl ⟨reply, bearer, opened, accepted, submitted⟩
  · have unaccepted : ∀ reply, app.view.openReply? id = some reply → ¬app.Accepts moment reply :=
      fun reply opened accepts => accepted ⟨reply, opened, accepts⟩
    exact .inr ⟨unaccepted, submit_of_not_accepts unaccepted⟩

/-! ## What stays as it was set up -/

/-- What an application is given before it starts. -/
structure Setup where
  session : Session
  postId : UInt64
  postAuthor : Option String
  placement : Placement
  timeoutSeconds : Nat

/-- What an application was given. -/
def setup (app : App) : Setup :=
  ⟨app.session, app.postId, app.postAuthor, app.placement, app.timeoutSeconds⟩

/-- What an application was given is settled once and for all. -/
theorem setup_after (app : App) (event : Event) : (app.after event).setup = app.setup := by
  cases event with
  | typed id text =>
      cases opened : app.view.openReply? id with
      | none => simp [after, type, opened]
      | some reply => simp [after, type, opened, setup]
  | acted moment action =>
      cases action with
      | arrived result =>
          cases result with
          | error cause => rfl
          | ok threads =>
              simp only [after, update, takeListing]
              cases Discussion.ofThreads threads with
              | error cause => rfl
              | ok discussion => rfl
      | postReply id =>
          rcases app.submit_cases moment id with
            ⟨reply, bearer, -, -, submitted⟩ | ⟨-, notices, refused⟩
          · simp [after, update, submitted, setup]
          · simp [after, update, refused, setup]
      | replyAnswered parent submission result =>
          cases result with
          | error cause => rfl
          | ok answer =>
              simp only [after, update, takeAnswer]
              rw [splice_eq]
              rfl
      | _ => rfl

theorem setup_run (app : App) (events : List Event) : (app.run events).setup = app.setup :=
  run_keeps (motive := fun next => next.setup = app.setup)
    (fun event _ next same => (next.setup_after event).trans same) rfl

end App

end Colloquy
