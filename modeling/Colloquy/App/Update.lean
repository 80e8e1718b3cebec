import Colloquy.App.State
import Colloquy.Listing.FromValue

/-!
# Actions

Everything that happens is an action, and `App.update` says what it does to the state and what has
to be asked of the backend because of it. Nothing is asked here, so that every change of state is a
function of the action and its surroundings.

An answer to a submission reaches only the reply that awaits it. Where that reply is gone, the
reader is still told, and a posted reply is still put into the discussion.
-/

namespace Colloquy

/-- Something that happens. -/
inductive Action where
  /-- Fetch the comments of the post. -/
  | refresh
  | arrived (result : ListingResult)
  | fold (id : CommentId)
  | unfold (id : CommentId)
  | toggleFold (id : CommentId)
  | toggleReply (id : CommentId)
  | discardReply (id : CommentId)
  | vote (id : CommentId) (vote : Vote)
  | postReply (id : CommentId)
  | replyAnswered (parent : CommentId) (submission : SubmissionNumber) (result : PostResult)
  | quit

/-- The action that brings the answer to a ticket. -/
def Ticket.answered (ticket : Ticket) (result : PostResult) : Action :=
  .replyAnswered ticket.parent ticket.submission result

/-- What has to be done after a change of state. -/
inductive Effect where
  | none
  | quit
  /-- Ask for the comments of a post. -/
  | fetch (postId : UInt64)
  /-- Send a reply. -/
  | send (ticket : Ticket)
  deriving DecidableEq, Repr, Inhabited

namespace App

/-- Take the comments of the post. Comments that repeat an id, and a failure to get any, leave the
discussion as it is. -/
def takeListing (app : App) (moment : Moment) (result : ListingResult) : App :=
  match result with
  | .error cause =>
      { app with
        notices := app.notices.push ⟨.error, "Failed to load comments.", moment.ticks⟩
        loadError := some ("Failed to load comments: " ++ cause.message)
        status := "Load failed" }
  | .ok threads =>
      match Discussion.ofThreads threads with
      | .error cause =>
          { app with
            loadError := some ("Malformed thread: " ++ cause.message)
            status := "Load failed" }
      | .ok discussion =>
          { app with
            discussion := markPostAuthor app.postAuthor discussion
            view := {}
            loadError := none
            status := Discussion.countLabel discussion.size }

/-- Put a posted reply below its parent, if the backend's answer describes a comment that can go
there. -/
def splice (app : App) (moment : Moment) (parent : CommentId) (answer : Json) : App :=
  match Listing.entryOfJson answer with
  | .error _ => app
  | .ok entry =>
      let reply := markReply app.postAuthor (entry.toThread moment.wall)
      match app.discussion.addReply parent reply app.placement with
      | .error _ => app
      | .ok discussion => { app with discussion }

/-- Start the submission of the reply below a comment. -/
def submit (app : App) (moment : Moment) (id : CommentId) : App × Effect :=
  match app.view.openReply? id with
  | none => (app, .none)
  | some openReply =>
      match openReply.submit (app.session.token? moment.files) app.nextSubmission with
      | .error cause => ({ app with notices := app.notices.pushError cause moment.ticks }, .none)
      | .ok (locked, ticket) =>
          ({ app with
              view := app.view.setOpenReply id locked
              status := "Posting reply..."
              nextSubmission := app.nextSubmission + 1 },
            .send ticket)

/-- Take the answer to a submission. -/
def takeAnswer (app : App) (moment : Moment) (parent : CommentId) (submission : SubmissionNumber)
    (result : PostResult) : App :=
  let awaiting := (app.view.openReply? parent).filter fun reply => reply.isAwaiting submission
  let told := { app with notices := app.notices.pushResult result moment.ticks }
  match result with
  | .ok answer =>
      let view := if awaiting.isSome then app.view.discardReply parent else app.view
      let spliced := { told with view }.splice moment parent answer
      { spliced with status := Discussion.countLabel spliced.discussion.size }
  | .error cause =>
      let view :=
        match awaiting with
        | some openReply => app.view.setOpenReply parent (openReply.finish result).1
        | none => app.view
      { told with view, status := "Reply failed: " ++ (SubmitError.transport cause).message }

/-- What an action does to the state, and what has to be done because of it. -/
def update (app : App) (moment : Moment) (action : Action) : App × Except Fault Effect :=
  match action with
  | .refresh =>
      ({ app with loading := true, loadError := none, status := "Loading comments..." },
        .ok (.fetch app.postId))
  | .arrived result => ({ app with loading := false }.takeListing moment result, .ok .none)
  | .fold id => ({ app with view := (app.view.fold app.discussion id).1 }, .ok .none)
  | .unfold id => ({ app with view := (app.view.unfold app.discussion id).1 }, .ok .none)
  | .toggleFold id =>
      ({ app with view := (app.view.toggleFold app.discussion id).1 }, .ok .none)
  | .toggleReply id =>
      ({ app with view := (app.view.toggleReply app.discussion id).1 }, .ok .none)
  | .discardReply id => ({ app with view := app.view.discardReply id }, .ok .none)
  | .vote id vote =>
      let (view, outcome) := app.view.vote app.discussion id vote
      ({ app with view }, outcome.map fun _ => .none)
  | .postReply id =>
      let (next, effect) := app.submit moment id
      (next, .ok effect)
  | .replyAnswered parent submission result =>
      (app.takeAnswer moment parent submission result, .ok .none)
  | .quit => (app, .ok .quit)

end App

end Colloquy
