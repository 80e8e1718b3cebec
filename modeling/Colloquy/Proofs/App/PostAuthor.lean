import Colloquy.Proofs.App.Conversation

/-!
# Marks of the post's author

Where the post's author is known, the comments that are shown at the start or that are loaded are
marked exactly if they are by the author. Of a posted reply only the first comment is looked at: the
comments below it keep the marks with which the backend sent them. All marks are therefore right as
long as the backend sends those right, and not longer.
-/

namespace Colloquy

/-- Exactly the comments of an author, given by handle, are marked as the post author's. -/
def Discussion.MarksAuthor (discussion : Discussion) (author : String) : Prop :=
  ∀ comment ∈ discussion.comments, comment.byPostAuthor = (comment.author == author)

instance (discussion : Discussion) (author : String) : Decidable (discussion.MarksAuthor author) :=
  List.decidableBAll _ _

theorem Discussion.marksAuthor_markAuthor (discussion : Discussion) (author : String) :
    (discussion.markAuthor author).MarksAuthor author := by
  intro comment listed
  rw [comments_markAuthor] at listed
  obtain ⟨plain, -, rfl⟩ := List.mem_map.mp listed
  rfl

/-- A discussion that grows has the comments that it had, and those of the reply. -/
theorem Discussion.marksAuthor_of_grown {discussion grown : Discussion} {parent : CommentId}
    {reply : Thread} {placement : Placement} {author : String}
    (growth : Thread.Grown parent reply placement discussion.outline grown.outline) :
    grown.MarksAuthor author ↔
      discussion.MarksAuthor author ∧
        reply.comment.byPostAuthor = (reply.comment.author == author) ∧
        MarksAuthor ⟨reply.replies⟩ author := by
  obtain ⟨depth, -, added⟩ := growth.perm
  have listed : grown.comments.Perm
      (discussion.comments ++ reply.comment :: comments ⟨reply.replies⟩) := by
    rw [comments_eq_outline, comments_eq_outline,
      comments_eq_outlineAll (depth + 2) (some reply.id)]
    simpa [Thread.outline_eq] using added.map Placed.comment
  simp only [MarksAuthor, listed.mem_iff, List.forall_mem_append, List.forall_mem_cons]

namespace App

theorem postAuthor_after (app : App) (event : Event) :
    (app.after event).postAuthor = app.postAuthor :=
  congrArg Setup.postAuthor (app.setup_after event)

theorem postAuthor_run (app : App) (events : List Event) :
    (app.run events).postAuthor = app.postAuthor :=
  congrArg Setup.postAuthor (app.setup_run events)

/-- The first comment of a reply that is put into the discussion is marked if it is by the post's
author. -/
theorem marked_of_graft? {app : App} {moment : Moment} {parent : CommentId} {answer : Json}
    {reply : Thread} {author : String} (known : app.postAuthor = some author)
    (grafted : app.graft? moment parent answer = some reply) :
    reply.comment.byPostAuthor = (reply.comment.author == author) := by
  cases decoded : Listing.entryOfJson answer with
  | error cause => simp [graft?, decoded] at grafted
  | ok entry =>
      simp only [graft?, decoded, Option.ite_none_right_eq_some, Option.some.injEq] at grafted
      obtain ⟨-, rfl⟩ := grafted
      simp [markReply, known, Thread.markRoot, Comment.mark]

theorem marked_of_addition? {app : App} {event : Event} {added : Addition} {author : String}
    (known : app.postAuthor = some author) (adds : app.addition? event = some added) :
    added.reply.comment.byPostAuthor = (added.reply.comment.author == author) := by
  cases event with
  | typed id text => contradiction
  | acted moment action =>
      cases action with
      | replyAnswered parent submission result =>
          cases result with
          | error cause => contradiction
          | ok answer =>
              obtain ⟨reply, grafted, rfl⟩ := Option.map_eq_some_iff.mp adds
              exact marked_of_graft? known grafted
      | _ => contradiction

variable {app : App} {author : String}

/-- Comments that are loaded are marked. -/
theorem marksAuthor_of_loads (known : app.postAuthor = some author) {event : Event}
    (loads : event.Loads) : (app.after event).discussion.MarksAuthor author := by
  cases event with
  | typed id text => contradiction
  | acted moment action =>
      cases action with
      | arrived result =>
          cases result with
          | error cause => contradiction
          | ok threads =>
              have marked := Discussion.marksAuthor_markAuthor ⟨threads⟩ author
              rw [after, app.update_arrived_of_nodup moment loads]
              simpa [markPostAuthor, known] using marked
      | _ => contradiction

/-- An event that loads nothing keeps the marks right exactly if the comments below the one that it
adds come with the right marks. -/
theorem marksAuthor_after_iff (known : app.postAuthor = some author) {event : Event}
    (unloaded : ¬event.Loads) :
    (app.after event).discussion.MarksAuthor author ↔
      app.discussion.MarksAuthor author ∧
        ∀ added ∈ app.addition? event, Discussion.MarksAuthor ⟨added.reply.replies⟩ author := by
  cases adds : app.addition? event with
  | none => simp [discussion_after_of_none unloaded adds]
  | some added =>
      rw [Discussion.marksAuthor_of_grown (grown_of_addition? adds).2]
      simp [marked_of_addition? known adds]

theorem marksAuthor_run_iff (known : app.postAuthor = some author) {events : List Event}
    (unloaded : app.Avoids (fun _ event => event.Loads) events) :
    (app.run events).discussion.MarksAuthor author ↔
      app.discussion.MarksAuthor author ∧
        ∀ added ∈ app.additions events, Discussion.MarksAuthor ⟨added.reply.replies⟩ author := by
  induction events generalizing app with
  | nil => simp [run, additions]
  | cons event rest ih =>
      obtain ⟨first, others⟩ := unloaded
      have same : (app.after event).postAuthor = some author :=
        (app.postAuthor_after event).trans known
      rw [run, ih same others, marksAuthor_after_iff known first, additions]
      simp only [List.forall_mem_append, Option.mem_toList, and_assoc]
      rfl

/-- The discussion has just been shown as a whole: it was known from the start, or it was loaded. -/
inductive Presented : App → Prop where
  | known (app : App) (discussion : Discussion) : Presented (app.withDiscussion discussion)
  | loaded (app : App) (event : Event) (loads : event.Loads) : Presented (app.after event)

theorem Presented.marksAuthor (presented : Presented app) (known : app.postAuthor = some author) :
    app.discussion.MarksAuthor author := by
  cases presented with
  | known app discussion =>
      have marked := discussion.marksAuthor_markAuthor author
      simpa [withDiscussion, markPostAuthor, show app.postAuthor = some author from known] using
        marked
  | loaded app event loads =>
      exact marksAuthor_of_loads ((app.postAuthor_after event).symm.trans known) loads

/-- Once a discussion was shown as a whole, exactly the comments of the post's author are marked if
and only if, in every reply that was added since comments were last loaded, the comments below the
first one came with the right marks. -/
theorem marksAuthor_iff_of_presented {start : App} (presented : Presented start)
    (known : start.postAuthor = some author) (events : List Event) :
    ∃ earlier later, events = earlier ++ later ∧
      start.SinceLast (fun _ event => event.Loads) earlier later ∧
      ((start.run events).discussion.MarksAuthor author ↔
        ∀ added ∈ (start.run earlier).additions later,
          Discussion.MarksAuthor ⟨added.reply.replies⟩ author) := by
  obtain ⟨earlier, later, rfl, since⟩ :=
    start.exists_sinceLast (fun _ event => event.Loads) events
  refine ⟨earlier, later, rfl, since, ?_⟩
  have same : (start.run earlier).postAuthor = some author :=
    (start.postAuthor_run earlier).trans known
  have whole : Presented (start.run earlier) := by
    rcases since.begins with rfl | ⟨before, last, rfl, loads⟩
    · exact presented
    · rw [run_append]
      exact .loaded (start.run before) last loads
  rw [run_append, marksAuthor_run_iff same since.avoids]
  exact and_iff_right (whole.marksAuthor same)

/-- The sample discussion below a post by somebody. -/
def sampleBy (author : String) : App :=
  ({ session := .memory (some "jwt"), postAuthor := some author } : App).withDiscussion
    ⟨Discussion.sampleThreads⟩

/-- A reply is posted, and comes back with an answer to it. -/
def answeredInTurn : List Event :=
  [.acted {} (.toggleReply 12), .typed 12 "It does.", .acted {} (.postReply 12),
    .acted {} (.replyAnswered 12 1 (.ok sampleAnswer))]

/-- The post's author wrote the reply. The answer to it is by somebody else, and all marks are
right. -/
theorem marksAuthor_answeredInTurn :
    Presented (sampleBy "late_reader") ∧ (sampleBy "late_reader").postAuthor = some "late_reader" ∧
      ((sampleBy "late_reader").run answeredInTurn).discussion.MarksAuthor "late_reader" := by
  have presented : Presented (sampleBy "late_reader") := .known _ _
  refine ⟨presented, rfl, ?_⟩
  obtain ⟨earlier, later, split, since, right⟩ :=
    marksAuthor_iff_of_presented presented rfl answeredInTurn
  have whole : (sampleBy "late_reader").SinceLast (fun _ event => event.Loads) []
      answeredInTurn := ⟨.inl rfl, by simp [Avoids, answeredInTurn, Event.Loads]⟩
  obtain ⟨rfl, rfl⟩ := whole.unique since split
  exact right.mpr (by decide +kernel)

/-- The post's author wrote the answer to the reply, and it stays unmarked. -/
theorem unmarked_answeredInTurn :
    Presented (sampleBy "hater_101") ∧ (sampleBy "hater_101").postAuthor = some "hater_101" ∧
      (∃ comment ∈ ((sampleBy "hater_101").run answeredInTurn).discussion.comments,
        comment.id = 501 ∧ comment.author = "hater_101" ∧ comment.byPostAuthor = false) ∧
      ¬((sampleBy "hater_101").run answeredInTurn).discussion.MarksAuthor "hater_101" := by
  refine ⟨.known _ _, rfl, ?_, ?_⟩
  · decide +kernel
  · decide +kernel

end App

end Colloquy
