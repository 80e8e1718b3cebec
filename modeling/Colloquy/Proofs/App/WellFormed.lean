import Colloquy.Proofs.App.Run

/-!
# Applications in order

An application is in order if no id occurs twice in its discussion and its view is in order. Every
event keeps an application in order, and every application starts in order.
-/

namespace Colloquy.App

/-- An application is in order. -/
structure WellFormed (app : App) : Prop where
  distinct : app.discussion.ids.Nodup
  view : app.view.WellFormed app.discussion

/-! ## Answers to submissions -/

/-- What an answer does to the view: it reaches the reply that awaits it, and nothing else. -/
theorem view_takeAnswer (app : App) (moment : Moment) (parent : CommentId)
    (submission : SubmissionNumber) (result : PostResult) :
    (app.takeAnswer moment parent submission result).view =
      match (app.view.openReply? parent).filter fun reply => reply.isAwaiting submission, result with
      | none, _ => app.view
      | some _, .ok _ => app.view.discardReply parent
      | some reply, .error _ => app.view.setOpenReply parent { reply with awaiting := none } := by
  cases result with
  | ok answer =>
      simp only [takeAnswer]
      rw [splice_eq]
      cases (app.view.openReply? parent).filter fun reply => reply.isAwaiting submission with
      | none => rfl
      | some reply => rfl
  | error cause =>
      simp only [takeAnswer]
      cases (app.view.openReply? parent).filter fun reply => reply.isAwaiting submission with
      | none => rfl
      | some reply => rfl

/-- What an answer does to the discussion does not depend on who awaits it. -/
theorem discussion_takeAnswer (app : App) (moment : Moment) (parent : CommentId)
    (submission : SubmissionNumber) (result : PostResult) :
    (app.takeAnswer moment parent submission result).discussion =
      match result with
      | .ok answer => (app.splice moment parent answer).discussion
      | .error _ => app.discussion := by
  cases result with
  | error cause => rfl
  | ok answer =>
      cases decoded : Listing.entryOfJson answer with
      | error cause => simp [takeAnswer, splice, decoded]
      | ok entry =>
          simp only [takeAnswer, splice, decoded]
          split <;> rfl

/-! ## Events -/

namespace WellFormed

variable {app : App}

/-- A change of the view alone. -/
theorem withView (ordered : app.WellFormed) {next : App} {view : View}
    (sound : view.WellFormed app.discussion) (kept : next.discussion = app.discussion)
    (changed : next.view = view) : next.WellFormed := by
  constructor
  · rw [kept]
    exact ordered.distinct
  · rw [kept, changed]
    exact sound

/-- A reply that is put into the discussion repeats no id and removes none. -/
theorem splice (ordered : app.WellFormed) (moment : Moment) (parent : CommentId) (answer : Json) :
    (app.splice moment parent answer).discussion.ids.Nodup ∧
      app.discussion.ids ⊆ (app.splice moment parent answer).discussion.ids := by
  cases grafted : app.graft? moment parent answer with
  | none =>
      rw [splice_of_graft?_eq_none grafted]
      exact ⟨ordered.distinct, fun _ listed => listed⟩
  | some reply =>
      obtain ⟨grown, spliced, growth⟩ := splice_of_graft? grafted
      rw [spliced]
      refine ⟨Discussion.ids_nodup_of_grown ordered.distinct (fits_of_graft? grafted) growth, ?_⟩
      simpa only [Discussion.ids_eq_outline] using
        List.map_subset Placed.id growth.sublist.subset

theorem takeAnswer (ordered : app.WellFormed) (moment : Moment) (parent : CommentId)
    (submission : SubmissionNumber) (result : PostResult) :
    (app.takeAnswer moment parent submission result).WellFormed := by
  have reached : (app.takeAnswer moment parent submission result).view.WellFormed
      app.discussion := by
    rw [view_takeAnswer]
    cases awaited : (app.view.openReply? parent).filter fun reply =>
        reply.isAwaiting submission with
    | none => exact ordered.view
    | some reply =>
        have opened := (Option.filter_eq_some_iff.mp awaited).1
        cases result with
        | ok answer => exact ordered.view.discardReply parent
        | error cause =>
            have answers : reply.parent = parent := ordered.view.parent_eq opened
            exact ordered.view.setOpenReply answers
  constructor
  · rw [discussion_takeAnswer]
    cases result with
    | ok answer => exact (ordered.splice moment parent answer).1
    | error cause => exact ordered.distinct
  · rw [discussion_takeAnswer]
    cases result with
    | ok answer => exact reached.mono (ordered.splice moment parent answer).2
    | error cause => exact reached

theorem arrived (ordered : app.WellFormed) (moment : Moment) (result : ListingResult) :
    (app.update moment (.arrived result)).1.WellFormed := by
  by_cases loads : ∃ threads, result = .ok threads ∧ (Discussion.ids ⟨threads⟩).Nodup
  · obtain ⟨threads, rfl, distinct⟩ := loads
    rw [app.update_arrived_of_nodup moment distinct]
    constructor
    · rw [ids_markPostAuthor]
      exact distinct
    · exact View.wellFormed_empty _
  · obtain ⟨kept, unchanged⟩ := app.update_arrived_of_refused moment
      (fun threads same distinct => loads ⟨threads, same, distinct⟩)
    exact ordered.withView ordered.view kept unchanged

theorem submit (ordered : app.WellFormed) (moment : Moment) (id : CommentId) :
    (app.submit moment id).1.WellFormed := by
  rcases app.submit_cases moment id with
    ⟨reply, bearer, opened, -, submitted⟩ | ⟨-, notices, refused⟩
  · have answers : reply.parent = id := ordered.view.parent_eq opened
    rw [submitted]
    exact ⟨ordered.distinct, ordered.view.setOpenReply answers⟩
  · rw [refused]
    exact ⟨ordered.distinct, ordered.view⟩

theorem update (ordered : app.WellFormed) (moment : Moment) (action : Action) :
    (app.update moment action).1.WellFormed := by
  cases action with
  | refresh => exact ⟨ordered.distinct, ordered.view⟩
  | arrived result => exact ordered.arrived moment result
  | fold id => exact ⟨ordered.distinct, ordered.view.fold id⟩
  | unfold id => exact ⟨ordered.distinct, ordered.view.unfold id⟩
  | toggleFold id => exact ⟨ordered.distinct, ordered.view.toggleFold id⟩
  | toggleReply id => exact ⟨ordered.distinct, ordered.view.toggleReply id⟩
  | discardReply id => exact ⟨ordered.distinct, ordered.view.discardReply id⟩
  | vote id vote => exact ⟨ordered.distinct, ordered.view.vote id vote⟩
  | postReply id => exact ordered.submit moment id
  | replyAnswered parent submission result =>
      exact ordered.takeAnswer moment parent submission result
  | quit => exact ordered

theorem type (ordered : app.WellFormed) (id : CommentId) (text : String) :
    (app.type id text).WellFormed := by
  cases opened : app.view.openReply? id with
  | none => simpa [App.type, opened] using ordered
  | some reply =>
      have answers : reply.parent = id := ordered.view.parent_eq opened
      simpa [App.type, opened] using
        (⟨ordered.distinct, ordered.view.setOpenReply answers⟩ : WellFormed { app with
          view := app.view.setOpenReply id { reply with content := text } })

theorem after (ordered : app.WellFormed) (event : Event) : (app.after event).WellFormed := by
  cases event with
  | acted moment action => exact ordered.update moment action
  | typed id text => exact ordered.type id text

theorem run (ordered : app.WellFormed) (events : List Event) : (app.run events).WellFormed :=
  run_keeps (fun event _ _ ordered => ordered.after event) ordered

end WellFormed

/-- Applications start in order. -/
theorem Starts.wellFormed {app : App} (starts : Starts app) : app.WellFormed := by
  constructor
  · cases starts with
    | empty app unread untouched => simp [unread]
    | known app threads discussion built =>
        obtain ⟨distinct, rfl⟩ := Discussion.ofThreads_eq_ok_iff.mp built
        simpa [withDiscussion] using distinct
  · rw [starts.view_eq]
    exact View.wellFormed_empty _

theorem Reachable.wellFormed {app : App} (reachable : Reachable app) : app.WellFormed := by
  obtain ⟨start, events, starts, rfl⟩ := reachable
  exact starts.wellFormed.run events

/-- Whatever happened, no id occurs twice in the discussion, every mounted comment is one of the
discussion and is kept under its own id, a reply under way answers the comment below which it is
kept, and no comment is folded while a reply to it is under way. -/
theorem mounted_of_reachable {app : App} (reachable : Reachable app) :
    app.discussion.ids.Nodup ∧ ∀ id node, (id, node) ∈ app.view.nodes →
      id ∈ app.discussion.ids ∧ node.id = id ∧
        (∀ reply, node.openReply = some reply → reply.parent = id) ∧
        ¬(node.folded = true ∧ node.openReply.isSome) := by
  have ordered := reachable.wellFormed
  refine ⟨ordered.distinct, ?_⟩
  intro id node mounted
  obtain ⟨listed, sound⟩ := ordered.view id node (View.node?_eq_some_iff.mpr mounted)
  refine ⟨listed, sound.own, sound.answers, ?_⟩
  rintro ⟨folded, writing⟩
  rw [sound.closed folded] at writing
  contradiction

/-- A thread is folded while its ticket is in flight; the reply comes in all the same, is voted for
and answered. -/
def foldedAway : List Event :=
  [.acted {} (.toggleReply 12), .typed 12 "It does.", .acted {} (.postReply 12),
    .acted {} (.fold 1), .acted {} (.replyAnswered 12 1 (.ok sampleAnswer)),
    .acted {} (.vote 500 .up), .acted {} (.toggleReply 501)]

theorem mounted_foldedAway :
    (sample.run foldedAway).discussion.ids.Nodup ∧
      (sample.run foldedAway).view.nodes.map Prod.fst = [1, 500, 501] ∧
      ∀ id node, (id, node) ∈ (sample.run foldedAway).view.nodes →
        id ∈ (sample.run foldedAway).discussion.ids ∧ node.id = id ∧
          (∀ reply, node.openReply = some reply → reply.parent = id) ∧
          ¬(node.folded = true ∧ node.openReply.isSome) := by
  have reachable : Reachable (sample.run foldedAway) := ⟨sample, _, starts_sample, rfl⟩
  obtain ⟨distinct, mounted⟩ := mounted_of_reachable reachable
  exact ⟨distinct, by decide +kernel, mounted⟩

end Colloquy.App
