import Colloquy.Proofs.App.WellFormed

/-!
# States under their own ids

Every state of a view is kept under the id of its comment. No change of a view puts a state under
another id, so the replies that are begun answer the comments below which they are kept.
-/

namespace Colloquy

namespace NodeState

theorem id_unfold (node : NodeState) : node.unfold.id = node.id := by
  cases folded : node.folded with
  | true => simp [unfold, folded]
  | false => simp [unfold, folded]

theorem id_toggleReply (node : NodeState) : node.toggleReply.id = node.id := by
  unfold toggleReply
  split
  · rfl
  · split
    · rfl
    · rfl

end NodeState

namespace View

/-- Every state is kept under the id of its comment. -/
def Keyed (view : View) : Prop :=
  ∀ id node, view.node? id = some node → node.id = id

namespace Keyed

variable {view next : View} {discussion : Discussion} {id : CommentId}

theorem fetched (keyed : view.Keyed) {node : NodeState}
    (fetched : view.nodeOrFresh? discussion id = some node) : node.id = id := by
  cases mounted : view.node? id with
  | some kept =>
      simp only [nodeOrFresh?, mounted, Option.orElse_some, Option.some.injEq] at fetched
      exact fetched ▸ keyed id kept mounted
  | none =>
      simp only [nodeOrFresh?, mounted, Option.orElse_none, Option.map_eq_some_iff] at fetched
      obtain ⟨thread, found, rfl⟩ := fetched
      exact (Discussion.visited_of_find? found).1

/-- A change aimed at one comment keeps its state under its id. -/
theorem changed (keyed : view.Keyed) {source : Option NodeState} {change : NodeState → NodeState}
    (described : ∀ other, next.node? other =
      if other = id then source.map change else view.node? other)
    (given : ∀ node, source = some node → node.id = id)
    (keeps : ∀ node, (change node).id = node.id) : next.Keyed := by
  intro other node mounted
  rw [described] at mounted
  by_cases here : other = id
  · subst here
    simp only [if_true, Option.map_eq_some_iff] at mounted
    obtain ⟨before, fetched, rfl⟩ := mounted
    rw [keeps, given before fetched]
  · rw [if_neg here] at mounted
    exact keyed other node mounted

theorem fold (keyed : view.Keyed) (id : CommentId) : (view.fold discussion id).1.Keyed := by
  intro other node mounted
  rw [node?_fold] at mounted
  by_cases below : other ∈ discussion.descendants id
  · simp [below] at mounted
  · rw [if_neg below] at mounted
    by_cases here : other = id
    · subst here
      simp only [if_true, Option.map_eq_some_iff] at mounted
      obtain ⟨before, fetched, rfl⟩ := mounted
      have own : before.id = other := keyed.fetched fetched
      exact own
    · rw [if_neg here] at mounted
      exact keyed other node mounted

theorem unfold (keyed : view.Keyed) (id : CommentId) : (view.unfold discussion id).1.Keyed :=
  keyed.changed (view.node?_unfold discussion id) (fun _ => keyed.fetched) NodeState.id_unfold

theorem toggleFold (keyed : view.Keyed) (id : CommentId) :
    (view.toggleFold discussion id).1.Keyed := by
  cases folded : view.isFolded id with
  | true => simpa [View.toggleFold, folded] using keyed.unfold id
  | false => simpa [View.toggleFold, folded] using keyed.fold id

theorem toggleReply (keyed : view.Keyed) (id : CommentId) :
    (view.toggleReply discussion id).1.Keyed :=
  keyed.changed (view.node?_toggleReply discussion id) (fun _ => keyed.fetched)
    NodeState.id_toggleReply

theorem vote (keyed : view.Keyed) (id : CommentId) (vote : Vote) :
    (view.vote discussion id vote).1.Keyed :=
  keyed.changed (fun other => view.node?_vote discussion id other vote)
    (fun _ => keyed.fetched) (fun _ => rfl)

theorem discardReply (keyed : view.Keyed) (id : CommentId) : (view.discardReply id).Keyed :=
  keyed.changed (view.node?_discardReply id) (keyed id) (fun _ => rfl)

theorem setOpenReply (keyed : view.Keyed) (id : CommentId) (reply : OpenReply) :
    (view.setOpenReply id reply).Keyed :=
  keyed.changed (fun other => view.node?_setOpenReply id other reply) (keyed id) (fun _ => rfl)

end Keyed

end View

namespace App

variable {app : App}

theorem keyed_submit (keyed : app.view.Keyed) (moment : Moment) (id : CommentId) :
    (app.submit moment id).1.view.Keyed := by
  rcases app.submit_cases moment id with ⟨reply, bearer, -, -, submitted⟩ | ⟨-, notices, refused⟩
  · rw [submitted]
    exact keyed.setOpenReply id _
  · rw [refused]
    exact keyed

theorem keyed_takeAnswer (keyed : app.view.Keyed) (moment : Moment) (parent : CommentId)
    (submission : SubmissionNumber) (result : PostResult) :
    (app.takeAnswer moment parent submission result).view.Keyed := by
  rw [view_takeAnswer]
  split
  · exact keyed
  · exact keyed.discardReply parent
  · exact keyed.setOpenReply parent _

theorem keyed_arrived (keyed : app.view.Keyed) (moment : Moment) (result : ListingResult) :
    (app.update moment (.arrived result)).1.view.Keyed := by
  by_cases loads : ∃ threads, result = .ok threads ∧ (Discussion.ids ⟨threads⟩).Nodup
  · obtain ⟨threads, rfl, distinct⟩ := loads
    rw [app.update_arrived_of_nodup moment distinct]
    nofun
  · rw [(app.update_arrived_of_refused moment
      fun threads same distinct => loads ⟨threads, same, distinct⟩).2]
    exact keyed

/-- Every action keeps states under their own ids. -/
theorem keyed_update (keyed : app.view.Keyed) (moment : Moment) (action : Action) :
    (app.update moment action).1.view.Keyed := by
  cases action with
  | refresh | quit => exact keyed
  | arrived result => exact keyed_arrived keyed moment result
  | fold id => exact keyed.fold id
  | unfold id => exact keyed.unfold id
  | toggleFold id => exact keyed.toggleFold id
  | toggleReply id => exact keyed.toggleReply id
  | discardReply id => exact keyed.discardReply id
  | vote id vote => exact keyed.vote id vote
  | postReply id => exact keyed_submit keyed moment id
  | replyAnswered parent submission result =>
      exact keyed_takeAnswer keyed moment parent submission result

end App

end Colloquy
