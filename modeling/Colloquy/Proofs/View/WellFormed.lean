import Colloquy.Proofs.Discussion.Ancestry
import Colloquy.Proofs.View.Nodes

/-!
# Views in order

A view is in order if every mounted comment belongs to the discussion, its state is kept under its
own id, a reply under way below it answers it, and no reply is under way below a folded comment.
Every change of a view keeps it in order.
-/

namespace Colloquy

/-- The state of a comment is in order. -/
structure NodeState.WellFormed (node : NodeState) (id : CommentId) : Prop where
  /-- It is kept under its own id. -/
  own : node.id = id
  /-- A reply under way answers the comment. -/
  answers : ∀ reply, node.openReply = some reply → reply.parent = id
  /-- A folded comment has no reply under way. -/
  closed : node.folded = true → node.openReply = none

namespace NodeState.WellFormed

variable {node : NodeState} {id : CommentId}

theorem fold (sound : node.WellFormed id) : node.fold.WellFormed id where
  own := sound.own
  answers := by simp [NodeState.fold]
  closed := by simp [NodeState.fold]

theorem unfold (sound : node.WellFormed id) : node.unfold.WellFormed id := by
  cases folded : node.folded with
  | true => exact ⟨by simpa [NodeState.unfold, folded] using sound.own,
      by simp [NodeState.unfold, folded], by simp [NodeState.unfold, folded]⟩
  | false => simpa [NodeState.unfold, folded] using sound

theorem discardReply (sound : node.WellFormed id) : node.discardReply.WellFormed id where
  own := sound.own
  answers := by simp [NodeState.discardReply]
  closed := by simp [NodeState.discardReply]

theorem toggleReply (sound : node.WellFormed id) : node.toggleReply.WellFormed id := by
  cases folded : node.folded with
  | true => simpa [NodeState.toggleReply, folded] using sound
  | false =>
      cases opened : node.openReply with
      | some reply =>
          have discarded := sound.discardReply
          simpa [NodeState.toggleReply, folded, opened, NodeState.discardReply] using discarded
      | none =>
          constructor
          · simpa [NodeState.toggleReply, folded, opened] using sound.own
          · simp [NodeState.toggleReply, folded, opened, sound.own]
          · simp [NodeState.toggleReply, folded, opened]

theorem score (sound : node.WellFormed id) (score : Int64) :
    ({ node with score } : NodeState).WellFormed id :=
  ⟨sound.own, sound.answers, sound.closed⟩

theorem setOpenReply (sound : node.WellFormed id) {reply : OpenReply}
    (answers : reply.parent = id) :
    ({ node with openReply := node.openReply.map fun _ => reply } : NodeState).WellFormed id := by
  refine ⟨sound.own, ?_, fun folded => by simp [sound.closed folded]⟩
  intro given opened
  obtain ⟨_, _, rfl⟩ := Option.map_eq_some_iff.mp opened
  exact answers

end NodeState.WellFormed

theorem NodeState.wellFormed_mount (comment : Comment) :
    (NodeState.mount comment).WellFormed comment.id :=
  ⟨rfl, by simp [NodeState.mount], by simp [NodeState.mount]⟩

namespace View

/-- A view of a discussion is in order. -/
def WellFormed (view : View) (discussion : Discussion) : Prop :=
  ∀ id node, view.node? id = some node → id ∈ discussion.ids ∧ node.WellFormed id

theorem wellFormed_empty (discussion : Discussion) : ({} : View).WellFormed discussion := by
  intro id node mounted
  simp [node?] at mounted

namespace WellFormed

variable {view next : View} {discussion grown : Discussion} {id : CommentId}

/-- Comments that join a discussion do not disturb its view. -/
theorem mono (sound : view.WellFormed discussion) (more : discussion.ids ⊆ grown.ids) :
    view.WellFormed grown := by
  intro other node mounted
  obtain ⟨listed, ordered⟩ := sound other node mounted
  exact ⟨more listed, ordered⟩

/-- A state that is fetched is in order, also a fresh one. -/
theorem fetched (sound : view.WellFormed discussion) {node : NodeState}
    (fetched : view.nodeOrFresh? discussion id = some node) :
    id ∈ discussion.ids ∧ node.WellFormed id := by
  cases mounted : view.node? id with
  | some kept =>
      simp only [nodeOrFresh?, mounted, Option.orElse_some, Option.some.injEq] at fetched
      exact fetched ▸ sound id kept mounted
  | none =>
      simp only [nodeOrFresh?, mounted, Option.orElse_none, Option.map_eq_some_iff] at fetched
      obtain ⟨thread, found, rfl⟩ := fetched
      obtain ⟨rfl, depth, visited⟩ := Discussion.visited_of_find? found
      exact ⟨Discussion.mem_ids_iff.mpr ⟨_, visited, rfl⟩, NodeState.wellFormed_mount _⟩

/-- A change aimed at one comment keeps a view in order if it keeps the comment's state in order. -/
theorem changed (sound : view.WellFormed discussion) {source : Option NodeState}
    {change : NodeState → NodeState}
    (given : ∀ node, source = some node → id ∈ discussion.ids ∧ node.WellFormed id)
    (keeps : ∀ node, node.WellFormed id → (change node).WellFormed id)
    (described : ∀ other, next.node? other =
      if other = id then source.map change else view.node? other) :
    next.WellFormed discussion := by
  intro other node mounted
  rw [described] at mounted
  by_cases here : other = id
  · subst here
    simp only [if_true, Option.map_eq_some_iff] at mounted
    obtain ⟨before, fetched, rfl⟩ := mounted
    exact ⟨(given before fetched).1, keeps before (given before fetched).2⟩
  · rw [if_neg here] at mounted
    exact sound other node mounted

theorem fold (sound : view.WellFormed discussion) (id : CommentId) :
    (view.fold discussion id).1.WellFormed discussion := by
  intro other node mounted
  rw [node?_fold] at mounted
  by_cases below : other ∈ discussion.descendants id
  · simp [below] at mounted
  · rw [if_neg below] at mounted
    by_cases here : other = id
    · subst here
      simp only [if_true, Option.map_eq_some_iff] at mounted
      obtain ⟨before, fetched, rfl⟩ := mounted
      exact ⟨(sound.fetched fetched).1, (sound.fetched fetched).2.fold⟩
    · rw [if_neg here] at mounted
      exact sound other node mounted

theorem unfold (sound : view.WellFormed discussion) (id : CommentId) :
    (view.unfold discussion id).1.WellFormed discussion :=
  sound.changed (fun _ fetched => sound.fetched fetched) (fun _ ordered => ordered.unfold)
    (view.node?_unfold discussion id)

theorem toggleFold (sound : view.WellFormed discussion) (id : CommentId) :
    (view.toggleFold discussion id).1.WellFormed discussion := by
  cases folded : view.isFolded id with
  | true => simpa [View.toggleFold, folded] using sound.unfold id
  | false => simpa [View.toggleFold, folded] using sound.fold id

theorem toggleReply (sound : view.WellFormed discussion) (id : CommentId) :
    (view.toggleReply discussion id).1.WellFormed discussion :=
  sound.changed (fun _ fetched => sound.fetched fetched) (fun _ ordered => ordered.toggleReply)
    (view.node?_toggleReply discussion id)

theorem vote (sound : view.WellFormed discussion) (id : CommentId) (vote : Vote) :
    (view.vote discussion id vote).1.WellFormed discussion :=
  sound.changed (fun _ fetched => sound.fetched fetched) (fun _ ordered => ordered.score _)
    (fun other => view.node?_vote discussion id other vote)

theorem discardReply (sound : view.WellFormed discussion) (id : CommentId) :
    (view.discardReply id).WellFormed discussion :=
  sound.changed (sound id) (fun _ ordered => ordered.discardReply) (view.node?_discardReply id)

theorem setOpenReply (sound : view.WellFormed discussion) {reply : OpenReply}
    (answers : reply.parent = id) : (view.setOpenReply id reply).WellFormed discussion :=
  sound.changed (sound id) (fun _ ordered => ordered.setOpenReply answers)
    (fun other => view.node?_setOpenReply id other reply)

/-- A reply under way answers the comment below which it is written. -/
theorem parent_eq (sound : view.WellFormed discussion) {reply : OpenReply}
    (opened : view.openReply? id = some reply) : reply.parent = id := by
  obtain ⟨node, mounted, writing⟩ := Option.bind_eq_some_iff.mp opened
  exact (sound id node mounted).2.answers reply writing

/-- A comment with a reply under way is not folded. -/
theorem not_folded (sound : view.WellFormed discussion) {reply : OpenReply}
    (opened : view.openReply? id = some reply) : view.isFolded id = false := by
  obtain ⟨node, mounted, writing⟩ := Option.bind_eq_some_iff.mp opened
  cases folded : node.folded with
  | false => simp [isFolded, mounted, folded]
  | true =>
      rw [(sound id node mounted).2.closed folded] at writing
      contradiction

end WellFormed

end View

end Colloquy
