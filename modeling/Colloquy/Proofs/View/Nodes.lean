import Colloquy.Discussion.View

/-!
# What happens to the state of a comment

Every change of a view is described by what it does to the state of each comment, and by what it
does to the reply under way below each comment. A change that is aimed at one comment leaves the
others alone, except that folding forgets everything beneath the comment.
-/

namespace Colloquy.View

variable (view : View) (discussion : Discussion) (id other : CommentId)

/-- A comment that is neither mounted nor in the discussion has no state to fetch. -/
theorem nodeOrFresh?_eq_none_iff :
    view.nodeOrFresh? discussion id = none ↔
      view.node? id = none ∧ discussion.find? id = none := by
  simp [nodeOrFresh?]

/-- A fresh state has no reply under way. -/
theorem nodeOrFresh?_bind_openReply :
    (view.nodeOrFresh? discussion id).bind NodeState.openReply = view.openReply? id := by
  cases mounted : view.node? id with
  | some node => simp [nodeOrFresh?, openReply?, mounted]
  | none =>
      cases found : discussion.find? id with
      | none => simp [nodeOrFresh?, openReply?, mounted, found]
      | some thread => simp [nodeOrFresh?, openReply?, mounted, found, NodeState.mount]

/-! ## States -/

theorem node?_fold :
    (view.fold discussion id).1.node? other =
      if other ∈ discussion.descendants id then none
      else if other = id then (view.nodeOrFresh? discussion id).map NodeState.fold
      else view.node? other := by
  cases fetched : view.nodeOrFresh? discussion id with
  | some node => simp [fold, fetched]
  | none =>
      obtain ⟨unmounted, absent⟩ := (view.nodeOrFresh?_eq_none_iff discussion id).mp fetched
      simp only [fold, fetched, Discussion.descendants, absent, List.not_mem_nil, if_false]
      grind

theorem node?_unfold :
    (view.unfold discussion id).1.node? other =
      if other = id then (view.nodeOrFresh? discussion id).map NodeState.unfold
      else view.node? other := by
  cases fetched : view.nodeOrFresh? discussion id with
  | some node => simp [unfold, fetched]
  | none =>
      obtain ⟨unmounted, -⟩ := (view.nodeOrFresh?_eq_none_iff discussion id).mp fetched
      simp only [unfold, fetched]
      grind

theorem node?_toggleReply :
    (view.toggleReply discussion id).1.node? other =
      if other = id then (view.nodeOrFresh? discussion id).map NodeState.toggleReply
      else view.node? other := by
  cases fetched : view.nodeOrFresh? discussion id with
  | some node => simp [toggleReply, fetched]
  | none =>
      obtain ⟨unmounted, -⟩ := (view.nodeOrFresh?_eq_none_iff discussion id).mp fetched
      simp only [toggleReply, fetched]
      grind

/-- A vote that 64 bits cannot hold leaves the score as it is. -/
theorem node?_vote (vote : Vote) :
    (view.vote discussion id vote).1.node? other =
      if other = id then
        (view.nodeOrFresh? discussion id).map fun node =>
          { node with score := (vote.cast? node.score).getD node.score }
      else view.node? other := by
  cases fetched : view.nodeOrFresh? discussion id with
  | some node =>
      cases counted : vote.cast? node.score with
      | some score => simp [View.vote, fetched, counted]
      | none => simp [View.vote, fetched, counted]
  | none =>
      obtain ⟨unmounted, -⟩ := (view.nodeOrFresh?_eq_none_iff discussion id).mp fetched
      simp only [View.vote, fetched]
      grind

theorem node?_discardReply :
    (view.discardReply id).node? other =
      if other = id then (view.node? id).map NodeState.discardReply else view.node? other := by
  cases mounted : view.node? id with
  | some node => simp [discardReply, mounted]
  | none =>
      simp only [discardReply, mounted]
      grind

theorem node?_setOpenReply (reply : OpenReply) :
    (view.setOpenReply id reply).node? other =
      if other = id then
        (view.node? id).map fun node =>
          { node with openReply := node.openReply.map fun _ => reply }
      else view.node? other := by
  cases mounted : view.node? id with
  | some node =>
      cases opened : node.openReply with
      | some earlier => simp [setOpenReply, mounted, opened]
      | none =>
          have unchanged : { node with openReply := none } = node := by rw [← opened]
          simp only [setOpenReply, mounted, opened, Option.map_some, Option.map_none, unchanged]
          grind
  | none =>
      simp only [setOpenReply, mounted]
      grind

/-- A state that is put in place of the same state changes nothing. -/
theorem putNode_of_lookup {node : NodeState} {nodes : List (CommentId × NodeState)}
    (kept : nodes.lookup id = some node) : putNode id node nodes = nodes := by
  induction nodes with
  | nil => simp at kept
  | cons first rest ih => grind [putNode]

/-! ## Replies under way -/

theorem openReply?_fold :
    (view.fold discussion id).1.openReply? other =
      if other = id ∨ other ∈ discussion.descendants id then none
      else view.openReply? other := by
  rw [openReply?, node?_fold]
  by_cases below : other ∈ discussion.descendants id
  · simp [below]
  · by_cases here : other = id
    · cases fetched : view.nodeOrFresh? discussion id with
      | none => simp [here]
      | some node => simp [here, NodeState.fold]
    · simp [below, here, openReply?]

theorem openReply?_unfold :
    (view.unfold discussion id).1.openReply? other =
      if other = id ∧ view.isFolded id then none else view.openReply? other := by
  rw [openReply?, node?_unfold]
  by_cases here : other = id
  · subst here
    rw [← view.nodeOrFresh?_bind_openReply discussion other]
    cases mounted : view.node? other with
    | some node =>
        cases folded : node.folded with
        | true => simp [nodeOrFresh?, isFolded, mounted, NodeState.unfold, folded]
        | false => simp [nodeOrFresh?, isFolded, mounted, NodeState.unfold, folded]
    | none =>
        cases found : discussion.find? other with
        | none => simp [nodeOrFresh?, isFolded, mounted, found]
        | some thread =>
            simp [nodeOrFresh?, isFolded, mounted, found, NodeState.unfold, NodeState.mount]
  · simp [here, openReply?]

theorem openReply?_toggleFold :
    (view.toggleFold discussion id).1.openReply? other =
      if other = id ∨ (¬view.isFolded id ∧ other ∈ discussion.descendants id) then none
      else view.openReply? other := by
  cases folded : view.isFolded id with
  | true => simp [toggleFold, folded, openReply?_unfold]
  | false => simp [toggleFold, folded, openReply?_fold]

theorem openReply?_toggleReply :
    (view.toggleReply discussion id).1.openReply? other =
      if other = id then
        (view.nodeOrFresh? discussion id).bind fun node => node.toggleReply.openReply
      else view.openReply? other := by
  rw [openReply?, node?_toggleReply]
  by_cases here : other = id
  · rw [if_pos here, if_pos here, Option.bind_map]
    rfl
  · simp [here, openReply?]

theorem openReply?_vote (vote : Vote) :
    (view.vote discussion id vote).1.openReply? other = view.openReply? other := by
  rw [openReply?, node?_vote]
  by_cases here : other = id
  · subst here
    rw [← view.nodeOrFresh?_bind_openReply discussion other]
    rw [if_pos rfl, Option.bind_map]
    rfl
  · simp [here, openReply?]

theorem openReply?_discardReply :
    (view.discardReply id).openReply? other =
      if other = id then none else view.openReply? other := by
  rw [openReply?, node?_discardReply]
  by_cases here : other = id
  · simp [here, Option.bind_map, Function.comp_def, NodeState.discardReply]
  · simp [here, openReply?]

theorem openReply?_setOpenReply (reply : OpenReply) :
    (view.setOpenReply id reply).openReply? other =
      if other = id then (view.openReply? id).map fun _ => reply else view.openReply? other := by
  rw [openReply?, node?_setOpenReply]
  by_cases here : other = id
  · subst here
    cases mounted : view.node? other with
    | none => simp [openReply?, mounted]
    | some node => simp [openReply?, mounted]
  · simp [here, openReply?]

/-- A reply that is put in place of the same reply changes nothing. -/
theorem setOpenReply_of_openReply? {reply : OpenReply}
    (opened : view.openReply? id = some reply) : view.setOpenReply id reply = view := by
  obtain ⟨node, mounted, writing⟩ := Option.bind_eq_some_iff.mp opened
  have same : { node with openReply := some reply } = node := by rw [← writing]
  simp only [setOpenReply, mounted, writing, Option.isSome_some, if_true, same, put,
    putNode_of_lookup id mounted]

end Colloquy.View
