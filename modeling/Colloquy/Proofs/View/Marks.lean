import Colloquy.Proofs.Discussion.Ancestry
import Colloquy.Proofs.View.Nodes

/-!
# Marks

What the reader sees of a comment apart from the reply under way below it: whether the comment is
folded, and its score. Together these are the marks of a mounted comment. Replies leave the marks
alone, and a change that mounts a comment starts from the marks of an untouched one.
-/

namespace Colloquy

/-- What is done to a comment apart from the reply under way below it. -/
structure Marks where
  folded : Bool
  score : Int64
  deriving DecidableEq, Repr

namespace NodeState

/-- The marks of a comment's state. -/
def marks (node : NodeState) : Marks :=
  ⟨node.folded, node.score⟩

theorem marks_fold (node : NodeState) : node.fold.marks = { node.marks with folded := true } :=
  rfl

theorem marks_unfold (node : NodeState) :
    node.unfold.marks = { node.marks with folded := false } := by
  cases folded : node.folded with
  | true => simp [unfold, marks, folded]
  | false => simp [unfold, marks, folded]

theorem marks_toggleReply (node : NodeState) : node.toggleReply.marks = node.marks := by
  cases folded : node.folded with
  | true => simp [toggleReply, folded]
  | false =>
      cases opened : node.openReply with
      | none => simp [toggleReply, marks, folded, opened]
      | some reply => simp [toggleReply, marks, folded, opened]

end NodeState

namespace View

variable (view : View) (discussion : Discussion) (id other : CommentId)

/-- The marks of a comment, if it is mounted. -/
def marks? : Option Marks :=
  (view.node? id).map NodeState.marks

/-- The marks of a comment, mounted or fresh. -/
def marksOrFresh? : Option Marks :=
  (view.nodeOrFresh? discussion id).map NodeState.marks

/-! ## What is read off the marks -/

theorem marks?_eq_none_iff : view.marks? id = none ↔ view.node? id = none :=
  Option.map_eq_none_iff

theorem isFolded_eq_marks? : view.isFolded id = (view.marks? id).any Marks.folded := by
  simp [isFolded, marks?, NodeState.marks, Option.any_map]

theorem scoreOf_eq_marks? (comment : Comment) :
    view.scoreOf comment = ((view.marks? comment.id).map Marks.score).getD comment.score := by
  cases mounted : view.node? comment.id with
  | none => simp [scoreOf, marks?, mounted]
  | some node => simp [scoreOf, marks?, mounted, NodeState.marks]

/-- Every comment of a discussion has marks: those that the reader sees. -/
theorem marksOrFresh?_of_listed {discussion : Discussion} (distinct : discussion.ids.Nodup)
    {comment : Comment} (listed : comment ∈ discussion.comments) :
    view.marksOrFresh? discussion comment.id =
      some ⟨view.isFolded comment.id, view.scoreOf comment⟩ := by
  obtain ⟨thread, found, same⟩ := Discussion.find?_of_listed distinct listed
  cases mounted : view.node? comment.id with
  | some node =>
      simp [marksOrFresh?, nodeOrFresh?, isFolded, scoreOf, mounted, NodeState.marks]
  | none =>
      simp [marksOrFresh?, nodeOrFresh?, isFolded, scoreOf, mounted, found, same,
        NodeState.marks, NodeState.mount]

theorem folded_of_marksOrFresh? {marks : Marks}
    (given : view.marksOrFresh? discussion id = some marks) :
    marks.folded = view.isFolded id := by
  obtain ⟨node, fetched, rfl⟩ := Option.map_eq_some_iff.mp given
  cases mounted : view.node? id with
  | some kept =>
      obtain rfl : kept = node := by simpa [nodeOrFresh?, mounted] using fetched
      simp [NodeState.marks, isFolded, mounted]
  | none =>
      simp only [nodeOrFresh?, mounted, Option.orElse_none, Option.map_eq_some_iff] at fetched
      obtain ⟨thread, -, rfl⟩ := fetched
      simp [NodeState.marks, NodeState.mount, isFolded, mounted]

/-- Only mounted comments and those of the discussion have marks. -/
theorem marksOrFresh?_eq_none_iff :
    view.marksOrFresh? discussion id = none ↔
      view.node? id = none ∧ id ∉ discussion.ids := by
  rw [marksOrFresh?, Option.map_eq_none_iff, nodeOrFresh?_eq_none_iff, ← Option.not_isSome_iff_eq_none
    (o := discussion.find? id), Discussion.find?_isSome_iff]

/-! ## What changes do to the marks -/

/-- A change aimed at one comment shows in its marks. -/
theorem marks?_of_changed {next : View} {source : Option NodeState}
    {change : NodeState → NodeState} (effect : Marks → Marks)
    (described : next.node? other = if other = id then source.map change else view.node? other)
    (shows : ∀ node, (change node).marks = effect node.marks) :
    next.marks? other =
      if other = id then (source.map NodeState.marks).map effect else view.marks? other := by
  rw [marks?, described]
  by_cases here : other = id
  · simp [here, Function.comp_def, shows]
  · simp [here, marks?]

theorem marks?_fold :
    (view.fold discussion id).1.marks? other =
      if other ∈ discussion.descendants id then none
      else if other = id then
        (view.marksOrFresh? discussion id).map fun marks => { marks with folded := true }
      else view.marks? other := by
  have described := view.node?_fold discussion id other
  by_cases below : other ∈ discussion.descendants id
  · rw [if_pos below] at described
    simp [marks?, described, below]
  · rw [if_neg below] at described
    rw [if_neg below]
    exact view.marks?_of_changed id other _ described NodeState.marks_fold

theorem marks?_unfold :
    (view.unfold discussion id).1.marks? other =
      if other = id then
        (view.marksOrFresh? discussion id).map fun marks => { marks with folded := false }
      else view.marks? other :=
  view.marks?_of_changed id other _ (view.node?_unfold discussion id other) NodeState.marks_unfold

theorem marks?_toggleFold_self (apart : id ∉ discussion.descendants id) :
    (view.toggleFold discussion id).1.marks? id =
      (view.marksOrFresh? discussion id).map fun marks =>
        { marks with folded := !marks.folded } := by
  cases folded : view.isFolded id with
  | true =>
      simp only [toggleFold, folded, if_true, marks?_unfold]
      apply Option.map_congr
      intro marks fetched
      simp [view.folded_of_marksOrFresh? discussion id fetched, folded]
  | false =>
      simp only [toggleFold, folded, Bool.false_eq_true, if_false, marks?_fold, if_neg apart, if_true]
      apply Option.map_congr
      intro marks fetched
      simp [view.folded_of_marksOrFresh? discussion id fetched, folded]

theorem marks?_toggleReply :
    (view.toggleReply discussion id).1.marks? other =
      if other = id then view.marksOrFresh? discussion id else view.marks? other := by
  have changed := view.marks?_of_changed id other (fun marks => marks)
    (view.node?_toggleReply discussion id other) NodeState.marks_toggleReply
  rw [changed, Option.map_id']
  rfl

/-- A vote that 64 bits cannot hold leaves the score as it is. -/
theorem marks?_vote (vote : Vote) :
    (view.vote discussion id vote).1.marks? other =
      if other = id then
        (view.marksOrFresh? discussion id).map fun marks =>
          { marks with score := (vote.cast? marks.score).getD marks.score }
      else view.marks? other :=
  view.marks?_of_changed id other _ (view.node?_vote discussion id other vote) fun _ => rfl

theorem marks?_discardReply : (view.discardReply id).marks? other = view.marks? other := by
  have changed := view.marks?_of_changed id other (fun marks => marks)
    (view.node?_discardReply id other) fun _ => rfl
  rw [changed, Option.map_id']
  by_cases here : other = id
  · simp [here, marks?]
  · simp [here]

theorem marks?_setOpenReply (reply : OpenReply) :
    (view.setOpenReply id reply).marks? other = view.marks? other := by
  have changed := view.marks?_of_changed id other (fun marks => marks)
    (view.node?_setOpenReply id other reply) fun _ => rfl
  rw [changed, Option.map_id']
  by_cases here : other = id
  · simp [here, marks?]
  · simp [here]

end View

end Colloquy
