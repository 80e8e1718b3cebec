import Colloquy.Discussion.Insert
import Colloquy.Fault
import Colloquy.Reply.OpenReply

/-!
# The reader's view

What a reader has done to the comments of a discussion: folded them, voted on them, started replies
to them. A comment is mounted when something is first done to it; one that is not mounted is
unfolded, has no reply under way, and shows the score it was received with.

Folding a comment discards the reply under way below it and everything done to the comments beneath
it.
-/

namespace Colloquy

/-- A vote for or against a comment. -/
inductive Vote where
  | up
  | down
  deriving DecidableEq, Repr, Inhabited

namespace Vote

/-- What a vote adds to a score. -/
def weight : Vote → Int
  | up => 1
  | down => -1

/-- The score after a vote, if 64 bits hold it. -/
def cast? (vote : Vote) (score : Int64) : Option Int64 :=
  match vote with
  | up => if score = Int64.maxValue then none else some (score + 1)
  | down => if score = Int64.minValue then none else some (score - 1)

end Vote

/-- What was done to one comment. -/
structure NodeState where
  id : CommentId
  folded : Bool := false
  openReply : Option OpenReply := none
  score : Int64
  deriving DecidableEq, Repr, Inhabited

namespace NodeState

/-- A comment to which nothing was done. -/
def mount (comment : Comment) : NodeState :=
  { id := comment.id, score := comment.score }

/-- Fold the comment; the reply under way is discarded. -/
def fold (node : NodeState) : NodeState :=
  { node with folded := true, openReply := none }

/-- Unfold the comment; it comes back without a reply under way. -/
def unfold (node : NodeState) : NodeState :=
  if node.folded then { node with folded := false, openReply := none } else node

/-- Start a reply, or discard the one under way. Nothing happens to a folded comment. -/
def toggleReply (node : NodeState) : NodeState :=
  if node.folded then node
  else
    match node.openReply with
    | some _ => { node with openReply := none }
    | none => { node with openReply := some { parent := node.id } }

/-- Discard the reply under way. -/
def discardReply (node : NodeState) : NodeState :=
  { node with openReply := none }

end NodeState

namespace View

/-- Put the state of a comment in place of the one there was. -/
def putNode (id : CommentId) (node : NodeState) :
    List (CommentId × NodeState) → List (CommentId × NodeState)
  | [] => [(id, node)]
  | first :: rest => if first.1 = id then (id, node) :: rest else first :: putNode id node rest

/-- The comments that have a state after one was put: those that had one, and its own. -/
theorem mem_keys_putNode {id other : CommentId} {node : NodeState}
    {nodes : List (CommentId × NodeState)} :
    other ∈ (putNode id node nodes).map Prod.fst ↔ other = id ∨ other ∈ nodes.map Prod.fst := by
  induction nodes with
  | nil => simp [putNode]
  | cons first rest ih =>
      by_cases same : first.1 = id
      · simp [putNode, same]
      · simp only [putNode, if_neg same, List.map_cons, List.mem_cons, ih]
        exact or_left_comm

theorem putNode_distinct (id : CommentId) (node : NodeState)
    {nodes : List (CommentId × NodeState)} (distinct : (nodes.map Prod.fst).Nodup) :
    ((putNode id node nodes).map Prod.fst).Nodup := by
  induction nodes with
  | nil => simp [putNode]
  | cons first rest ih =>
      simp only [List.map_cons, List.nodup_cons] at distinct
      by_cases same : first.1 = id
      · simpa [putNode, same] using distinct
      · simp only [putNode, if_neg same, List.map_cons, List.nodup_cons, mem_keys_putNode]
        exact ⟨fun found => found.elim same distinct.1, ih distinct.2⟩

theorem lookup_eq_some_iff_mem {id : CommentId} {node : NodeState}
    {nodes : List (CommentId × NodeState)} (distinct : (nodes.map Prod.fst).Nodup) :
    nodes.lookup id = some node ↔ (id, node) ∈ nodes := by
  induction nodes with
  | nil => simp
  | cons first rest ih =>
      obtain ⟨key, value⟩ := first
      simp only [List.map_cons, List.nodup_cons] at distinct
      by_cases same : id = key
      · subst same
        have unlisted : (id, node) ∉ rest := fun listed =>
          distinct.1 (List.mem_map_of_mem listed)
        simp [unlisted, eq_comm]
      · have differs : (id == key) = false := by simpa using same
        simp [List.lookup_cons, differs, ih distinct.2, same]

theorem lookup_putNode (id other : CommentId) (node : NodeState)
    (nodes : List (CommentId × NodeState)) :
    (putNode id node nodes).lookup other = if other = id then some node else nodes.lookup other := by
  induction nodes with
  | nil => grind [putNode]
  | cons first rest ih => grind [putNode]

theorem lookup_filter_key {α : Type} (kept : CommentId → Bool) (id : CommentId)
    (entries : List (CommentId × α)) :
    (entries.filter fun entry => kept entry.1).lookup id =
      if kept id then entries.lookup id else none := by
  induction entries with
  | nil => simp
  | cons first rest ih => grind

end View

/-- What was done to the comments of a discussion, kept by id. -/
structure View where
  nodes : List (CommentId × NodeState) := []
  /-- Every comment has at most one state. -/
  distinct : (nodes.map Prod.fst).Nodup := by exact List.nodup_nil
  deriving DecidableEq, Repr

instance : Inhabited View := ⟨{}⟩

namespace View

/-- What was done to a comment, if it is mounted. -/
def node? (view : View) (id : CommentId) : Option NodeState :=
  view.nodes.lookup id

/-- The mounted comments are those that have a state. -/
theorem node?_eq_some_iff {view : View} {id : CommentId} {node : NodeState} :
    view.node? id = some node ↔ (id, node) ∈ view.nodes :=
  lookup_eq_some_iff_mem view.distinct

/-- Keep the state of a comment. -/
def put (view : View) (id : CommentId) (node : NodeState) : View :=
  ⟨putNode id node view.nodes, putNode_distinct id node view.distinct⟩

@[simp] theorem node?_put (view : View) (id other : CommentId) (node : NodeState) :
    (view.put id node).node? other = if other = id then some node else view.node? other :=
  lookup_putNode id other node view.nodes

/-- Forget everything done to some comments. -/
def unmount (view : View) (ids : List CommentId) : View :=
  ⟨view.nodes.filter fun entry => !ids.contains entry.1,
    view.distinct.sublist (List.filter_sublist.map Prod.fst)⟩

@[simp] theorem node?_unmount (view : View) (ids : List CommentId) (other : CommentId) :
    (view.unmount ids).node? other = if other ∈ ids then none else view.node? other := by
  rw [node?, unmount, lookup_filter_key (fun key => !ids.contains key)]
  by_cases listed : other ∈ ids
  · simp [listed]
  · simp [listed, node?]

/-- The state of a comment, mounted or fresh. -/
def nodeOrFresh? (view : View) (discussion : Discussion) (id : CommentId) : Option NodeState :=
  (view.node? id).orElse fun _ => (discussion.find? id).map fun thread => .mount thread.comment

/-- Whether a comment is folded. -/
def isFolded (view : View) (id : CommentId) : Bool :=
  (view.node? id).any NodeState.folded

/-- The score shown for a comment. -/
def scoreOf (view : View) (comment : Comment) : Int64 :=
  match view.node? comment.id with
  | some node => node.score
  | none => comment.score

/-- The reply under way below a comment. -/
def openReply? (view : View) (id : CommentId) : Option OpenReply :=
  (view.node? id).bind NodeState.openReply

/-- Change the reply under way below a comment, if there is one. -/
def setOpenReply (view : View) (id : CommentId) (openReply : OpenReply) : View :=
  match view.node? id with
  | some node =>
      if node.openReply.isSome then view.put id { node with openReply := some openReply } else view
  | none => view

/-- Number of mounted comments. -/
def mountedCount (view : View) : Nat :=
  view.nodes.length

/-- The replies under way, ordered by the ids of their comments. -/
def openReplies (view : View) : List (CommentId × OpenReply) :=
  let opened := view.nodes.filterMap fun (_, node) =>
    node.openReply.map fun reply => (node.id, reply)
  opened.mergeSort fun left right => left.1 ≤ right.1

/-- Fold a comment and forget everything done beneath it; tells whether the comment exists. -/
def fold (view : View) (discussion : Discussion) (id : CommentId) : View × Bool :=
  match view.nodeOrFresh? discussion id with
  | some node => ((view.put id node.fold).unmount (discussion.descendants id), true)
  | none => (view, false)

/-- Unfold a comment; tells whether it exists. -/
def unfold (view : View) (discussion : Discussion) (id : CommentId) : View × Bool :=
  match view.nodeOrFresh? discussion id with
  | some node => (view.put id node.unfold, true)
  | none => (view, false)

/-- Fold or unfold a comment; tells whether it exists. -/
def toggleFold (view : View) (discussion : Discussion) (id : CommentId) : View × Bool :=
  if view.isFolded id then view.unfold discussion id else view.fold discussion id

/-- Start or discard a reply to a comment; tells whether one is under way now, unless the comment is
folded or does not exist. -/
def toggleReply (view : View) (discussion : Discussion) (id : CommentId) :
    View × Option Bool :=
  match view.nodeOrFresh? discussion id with
  | some node =>
      let toggled := node.toggleReply
      (view.put id toggled, if node.folded then none else some toggled.openReply.isSome)
  | none => (view, none)

/-- Discard the reply to a comment. -/
def discardReply (view : View) (id : CommentId) : View :=
  match view.node? id with
  | some node => view.put id node.discardReply
  | none => view

/-- Vote on a comment; gives its score, if the comment exists. A vote that 64 bits cannot hold
leaves the score as it is. -/
def vote (view : View) (discussion : Discussion) (id : CommentId) (vote : Vote) :
    View × Except Fault (Option Int64) :=
  match view.nodeOrFresh? discussion id with
  | some node =>
      match vote.cast? node.score with
      | some score => (view.put id { node with score }, .ok (some score))
      | none => (view.put id node, .error .scoreOverflow)
  | none => (view, .ok none)

end View

end Colloquy
