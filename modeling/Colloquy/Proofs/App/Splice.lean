import Colloquy.App.Update
import Colloquy.Discussion.Sample
import Colloquy.Proofs.Discussion.Growth

/-!
# Replies put into a discussion

A reply is refused for the first of its ids that clashes, and else if the comment answered is not
there. Otherwise the walk of the discussion has the walk of the reply as one block more: right below
the comment answered, or behind everything that stands below that comment. A posted reply that is
refused leaves the application as it was.
-/

namespace Colloquy

namespace Discussion

variable {discussion : Discussion} {parent : CommentId} {reply : Thread} {placement : Placement}

theorem addReply_eq_idInUse_iff {id : CommentId} :
    discussion.addReply parent reply placement = .error (.idInUse id) ↔
      discussion.FirstClash reply.ids id := by
  rw [← firstClash?_eq_some_iff, addReply]
  cases clash : discussion.firstClash? [] reply.ids with
  | some first => simp
  | none =>
      cases inserted : Thread.insertAny? parent reply placement discussion.threads with
      | some threads => simp
      | none => simp

theorem addReply_eq_noSuchParent_iff {id : CommentId} :
    discussion.addReply parent reply placement = .error (.noSuchParent id) ↔
      id = parent ∧ (∀ other, ¬discussion.FirstClash reply.ids other) ∧
        parent ∉ discussion.ids := by
  have missing := Thread.insertAny?_eq_none_iff parent reply placement discussion.threads
  simp only [← firstClash?_eq_some_iff, ← Option.eq_none_iff_forall_ne_some]
  rw [← missing, addReply]
  cases clash : discussion.firstClash? [] reply.ids with
  | some first => simp
  | none =>
      cases inserted : Thread.insertAny? parent reply placement discussion.threads with
      | some threads => simp
      | none => simp [eq_comm]

theorem fits_iff :
    discussion.Fits parent reply ↔
      (∀ other, ¬discussion.FirstClash reply.ids other) ∧ parent ∈ discussion.ids := by
  rw [forall_not_firstClash_iff, Fits, and_assoc]

theorem fits_of_addReply {grown : Discussion}
    (accepted : discussion.addReply parent reply placement = .ok grown) :
    discussion.Fits parent reply := by
  by_contra misfit
  obtain ⟨cause, refused⟩ := addReply_of_not_fits placement misfit
  rw [accepted] at refused
  contradiction

theorem exists_addReply_iff :
    (∃ grown, discussion.addReply parent reply placement = .ok grown) ↔
      (∀ other, ¬discussion.FirstClash reply.ids other) ∧ parent ∈ discussion.ids := by
  rw [← fits_iff]
  constructor
  · rintro ⟨grown, accepted⟩
    exact fits_of_addReply accepted
  · intro fits
    obtain ⟨grown, accepted, -⟩ := addReply_of_fits placement fits
    exact ⟨grown, accepted⟩

/-- The walk of a reply that stands below a comment of the given depth. -/
def walkBelow (depth : Nat) (reply : Thread) : List (Nat × Comment) :=
  (walk ⟨[reply]⟩).map fun entry => (depth + 1 + entry.1, entry.2)

theorem walkBelow_eq_outline (depth : Nat) (parent : CommentId) (reply : Thread) :
    walkBelow depth reply =
      (reply.outline (depth + 1) (some parent)).map fun placed => (placed.depth, placed.comment) := by
  have shifted := reply.map_depth_outline (depth + 1) 0 (some parent) none
  rw [Nat.add_zero] at shifted
  simp [shifted, walkBelow, walk_eq_outline, outline, Thread.outlineAll]

/-- Where a reply is put, its walk stands in the walk of the discussion as one block: in front of
what stands below the comment answered, or behind it. -/
theorem walk_of_grafted {grown : Discussion}
    (grafted : Thread.Grafted parent reply placement discussion.visits discussion.outline
      grown.outline) :
    ∃ before below after depth comment, comment.id = parent ∧
      discussion.depth? parent = some depth ∧
      below.map (fun entry => entry.2.id) = discussion.descendants parent ∧
      discussion.walk = before ++ (depth, comment) :: (below ++ after) ∧
      grown.walk = before ++ (depth, comment) ::
        ((match placement with
          | .newestFirst => walkBelow depth reply ++ below
          | .newestLast => below ++ walkBelow depth reply) ++ after) := by
  rw [walk_eq_outline, walk_eq_outline]
  generalize discussion.outline = old, grown.outline = new at grafted
  cases grafted with
  | intro before after depth upper found first located =>
      have same : found.id = parent := by simpa using List.find?_some located
      have children : discussion.descendants parent = ids ⟨found.replies⟩ := by
        simp [descendants, find?, located]
      let step (placed : Placed) : Nat × Comment := (placed.depth, placed.comment)
      refine ⟨before.map step, (Thread.outlineAll (depth + 1) (some parent) found.replies).map step,
        after.map step, depth, found.comment, same, by simp [depth?, located], ?_, ?_, ?_⟩
      · rw [children, ids_eq_outlineAll (depth + 1) (some parent), List.map_map]
        rfl
      · simp [Thread.outline_eq, same, step]
      · rw [walkBelow_eq_outline depth parent]
        have root : found.comment.id = parent := same
        cases placement with
        | newestFirst => simp [Thread.outline, Thread.outlineAll, Placement.place, root, step]
        | newestLast => simp [Thread.outline, Thread.outlineAll, Placement.place, root, step]

end Discussion

/-- A posted reply that is refused changes nothing. -/
theorem App.splice_of_refused {app : App} {moment : Moment} {parent : CommentId} {answer : Json}
    {entry : Listing.Entry} {cause : DiscussionError}
    (decoded : Listing.entryOfJson answer = .ok entry)
    (refused : app.discussion.addReply parent
      (markReply app.postAuthor (entry.toThread moment.wall)) app.placement = .error cause) :
    app.splice moment parent answer = app := by
  simp [splice, decoded, refused]

namespace Discussion

/-- A reply is put below a comment of a discussion in which no id repeats. It is refused for the
first of its ids, in the order of its walk, that occurs earlier in it or is in use, also where there
is no such comment to answer; and for the missing comment if no id clashes. A posted reply that is
refused leaves the application as it is. Any other reply is taken: then no id repeats, and the walk
has one block more, the walk of the reply, one level below the comment answered. It stands right
behind that comment if the newest comes first, and else behind all that stands below that comment. -/
theorem addReply_exactly {discussion : Discussion} (distinct : discussion.ids.Nodup)
    (parent : CommentId) (reply : Thread) (placement : Placement) :
    (∀ id, discussion.addReply parent reply placement = .error (.idInUse id) ↔
        discussion.FirstClash reply.ids id) ∧
      (∀ id, discussion.addReply parent reply placement = .error (.noSuchParent id) ↔
        id = parent ∧ (∀ other, ¬discussion.FirstClash reply.ids other) ∧
          parent ∉ discussion.ids) ∧
      ((∃ grown, discussion.addReply parent reply placement = .ok grown) ↔
        (∀ other, ¬discussion.FirstClash reply.ids other) ∧ parent ∈ discussion.ids) ∧
      (∀ (app : App) (moment : Moment) answer entry cause,
        app.discussion = discussion → app.placement = placement →
        Listing.entryOfJson answer = .ok entry →
          App.markReply app.postAuthor (entry.toThread moment.wall) = reply →
            discussion.addReply parent reply placement = .error cause →
              app.splice moment parent answer = app) ∧
      ∀ grown, discussion.addReply parent reply placement = .ok grown →
        grown.ids.Nodup ∧ ∃ before below after depth comment, comment.id = parent ∧
          discussion.depth? parent = some depth ∧
          below.map (fun entry => entry.2.id) = discussion.descendants parent ∧
          discussion.walk = before ++ (depth, comment) :: (below ++ after) ∧
          grown.walk = before ++ (depth, comment) ::
            ((match placement with
              | .newestFirst => walkBelow depth reply ++ below
              | .newestLast => below ++ walkBelow depth reply) ++ after) := by
  refine ⟨fun id => addReply_eq_idInUse_iff, fun id => addReply_eq_noSuchParent_iff,
    exists_addReply_iff, ?_, ?_⟩
  · rintro app moment answer entry cause rfl rfl decoded rfl refused
    exact App.splice_of_refused decoded refused
  · intro grown accepted
    have fits := fits_of_addReply accepted
    obtain ⟨other, same, grafted⟩ := grafted_of_fits placement fits
    obtain rfl : other = grown := Except.ok.inj (same.symm.trans accepted)
    exact ⟨ids_nodup_of_grown distinct fits grafted.grown, walk_of_grafted grafted⟩

/-- A reply that was answered in its turn. -/
def answeredReply : Thread :=
  ⟨⟨500, "late_reader", "It grows on you.", "", 0, false⟩,
    [⟨⟨501, "hater_101", "Never.", "", 0, false⟩, []⟩]⟩

/-- Below a comment that has answers of its own, the newest reply may come last. -/
theorem addReply_answeredReply :
    (ids ⟨sampleThreads⟩).Nodup ∧
      (∃ grown, addReply ⟨sampleThreads⟩ 11 answeredReply .newestLast = .ok grown ∧
        grown.ids.Nodup ∧ grown.ids = [1, 11, 111, 500, 501, 12, 2, 21]) ∧
      addReply ⟨sampleThreads⟩ 7 ⟨answeredReply.comment, [⟨answeredReply.comment, []⟩]⟩
        .newestLast = .error (.idInUse 500) := by
  have distinct : (ids ⟨sampleThreads⟩).Nodup := by decide +kernel
  have placed := addReply_exactly distinct 11 answeredReply .newestLast
  have clashing := addReply_exactly distinct 7
    ⟨answeredReply.comment, [⟨answeredReply.comment, []⟩]⟩ .newestLast
  have unclashed : ∀ other, ¬FirstClash ⟨sampleThreads⟩ answeredReply.ids other := by
    have unfound : firstClash? ⟨sampleThreads⟩ [] answeredReply.ids = none := by decide +kernel
    simp [← firstClash?_eq_some_iff, unfound]
  obtain ⟨grown, accepted⟩ := placed.2.2.1.mpr ⟨unclashed, by decide +kernel⟩
  have listed : (addReply ⟨sampleThreads⟩ 11 answeredReply .newestLast).toOption.map ids =
      some [1, 11, 111, 500, 501, 12, 2, 21] := by decide +kernel
  rw [accepted] at listed
  refine ⟨distinct, ⟨grown, accepted, (placed.2.2.2.2 grown accepted).1, Option.some.inj listed⟩, ?_⟩
  exact (clashing.1 500).mpr (firstClash?_eq_some_iff.mp (by decide +kernel))

end Discussion

end Colloquy
