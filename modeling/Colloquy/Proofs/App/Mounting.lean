import Colloquy.Proofs.App.Conversation
import Colloquy.Proofs.View.Marks

/-!
# What events leave of the marks

An event can be aimed at a comment, which is then mounted and changes its marks. It can make the
application forget everything that was done to a comment: comments are loaded, the comment itself
arrives, or one above it is folded. Any other event leaves the marks of the comment as they are.
-/

namespace Colloquy

namespace Event

/-- The comment that an event mounts if the discussion has it. -/
def target? : Event → Option CommentId
  | .acted _ (.fold id) => some id
  | .acted _ (.unfold id) => some id
  | .acted _ (.toggleFold id) => some id
  | .acted _ (.toggleReply id) => some id
  | .acted _ (.vote id _) => some id
  | _ => none

/-- What an event does to the marks of the comment at which it is aimed. -/
def change : Event → Marks → Marks
  | .acted _ (.fold _), marks => { marks with folded := true }
  | .acted _ (.unfold _), marks => { marks with folded := false }
  | .acted _ (.toggleFold _), marks => { marks with folded := !marks.folded }
  | .acted _ (.vote _ vote), marks =>
      { marks with score := (vote.cast? marks.score).getD marks.score }
  | _, marks => marks

end Event

namespace App

/-- An event folds a comment. -/
def Folds (app : App) (id : CommentId) : Event → Prop
  | .acted _ (.fold other) => other = id
  | .acted _ (.toggleFold other) => other = id ∧ app.view.isFolded id = false
  | _ => False

/-- After an event, nothing counts any more that was done to a comment before. -/
inductive Resets (app : App) (id : CommentId) (event : Event) : Prop where
  | loaded (loads : event.Loads)
  /-- The comment itself arrives. -/
  | added (absent : id ∉ app.discussion.ids) (arrives : id ∈ (app.after event).discussion.ids)
  | folded (upper : CommentId) (folds : app.Folds upper event)
      (above : app.discussion.IsAbove upper id)

variable {app : App} {event : Event} {id : CommentId}

/-- An event that is aimed at a comment leaves the discussion alone. -/
theorem discussion_after_of_target (aimed : event.target? = some id) :
    (app.after event).discussion = app.discussion := by
  cases event with
  | typed other text => contradiction
  | acted moment action =>
      cases action with
      | refresh => contradiction
      | arrived result => contradiction
      | discardReply other => contradiction
      | postReply other => contradiction
      | replyAnswered parent submission result => contradiction
      | quit => contradiction
      | _ => rfl

theorem target?_of_folds (folds : app.Folds id event) : event.target? = some id := by
  cases event with
  | typed other text => contradiction
  | acted moment action =>
      cases action with
      | fold other => exact congrArg some folds
      | toggleFold other => exact congrArg some folds.1
      | _ => contradiction

theorem not_loads_of_target {other : CommentId} (aimed : event.target? = some other) :
    ¬event.Loads := by
  intro loads
  cases event with
  | typed id text => contradiction
  | acted moment action =>
      cases action with
      | arrived result => contradiction
      | _ => contradiction

/-- Of the events that are aimed at a comment, a fold makes the application forget what was done to
the comments below. -/
theorem resets_iff_of_target {other : CommentId} (aimed : event.target? = some other) :
    app.Resets id event ↔ app.Folds other event ∧ app.discussion.IsAbove other id := by
  refine ⟨fun resets => ?_, fun ⟨folds, above⟩ => .folded other folds above⟩
  cases resets with
  | loaded loads => exact absurd loads (not_loads_of_target aimed)
  | added absent arrives =>
      rw [discussion_after_of_target aimed] at arrives
      exact absurd arrives absent
  | folded upper folds above =>
      obtain rfl : upper = other := Option.some.inj ((target?_of_folds folds).symm.trans aimed)
      exact ⟨folds, above⟩

/-! ## Replies -/

theorem marks?_type (app : App) (other : CommentId) (text : String) (id : CommentId) :
    (app.type other text).view.marks? id = app.view.marks? id := by
  cases opened : app.view.openReply? other with
  | none => simp [type, opened]
  | some reply => simp [type, opened, View.marks?_setOpenReply]

theorem marks?_submit (app : App) (moment : Moment) (other id : CommentId) :
    (app.submit moment other).1.view.marks? id = app.view.marks? id := by
  rcases app.submit_cases moment other with
    ⟨reply, bearer, -, -, submitted⟩ | ⟨-, notices, refused⟩
  · rw [submitted, View.marks?_setOpenReply]
  · rw [refused]

theorem marks?_takeAnswer (app : App) (moment : Moment) (parent : CommentId)
    (submission : SubmissionNumber) (result : PostResult) (id : CommentId) :
    (app.takeAnswer moment parent submission result).view.marks? id = app.view.marks? id := by
  rw [view_takeAnswer]
  cases (app.view.openReply? parent).filter fun reply => reply.isAwaiting submission with
  | none => rfl
  | some reply =>
      cases result with
      | ok answer => exact View.marks?_discardReply ..
      | error cause => exact View.marks?_setOpenReply ..

/-! ## Events -/

/-- An event that is not aimed at a comment, and does not fold one above it, leaves its marks as they
are until comments are loaded. -/
theorem marks?_after_of_apart (distinct : app.discussion.ids.Nodup) (unloaded : ¬event.Loads)
    (uncovered : ∀ upper, app.Folds upper event → ¬app.discussion.IsAbove upper id)
    (apart : event.target? ≠ some id) : (app.after event).view.marks? id = app.view.marks? id := by
  have elsewhere : ∀ {other}, event.target? = some other → id ≠ other := by
    rintro other aimed rfl
    exact apart aimed
  have spared : ∀ {upper}, app.Folds upper event → id ∉ app.discussion.descendants upper := by
    intro upper folds below
    exact uncovered upper folds ((Discussion.mem_descendants_iff distinct).mp below)
  cases event with
  | typed other text => exact app.marks?_type other text id
  | acted moment action =>
      cases action with
      | refresh => rfl
      | quit => rfl
      | arrived result =>
          have refused : ∀ threads, result = .ok threads → ¬(Discussion.ids ⟨threads⟩).Nodup := by
            rintro threads rfl
            exact unloaded
          rw [after, (app.update_arrived_of_refused moment refused).2]
      | fold upper =>
          rw [after, update, View.marks?_fold, if_neg (spared rfl), if_neg (elsewhere rfl)]
      | unfold other => rw [after, update, View.marks?_unfold, if_neg (elsewhere rfl)]
      | toggleFold upper =>
          cases folded : app.view.isFolded upper with
          | true =>
              simp only [after, update, View.toggleFold, folded, if_true]
              rw [View.marks?_unfold, if_neg (elsewhere rfl)]
          | false =>
              simp only [after, update, View.toggleFold, folded, Bool.false_eq_true, if_false]
              rw [View.marks?_fold, if_neg (spared ⟨rfl, folded⟩), if_neg (elsewhere rfl)]
      | toggleReply other => rw [after, update, View.marks?_toggleReply, if_neg (elsewhere rfl)]
      | discardReply other => exact View.marks?_discardReply ..
      | vote other vote => exact (View.marks?_vote ..).trans (if_neg (elsewhere rfl))
      | postReply other => exact app.marks?_submit moment other id
      | replyAnswered parent submission result =>
          exact app.marks?_takeAnswer moment parent submission result id

/-- An event that is aimed at a comment mounts it and changes its marks. -/
theorem marks?_after_of_target (distinct : app.discussion.ids.Nodup)
    (aimed : event.target? = some id) :
    (app.after event).view.marks? id =
      (app.view.marksOrFresh? app.discussion id).map event.change := by
  have apart := Discussion.not_mem_descendants_self distinct id
  cases event with
  | typed other text => contradiction
  | acted moment action =>
      cases action with
      | fold other =>
          obtain rfl : other = id := Option.some.inj aimed
          rw [after, update, View.marks?_fold, if_neg apart, if_pos rfl]
          rfl
      | unfold other =>
          obtain rfl : other = id := Option.some.inj aimed
          rw [after, update, View.marks?_unfold, if_pos rfl]
          rfl
      | toggleFold other =>
          obtain rfl : other = id := Option.some.inj aimed
          exact View.marks?_toggleFold_self _ _ _ apart
      | toggleReply other =>
          obtain rfl : other = id := Option.some.inj aimed
          rw [after, update, View.marks?_toggleReply, if_pos rfl]
          exact Option.map_id'.symm
      | vote other vote =>
          obtain rfl : other = id := Option.some.inj aimed
          exact (View.marks?_vote ..).trans (if_pos rfl)
      | _ => contradiction

theorem marks?_after_of_loads (loads : event.Loads) : (app.after event).view.marks? id = none := by
  cases event with
  | typed other text => contradiction
  | acted moment action =>
      cases action with
      | arrived result =>
          cases result with
          | error cause => contradiction
          | ok threads =>
              rw [after, app.update_arrived_of_nodup moment loads]
              rfl
      | _ => contradiction

/-- What an event makes the application forget is no longer mounted. -/
theorem marks?_after_of_resets (ordered : app.WellFormed) (resets : app.Resets id event) :
    (app.after event).view.marks? id = none := by
  cases resets with
  | loaded loads => exact marks?_after_of_loads loads
  | added absent arrives =>
      by_cases loads : event.Loads
      · exact marks?_after_of_loads loads
      · have untargeted : ∀ other, event.target? ≠ some other := by
          intro other aimed
          rw [discussion_after_of_target aimed] at arrives
          exact absent arrives
        rw [marks?_after_of_apart ordered.distinct loads
          (fun upper folds => absurd (target?_of_folds folds) (untargeted upper)) (untargeted id)]
        cases mounted : app.view.node? id with
        | none => simp [View.marks?, mounted]
        | some node => exact absurd (ordered.view id node mounted).1 absent
  | folded upper folds above =>
      have below := (Discussion.mem_descendants_iff ordered.distinct).mpr above
      cases event with
      | typed other text => contradiction
      | acted moment action =>
          cases action with
          | fold other =>
              obtain rfl : other = upper := folds
              rw [after, update, View.marks?_fold, if_pos below]
          | toggleFold other =>
              obtain ⟨rfl, unfolded⟩ := folds
              simp only [after, update, View.toggleFold, unfolded, Bool.false_eq_true, if_false]
              rw [View.marks?_fold, if_pos below]
          | _ => contradiction

/-- Where nothing is mounted at first, a comment is not mounted right after the last event that made
the application forget it. -/
theorem marks?_of_sinceLast {start : App} {earlier later : List Event} (ordered : start.WellFormed)
    (untouched : start.view = {}) (since : start.SinceLast (·.Resets id) earlier later) :
    (start.run earlier).view.marks? id = none := by
  rcases since.begins with rfl | ⟨before, last, rfl, resets⟩
  · rw [run, untouched]
    rfl
  · rw [run_append]
    exact marks?_after_of_resets (ordered.run before) resets

/-- A comment that an event does not make the application forget keeps its marks, unless the event
is aimed at it. -/
theorem marks?_after_of_spared (distinct : app.discussion.ids.Nodup)
    (spared : ¬app.Resets id event) (apart : event.target? ≠ some id) :
    (app.after event).view.marks? id = app.view.marks? id :=
  marks?_after_of_apart distinct (fun loads => spared (.loaded loads))
    (fun upper folds above => spared (.folded upper folds above)) apart

theorem mem_ids_of_spared (spared : ¬app.Resets id event)
    (arrives : id ∈ (app.after event).discussion.ids) : id ∈ app.discussion.ids := by
  by_contra absent
  exact spared (.added absent arrives)

/-- Comments that are there stay, and none takes the place of another. -/
theorem listed_after_iff (distinct : app.discussion.ids.Nodup) {comment : Comment}
    (spared : ¬app.Resets comment.id event) :
    comment ∈ (app.after event).discussion.comments ↔ comment ∈ app.discussion.comments := by
  have unloaded : ¬event.Loads := fun loads => spared (.loaded loads)
  have kept : app.discussion.comments ⊆ (app.after event).discussion.comments :=
    Discussion.comments_subset_of_sublist (outline_sublist_after unloaded)
  refine ⟨fun listed => ?_, fun listed => kept listed⟩
  have arrives : comment.id ∈ (app.after event).discussion.ids := by
    rw [Discussion.ids_eq_comments]
    exact List.mem_map_of_mem listed
  have present := mem_ids_of_spared spared arrives
  rw [Discussion.ids_eq_comments] at present
  obtain ⟨earlier, before, same⟩ := List.mem_map.mp present
  have equal := Discussion.eq_of_listed (ids_nodup_after unloaded distinct) (kept before) listed same
  exact equal ▸ before

end App

end Colloquy
