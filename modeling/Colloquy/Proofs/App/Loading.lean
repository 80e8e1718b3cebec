import Colloquy.Proofs.App.Run

/-!
# Loading the comments

The comments of a post are taken as a whole or not at all. A failure to get them, and comments among
which an id repeats, change neither the discussion nor anything that the reader did to it. What is
taken keeps its order, its nesting and every field but the mark of the post's author.
-/

namespace Colloquy

/-- A comment in its place as it is shown: where the post's author is known, it is marked exactly
if it is by that author. -/
def Placed.marked (postAuthor : Option String) (placed : Placed) : Placed :=
  match postAuthor with
  | some author =>
      { placed with
        comment := { placed.comment with byPostAuthor := placed.comment.author == author } }
  | none => placed

namespace App

variable {app : App}

/-- Marking the author's comments goes through all depths and touches nothing else. -/
theorem outline_markPostAuthor (postAuthor : Option String) (discussion : Discussion) :
    (markPostAuthor postAuthor discussion).outline =
      discussion.outline.map (Placed.marked postAuthor) := by
  cases postAuthor with
  | none => exact (List.map_id discussion.outline).symm
  | some author => exact discussion.outline_markAuthor author

/-- Comments among which an id repeats are refused, naming the id. -/
theorem update_arrived_of_repeat (moment : Moment) {threads : List Thread} {id : CommentId}
    (again : Discussion.FirstRepeat (Discussion.ids ⟨threads⟩) id) :
    app.update moment (.arrived (.ok threads)) =
      ({ app with
          loading := false
          loadError := some ("Malformed thread: duplicate comment id " ++ toString id.toNat)
          status := "Load failed" }, .ok .none) := by
  have refused : Discussion.ofThreads threads = .error (.idInUse id) :=
    Discussion.ofThreads_eq_error_iff.mpr ⟨id, again, rfl⟩
  have message : "Malformed thread: " ++ (DiscussionError.idInUse id).message =
      "Malformed thread: duplicate comment id " ++ toString id.toNat :=
    (String.append_assoc ..).symm
  simp only [update, takeListing, refused, message]

/-- Loading is all or nothing, in every state. A failure, and comments of which one repeats an id,
leave everything as it was but the notices, the error and the status; the error names the id. Other
comments become the one discussion with their outline, in which the marks of the post's author are
set anew, and the view is empty. -/
theorem update_arrived_all_or_nothing (app : App) (moment : Moment) :
    (∀ cause : BackendError, app.update moment (.arrived (.error cause)) =
      ({ app with
          notices := app.notices.push ⟨.error, "Failed to load comments.", moment.ticks⟩
          loading := false
          loadError := some ("Failed to load comments: " ++ cause.message)
          status := "Load failed" }, .ok .none)) ∧
      ∀ threads : List Thread,
        (¬(Discussion.ids ⟨threads⟩).Nodup →
          ∃ before id after, Discussion.ids ⟨threads⟩ = before ++ id :: after ∧ id ∈ before ∧
            before.Nodup ∧
            app.update moment (.arrived (.ok threads)) =
              ({ app with
                  loading := false
                  loadError :=
                    some ("Malformed thread: duplicate comment id " ++ toString id.toNat)
                  status := "Load failed" }, .ok .none)) ∧
        ((Discussion.ids ⟨threads⟩).Nodup →
          ∃ discussion : Discussion,
            (∀ other : Discussion,
              other.outline = (Discussion.outline ⟨threads⟩).map (Placed.marked app.postAuthor) ↔
                other = discussion) ∧
            app.update moment (.arrived (.ok threads)) =
              ({ app with
                  discussion
                  view := {}
                  loading := false
                  loadError := none
                  status := Discussion.countLabel (Discussion.size ⟨threads⟩) }, .ok .none)) := by
  refine ⟨fun cause => rfl, fun threads => ⟨fun repeated => ?_, fun distinct => ?_⟩⟩
  · obtain ⟨id, again⟩ := Discussion.exists_firstRepeat_iff.mpr repeated
    have ⟨before, after, split, earlier, first⟩ := again
    exact ⟨before, id, after, split, earlier, first, update_arrived_of_repeat moment again⟩
  · refine ⟨_, fun other => ?_, app.update_arrived_of_nodup moment distinct⟩
    rw [← outline_markPostAuthor, Discussion.outline_injective.eq_iff]

/-- The sample is loaded with the one comment of the post's author marked. With one of its replies
repeated as a thread of its own it is refused. -/
theorem update_arrived_sampleThreads :
    let app := { sample with postAuthor := some "hater_101", loading := true }
    let again : Thread := ⟨⟨111, "random_user", "Anyone?", "", 0, false⟩, []⟩
    let refused := (app.update {} (.arrived (.ok (Discussion.sampleThreads ++ [again])))).1
    (∃ discussion : Discussion,
        app.update {} (.arrived (.ok Discussion.sampleThreads)) =
          ({ app with discussion, loading := false }, .ok .none) ∧
        discussion.outline.map (fun placed => (placed.id, placed.comment.byPostAuthor)) =
          [(1, false), (11, false), (111, false), (12, true), (2, false), (21, false)]) ∧
      refused.discussion = app.discussion ∧ refused.view = app.view ∧
      refused.loadError = some "Malformed thread: duplicate comment id 111" := by
  intro app again refused
  obtain ⟨discussion, installed, taken⟩ :=
    ((update_arrived_all_or_nothing app {}).2 Discussion.sampleThreads).2 (by decide +kernel)
  obtain ⟨before, id, after, -, -, -, rejected⟩ :=
    ((update_arrived_all_or_nothing app {}).2 (Discussion.sampleThreads ++ [again])).1
      (by decide +kernel)
  have named : refused.loadError = some "Malformed thread: duplicate comment id 111" := by
    decide +kernel
  refine ⟨⟨discussion, taken, ?_⟩, ?_, ?_, named⟩
  · rw [(installed discussion).mpr rfl]
    decide +kernel
  · simp only [refused, rejected]
  · simp only [refused, rejected]

end App

end Colloquy
