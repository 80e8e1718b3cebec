import Colloquy.Proofs.App.Mounting
import Colloquy.Proofs.View.Rows

/-!
# Hidden comments

A comment is hidden while one above it is folded. Folding unmounts what is below, and does so once:
an action that is aimed at a hidden comment mounts it again, since no action looks at what is folded
further up. A hidden comment is unmounted exactly if there was no such action, and a reply under way
has its row exactly if the comment that it answers is not hidden.
-/

namespace Colloquy.App

/-- A comment above this one is folded. -/
def Hides (app : App) (id : CommentId) : Prop :=
  ∃ upper, app.discussion.IsAbove upper id ∧ app.view.isFolded upper = true

/-- An event is aimed at a comment while the comment is hidden. -/
def Disturbs (app : App) (id : CommentId) (event : Event) : Prop :=
  event.target? = some id ∧ app.Hides id

variable {app : App} {event : Event} {id : CommentId}

theorem Hides.listed (hidden : app.Hides id) : id ∈ app.discussion.ids :=
  Discussion.mem_ids_of_isAbove hidden.choose_spec.1

/-! ## One event -/

/-- What is folded after an event was folded before, unless the event folds it: a comment that is
forgotten is not folded, and only a change of its own folds any other. -/
theorem folds_or_isFolded_of_after (ordered : app.WellFormed)
    (folded : (app.after event).view.isFolded id = true) :
    app.Folds id event ∨ app.view.isFolded id = true := by
  rw [View.isFolded_eq_marks?, Option.any_eq_true] at folded
  obtain ⟨marks, shown, folded⟩ := folded
  by_cases resets : app.Resets id event
  · rw [marks?_after_of_resets ordered resets] at shown
    contradiction
  by_cases aimed : event.target? = some id
  · rw [marks?_after_of_target ordered.distinct aimed] at shown
    obtain ⟨before, given, rfl⟩ := Option.map_eq_some_iff.mp shown
    have same := app.view.folded_of_marksOrFresh? app.discussion id given
    cases event with
    | typed other text => contradiction
    | acted moment action =>
        cases action with
        | fold other => exact .inl (Option.some.inj aimed)
        | unfold other => contradiction
        | toggleFold other =>
            obtain rfl : other = id := Option.some.inj aimed
            left
            refine ⟨rfl, ?_⟩
            simpa [Event.change, same] using folded
        | toggleReply other => exact .inr (same.symm.trans folded)
        | vote other vote => exact .inr (same.symm.trans folded)
        | _ => contradiction
  · rw [marks?_after_of_spared ordered.distinct resets aimed] at shown
    rw [View.isFolded_eq_marks?, shown]
    exact .inr folded

/-- A comment becomes hidden only by a fold above it, which makes the application forget it. -/
theorem hides_of_after (ordered : app.WellFormed) (spared : ¬app.Resets id event)
    (hidden : (app.after event).Hides id) : app.Hides id := by
  have unloaded : ¬event.Loads := fun loads => spared (.loaded loads)
  have present := mem_ids_of_spared spared hidden.listed
  obtain ⟨upper, above, folded⟩ := hidden
  have before := Discussion.isAbove_of_sublist (ids_nodup_after unloaded ordered.distinct)
    (outline_sublist_after unloaded) present above
  rcases folds_or_isFolded_of_after ordered folded with folds | folded
  · exact absurd (.folded upper folds before) spared
  · exact ⟨upper, before, folded⟩

/-- A hidden comment is mounted by an event that is aimed at it, and by no other. -/
theorem unmounted_after_iff (ordered : app.WellFormed) (spared : ¬app.Resets id event)
    (hidden : app.Hides id) :
    (app.after event).view.marks? id = none ↔
      app.view.marks? id = none ∧ ¬app.Disturbs id event := by
  by_cases aimed : event.target? = some id
  · have given : app.view.marksOrFresh? app.discussion id ≠ none := by
      rw [Ne, View.marksOrFresh?_eq_none_iff]
      exact fun absent => absent.2 hidden.listed
    simp [marks?_after_of_target ordered.distinct aimed, given, Disturbs, aimed, hidden]
  · simp [marks?_after_of_spared ordered.distinct spared aimed, Disturbs, aimed]

/-! ## Several events -/

variable {events : List Event}

theorem hides_of_run (ordered : app.WellFormed)
    (spared : app.Avoids (·.Resets id) events)
    (hidden : (app.run events).Hides id) : app.Hides id := by
  induction events generalizing app with
  | nil => exact hidden
  | cons event rest ih =>
      exact hides_of_after ordered spared.1 (ih (ordered.after event) spared.2 hidden)

/-- A comment that is hidden at the end is hidden all along. It is mounted at the end if it was at the
beginning, or if an event was aimed at it. -/
theorem unmounted_run_iff (ordered : app.WellFormed)
    (spared : app.Avoids (·.Resets id) events)
    (hidden : (app.run events).Hides id) :
    (app.run events).view.marks? id = none ↔
      app.view.marks? id = none ∧ app.Avoids (·.Disturbs id) events := by
  induction events generalizing app with
  | nil => simp [run, Avoids]
  | cons event rest ih =>
      have before := hides_of_run ordered spared hidden
      rw [run, ih (ordered.after event) spared.2 hidden,
        unmounted_after_iff ordered spared.1 before, Avoids, and_assoc]

/-- A comment that is hidden at the end of a run is unmounted exactly if no event was aimed at it
while it was hidden, since comments were last loaded, the comment itself arrived, or one above it
was folded. A reply under way has its row exactly if the comment that it answers is not hidden, and
so it always has its row where no event was aimed at the comment while it was hidden. -/
theorem mounted_hidden_iff {start : App} (starts : Starts start) (events : List Event)
    (id : CommentId) :
    ∃ earlier later, events = earlier ++ later ∧
      start.SinceLast (·.Resets id) earlier later ∧
      ((start.run events).Hides id →
        ((start.run events).view.node? id = none ↔
          (start.run earlier).Avoids (·.Disturbs id) later)) ∧
      ∀ reply, (start.run events).view.openReply? id = some reply →
        ((∃ row ∈ (start.run events).view.rows (start.run events).discussion,
            row.id = id ∧ row.kind = .openReply) ↔ ¬(start.run events).Hides id) ∧
        ((start.run earlier).Avoids (·.Disturbs id) later →
          ∃ row ∈ (start.run events).view.rows (start.run events).discussion,
            row.id = id ∧ row.kind = .openReply) := by
  obtain ⟨earlier, later, rfl, since⟩ :=
    start.exists_sinceLast (·.Resets id) events
  have ordered := starts.wellFormed
  have final := ordered.run (earlier ++ later)
  have forgotten := marks?_of_sinceLast ordered starts.view_eq since
  have unmounted : (start.run (earlier ++ later)).Hides id →
      ((start.run (earlier ++ later)).view.node? id = none ↔
        (start.run earlier).Avoids (·.Disturbs id) later) := by
    intro hidden
    rw [run_append] at hidden ⊢
    rw [← View.marks?_eq_none_iff, unmounted_run_iff (ordered.run earlier) since.avoids hidden]
    exact and_iff_right forgotten
  refine ⟨earlier, later, rfl, since, unmounted, ?_⟩
  intro reply opened
  obtain ⟨node, mounted, -⟩ := Option.bind_eq_some_iff.mp opened
  have row := View.openReply_row_iff _ final.distinct (final.view id node mounted).1
    (final.view.not_folded opened) (Option.isSome_iff_exists.mpr ⟨reply, opened⟩)
  have visible : (∀ upper, (start.run (earlier ++ later)).discussion.IsAbove upper id →
      (start.run (earlier ++ later)).view.isFolded upper = false) ↔
      ¬(start.run (earlier ++ later)).Hides id := by
    simp [Hides]
  refine ⟨row.trans visible, fun undisturbed => (row.trans visible).mpr fun hidden => ?_⟩
  rw [(unmounted hidden).mpr undisturbed] at mounted
  contradiction

/-- A reply is begun, and the comment above the one answered is folded. -/
def coveredBefore : List Event :=
  [.acted {} (.toggleReply 11), .acted {} (.fold 1)]

/-- Other comments are voted for and answered. -/
def coveredAfter : List Event :=
  [.acted {} (.vote 1 .up), .acted {} (.toggleReply 2)]

theorem sinceLast_coveredBefore :
    sample.SinceLast (·.Resets 11) coveredBefore coveredAfter where
  begins := by
    have below : 11 ∈ sample.discussion.descendants 1 := by decide +kernel
    have above := (Discussion.mem_descendants_iff (by decide +kernel)).mp below
    exact .inr ⟨[.acted {} (.toggleReply 11)], .acted {} (.fold 1), rfl, .folded 1 rfl above⟩
  avoids := by
    refine ⟨?_, ?_, trivial⟩
    all_goals exact fun resets => ((resets_iff_of_target rfl).mp resets).1

/-- The reply is gone with everything else that was below the fold. -/
theorem unmounted_covered :
    Starts sample ∧ (sample.run (coveredBefore ++ coveredAfter)).Hides 11 ∧
      (sample.run (coveredBefore ++ coveredAfter)).view.node? 11 = none := by
  have ordered := starts_sample.wellFormed.run (coveredBefore ++ coveredAfter)
  have hidden : (sample.run (coveredBefore ++ coveredAfter)).Hides 11 :=
    ⟨1, (Discussion.mem_descendants_iff ordered.distinct).mp (by decide +kernel), by decide +kernel⟩
  refine ⟨starts_sample, hidden, ?_⟩
  obtain ⟨earlier, later, split, since, unmounted, -⟩ :=
    mounted_hidden_iff starts_sample (coveredBefore ++ coveredAfter) 11
  obtain ⟨rfl, rfl⟩ := sinceLast_coveredBefore.unique since split
  apply (unmounted hidden).mpr
  refine ⟨?_, ?_, trivial⟩
  all_goals simp [Disturbs, Event.target?]

/-- The comment above is folded first, and the reply is begun below the fold. -/
def unseenReply : List Event :=
  [.acted {} (.fold 1), .acted {} (.toggleReply 11)]

/-- The reply is under way, and has no row. -/
theorem mounted_unseen :
    Reachable (sample.run unseenReply) ∧ (sample.run unseenReply).Hides 11 ∧
      (sample.run unseenReply).view.openReply? 11 = some { parent := 11 } ∧
      ¬∃ row ∈ (sample.run unseenReply).view.rows (sample.run unseenReply).discussion,
        row.id = 11 ∧ row.kind = .openReply := by
  have ordered := starts_sample.wellFormed.run unseenReply
  refine ⟨⟨sample, unseenReply, starts_sample, rfl⟩, ⟨1, ?_, ?_⟩, ?_, ?_⟩
  · exact (Discussion.mem_descendants_iff ordered.distinct).mp (by decide +kernel)
  · decide +kernel
  · decide +kernel
  · decide +kernel

end Colloquy.App
