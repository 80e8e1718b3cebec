import Colloquy.Proofs.App.Mounting

/-!
# Scores over whole runs

The score that is shown for a comment is the score with which it was received, plus the votes for it
and minus those against it. The votes count from the last time when everything was forgotten that was
done to the comment. A vote is refused exactly if 64 bits cannot hold the sum, and nothing but votes
changes the score in between.
-/

namespace Colloquy

namespace Vote

/-- A score is one that 64 bits hold. -/
def InRange (score : Int) : Prop :=
  Int64.minValue.toInt ≤ score ∧ score ≤ Int64.maxValue.toInt

theorem toInt_of_cast? {vote : Vote} {score next : Int64} (counted : vote.cast? score = some next) :
    next.toInt = score.toInt + vote.weight := by
  have lower := score.le_toInt
  have upper := score.toInt_lt
  cases vote with
  | up =>
      simp only [cast?, Option.ite_none_left_eq_some, Option.some.injEq] at counted
      obtain ⟨below, rfl⟩ := counted
      rw [← Int64.toInt_inj, Int64.toInt_maxValue] at below
      rw [Int64.toInt_add, Int.bmod_eq_of_le]
      · rfl
      · simp
        omega
      · simp
        omega
  | down =>
      simp only [cast?, Option.ite_none_left_eq_some, Option.some.injEq] at counted
      obtain ⟨above, rfl⟩ := counted
      rw [← Int64.toInt_inj, Int64.toInt_minValue] at above
      rw [Int64.toInt_sub, Int.bmod_eq_of_le]
      · rfl
      · simp
        omega
      · simp
        omega

/-- A vote is refused exactly if it would take the score out of the range. -/
theorem cast?_eq_none_iff {vote : Vote} {score : Int64} :
    vote.cast? score = none ↔ ¬InRange (score.toInt + vote.weight) := by
  have lower := score.le_toInt
  have upper := score.toInt_lt
  rw [InRange, Int64.toInt_minValue, Int64.toInt_maxValue]
  cases vote with
  | up =>
      simp only [cast?, weight, ite_eq_left_iff, reduceCtorEq, imp_false, not_not]
      rw [← Int64.toInt_inj, Int64.toInt_maxValue]
      omega
  | down =>
      simp only [cast?, weight, ite_eq_left_iff, reduceCtorEq, imp_false, not_not]
      rw [← Int64.toInt_inj, Int64.toInt_minValue]
      omega

end Vote

namespace App

/-- The vote that an event casts on a comment, unless it is refused. -/
def ballot? (app : App) (id : CommentId) : Event → Option Vote
  | .acted moment (.vote other vote) =>
      match (app.update moment (.vote other vote)).2 with
      | .ok _ => if other = id then some vote else none
      | .error _ => none
  | _ => none

/-- The votes that several events cast on a comment, without those that are refused. -/
def ballots (app : App) (id : CommentId) : List Event → List Vote
  | [] => []
  | event :: rest => (app.ballot? id event).toList ++ (app.after event).ballots id rest

variable {app : App} {event : Event} {comment : Comment}

/-! ## One event -/

/-- A vote on a comment is counted exactly if 64 bits hold the score after it. -/
theorem update_vote (distinct : app.discussion.ids.Nodup)
    (listed : comment ∈ app.discussion.comments) (moment : Moment) (vote : Vote) :
    (app.update moment (.vote comment.id vote)).2 =
      match vote.cast? (app.view.scoreOf comment) with
      | some _ => .ok .none
      | none => .error .scoreOverflow := by
  have marks := app.view.marksOrFresh?_of_listed distinct listed
  obtain ⟨node, fetched, shown⟩ := Option.map_eq_some_iff.mp marks
  have score : node.score = app.view.scoreOf comment := congrArg Marks.score shown
  simp only [update, View.vote, fetched, score]
  cases vote.cast? (app.view.scoreOf comment) with
  | none => rfl
  | some next => rfl

theorem ballot?_eq_none_of_target {id : CommentId} (apart : event.target? ≠ some id) :
    app.ballot? id event = none := by
  cases event with
  | typed other text => rfl
  | acted moment action =>
      cases action with
      | vote other vote =>
          have elsewhere : other ≠ id := fun same => apart (congrArg some same)
          simp only [ballot?, if_neg elsewhere]
          split <;> rfl
      | _ => rfl

/-- An event that does not make the application forget a comment changes its score by the vote that
it casts, and by nothing else. -/
theorem scoreOf_after_of_spared (distinct : app.discussion.ids.Nodup)
    (listed : comment ∈ app.discussion.comments) (spared : ¬app.Resets comment.id event) :
    ((app.after event).view.scoreOf comment).toInt =
      (app.view.scoreOf comment).toInt +
        ((app.ballot? comment.id event).map Vote.weight).getD 0 := by
  by_cases aimed : event.target? = some comment.id
  · have changed := marks?_after_of_target distinct aimed
    rw [app.view.marksOrFresh?_of_listed distinct listed, Option.map_some] at changed
    rw [View.scoreOf_eq_marks?, changed]
    cases event with
    | typed other text => contradiction
    | acted moment action =>
        cases action with
        | vote other vote =>
            obtain rfl : other = comment.id := Option.some.inj aimed
            cases counted : vote.cast? (app.view.scoreOf comment) with
            | none => simp [Event.change, ballot?, update_vote distinct listed, counted]
            | some next =>
                simp [Event.change, ballot?, update_vote distinct listed, counted,
                  Vote.toInt_of_cast? counted]
        | _ => simp [Event.change, ballot?]
  · rw [View.scoreOf_eq_marks?, marks?_after_of_spared distinct spared aimed,
      ← View.scoreOf_eq_marks?, ballot?_eq_none_of_target aimed]
    simp

theorem scoreOf_after_of_silent (distinct : app.discussion.ids.Nodup)
    (listed : comment ∈ app.discussion.comments) (event : Event)
    (spared : ¬app.Resets comment.id event) (silent : app.ballot? comment.id event = none) :
    (app.after event).view.scoreOf comment = app.view.scoreOf comment := by
  have same := scoreOf_after_of_spared distinct listed spared
  rw [silent] at same
  simpa [Int64.toInt_inj] using same

/-! ## Several events -/

variable {events : List Event}

theorem listed_run_iff (ordered : app.WellFormed)
    (spared : app.Avoids (·.Resets comment.id) events) :
    comment ∈ (app.run events).discussion.comments ↔ comment ∈ app.discussion.comments := by
  induction events generalizing app with
  | nil => rfl
  | cons event rest ih =>
      exact (ih (ordered.after event) spared.2).trans (listed_after_iff ordered.distinct spared.1)

theorem scoreOf_run_of_spared (ordered : app.WellFormed)
    (listed : comment ∈ app.discussion.comments)
    (spared : app.Avoids (·.Resets comment.id) events) :
    ((app.run events).view.scoreOf comment).toInt =
      (app.view.scoreOf comment).toInt + (app.ballots comment.id events).count .up -
        (app.ballots comment.id events).count .down := by
  induction events generalizing app with
  | nil => simp [run, ballots]
  | cons event rest ih =>
      have kept := (listed_after_iff ordered.distinct spared.1).mpr listed
      have first := scoreOf_after_of_spared ordered.distinct listed spared.1
      rw [run, ih (ordered.after event) kept spared.2, first, ballots]
      cases app.ballot? comment.id event with
      | none => simp
      | some vote =>
          cases vote with
          | up =>
              simp [Vote.weight]
              omega
          | down =>
              simp [Vote.weight]
              omega

/-- Where nothing is mounted at first, the score shown for a comment is the one with which it was
received, plus the votes for it and minus those against it since comments were last loaded, the
comment itself arrived, or one above it was folded. All that time the comment is in the discussion,
and since comments were last loaded its id has stood for it and for no other comment, so that the
score received is always the same. A vote on it stops the program, and leaves the score shown as it
is, exactly if 64 bits cannot hold the sum after it; and nothing but a vote that is counted changes
the score shown, unless it makes the count start anew. -/
theorem scoreOf_run {start : App} (distinct : start.discussion.ids.Nodup)
    (untouched : start.view = {}) (events : List Event)
    (listed : comment ∈ (start.run events).discussion.comments) :
    ∃ earlier later, events = earlier ++ later ∧
      start.SinceLast (·.Resets comment.id) earlier later ∧
      (∀ passed rest, later = passed ++ rest →
        comment ∈ (start.run (earlier ++ passed)).discussion.comments) ∧
      (∀ passed rest, events = passed ++ rest → (∀ event ∈ rest, ¬event.Loads) →
        ∀ old ∈ (start.run passed).discussion.comments, old.id = comment.id → old = comment) ∧
      ∃ score : Int,
        score = comment.score.toInt + ((start.run earlier).ballots comment.id later).count .up -
          ((start.run earlier).ballots comment.id later).count .down ∧
        ((start.run events).view.scoreOf comment).toInt = score ∧
        (∀ moment vote,
          (((start.run events).update moment (.vote comment.id vote)).2 = .error .scoreOverflow ↔
            ¬Vote.InRange (score + vote.weight)) ∧
          (((start.run events).update moment (.vote comment.id vote)).2 = .error .scoreOverflow →
            ((start.run events).update moment (.vote comment.id vote)).1.view.scoreOf comment =
              (start.run events).view.scoreOf comment)) ∧
        ∀ event, ¬(start.run events).Resets comment.id event →
          (start.run events).ballot? comment.id event = none →
            ((start.run events).after event).view.scoreOf comment =
              (start.run events).view.scoreOf comment := by
  obtain ⟨earlier, later, rfl, since⟩ :=
    start.exists_sinceLast (·.Resets comment.id) events
  have ordered : start.WellFormed := ⟨distinct, untouched ▸ View.wellFormed_empty _⟩
  have middle := ordered.run earlier
  have final := ordered.run (earlier ++ later)
  have present : comment ∈ (start.run earlier).discussion.comments := by
    rw [run_append] at listed
    exact (listed_run_iff middle since.avoids).mp listed
  have received : (start.run earlier).view.scoreOf comment = comment.score := by
    rw [View.scoreOf_eq_marks?, marks?_of_sinceLast ordered untouched since]
    rfl
  have shown := scoreOf_run_of_spared middle present since.avoids
  rw [received, ← run_append] at shown
  have kept := scoreOf_after_of_silent final.distinct listed
  refine ⟨earlier, later, rfl, since, ?_, ?_, _, rfl, shown, ?_, kept⟩
  · rintro passed rest rfl
    rw [run_append]
    exact (listed_run_iff middle ((avoids_append ..).mp since.avoids).1).mpr present
  · intro passed rest split unloaded old member same
    rw [split, run_append] at listed final
    exact Discussion.eq_of_listed final.distinct (comments_subset_run unloaded member) listed same
  · intro moment vote
    refine ⟨?_, fun refused => ?_⟩
    · rw [update_vote final.distinct listed, ← shown, ← Vote.cast?_eq_none_iff]
      cases vote.cast? ((start.run (earlier ++ later)).view.scoreOf comment) with
      | none => simp
      | some next => simp
    · apply kept (.acted moment (.vote comment.id vote))
      · exact fun resets => ((resets_iff_of_target rfl).mp resets).1
      · simp [ballot?, refused]

/-- A comment is voted for, and one above it is folded. -/
def votedBefore : List Event :=
  [.acted {} (.vote 111 .up), .acted {} (.vote 111 .up), .acted {} (.fold 1)]

/-- The comment is voted on again, shown and folded itself. -/
def votedAfter : List Event :=
  [.acted {} (.vote 111 .up), .acted {} (.unfold 1), .acted {} (.vote 111 .up),
    .acted {} (.vote 111 .up), .acted {} (.vote 111 .down), .acted {} (.fold 111)]

theorem sinceLast_votedBefore :
    sample.SinceLast (·.Resets 111) votedBefore votedAfter where
  begins := by
    have below : 111 ∈ sample.discussion.descendants 1 := by decide +kernel
    have above := (Discussion.mem_descendants_iff (by decide +kernel)).mp below
    exact .inr ⟨[.acted {} (.vote 111 .up), .acted {} (.vote 111 .up)], .acted {} (.fold 1), rfl,
      .folded 1 rfl above⟩
  avoids := by
    have ordered := starts_sample.wellFormed.run (votedBefore ++ votedAfter.take 5)
    have apart := Discussion.not_isAbove_self ordered.distinct 111
    refine ⟨?_, ?_, ?_, ?_, ?_, fun resets => apart ((resets_iff_of_target rfl).mp resets).2,
      trivial⟩
    all_goals exact fun resets => ((resets_iff_of_target rfl).mp resets).1

/-- The votes before the fold above do not count. -/
theorem scoreOf_votedAnew :
    sample.discussion.ids.Nodup ∧ sample.view = {} ∧
      ∃ comment ∈ (sample.run (votedBefore ++ votedAfter)).discussion.comments,
        comment.id = 111 ∧ comment.score = 5 ∧
          ((sample.run (votedBefore ++ votedAfter)).view.scoreOf comment).toInt = 5 + 3 - 1 := by
  have distinct : sample.discussion.ids.Nodup := by decide +kernel
  have present : ∃ comment ∈ (sample.run (votedBefore ++ votedAfter)).discussion.comments,
      comment.id = 111 ∧ comment.score = 5 := by decide +kernel
  obtain ⟨comment, listed, same, received⟩ := present
  refine ⟨distinct, rfl, comment, listed, same, received, ?_⟩
  obtain ⟨earlier, later, split, since, -, -, score, sum, shown, -⟩ :=
    scoreOf_run distinct rfl (votedBefore ++ votedAfter) listed
  rw [same] at since sum
  obtain ⟨rfl, rfl⟩ := sinceLast_votedBefore.unique since split
  have votes : (sample.run votedBefore).ballots 111 votedAfter = [.up, .up, .up, .down] := by
    decide +kernel
  rw [shown, sum, votes, received]
  decide +kernel

end App

end Colloquy
