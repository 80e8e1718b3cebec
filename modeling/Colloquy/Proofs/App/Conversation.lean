import Colloquy.Proofs.App.WellFormed

/-!
# How a conversation goes on

Until other comments are loaded, a discussion changes only by replies that the backend has accepted.
Each answer that describes a fitting reply adds it once, whoever awaits the answer, and any other
event leaves the discussion alone. Comments that are there stay, unchanged and in the same order.
-/

namespace Colloquy

/-- Comments arrive that take the place of the discussion. -/
def Event.Loads : Event → Prop
  | .acted _ (.arrived (.ok threads)) => (Discussion.ids ⟨threads⟩).Nodup
  | _ => False

namespace App

/-- A reply that is put into the discussion, and the comment that it answers. -/
structure Addition where
  parent : CommentId
  reply : Thread

/-- What an event adds to the discussion: the reply that the backend's answer describes, if it fits
where it belongs. -/
def addition? (app : App) : Event → Option Addition
  | .acted moment (.replyAnswered parent _ (.ok answer)) =>
      (app.graft? moment parent answer).map fun reply => ⟨parent, reply⟩
  | _ => none

/-- What several events add to the discussion, in the order of the events. -/
def additions (app : App) : List Event → List Addition
  | [] => []
  | event :: rest => (app.addition? event).toList ++ (app.after event).additions rest

/-! ## One event -/

theorem discussion_submit (app : App) (moment : Moment) (id : CommentId) :
    (app.submit moment id).1.discussion = app.discussion := by
  rcases app.submit_cases moment id with ⟨reply, bearer, -, -, submitted⟩ | ⟨-, notices, refused⟩
  · rw [submitted]
  · rw [refused]

theorem discussion_type (app : App) (id : CommentId) (text : String) :
    (app.type id text).discussion = app.discussion := by
  cases opened : app.view.openReply? id with
  | none => simp [type, opened]
  | some reply => simp [type, opened]

variable {app : App} {event : Event}

/-- An event that adds nothing leaves the discussion alone. -/
theorem discussion_after_of_none (unloaded : ¬event.Loads) (silent : app.addition? event = none) :
    (app.after event).discussion = app.discussion := by
  cases event with
  | typed id text => exact app.discussion_type id text
  | acted moment action =>
      cases action with
      | arrived result =>
          have refused : ∀ threads, result = .ok threads → ¬(Discussion.ids ⟨threads⟩).Nodup := by
            rintro threads rfl
            exact unloaded
          exact (app.update_arrived_of_refused moment refused).1
      | postReply id => exact app.discussion_submit moment id
      | replyAnswered parent submission result =>
          simp only [after, update, discussion_takeAnswer]
          cases result with
          | error cause => rfl
          | ok answer =>
              simp only [addition?, Option.map_eq_none_iff] at silent
              exact congrArg App.discussion (splice_of_graft?_eq_none silent)
      | _ => rfl

/-- An event that adds a reply makes the discussion grow by it. -/
theorem grown_of_addition? {added : Addition} (adds : app.addition? event = some added) :
    app.discussion.Fits added.parent added.reply ∧
      Thread.Grown added.parent added.reply app.placement app.discussion.outline
        (app.after event).discussion.outline := by
  cases event with
  | typed id text => contradiction
  | acted moment action =>
      cases action with
      | replyAnswered parent submission result =>
          cases result with
          | error cause => contradiction
          | ok answer =>
              obtain ⟨reply, grafted, rfl⟩ := Option.map_eq_some_iff.mp adds
              obtain ⟨grown, spliced, growth⟩ := splice_of_graft? grafted
              refine ⟨fits_of_graft? grafted, ?_⟩
              simpa only [after, update, discussion_takeAnswer, spliced] using growth
      | _ => contradiction

/-- An event loses no comment and moves none. -/
theorem outline_sublist_after (unloaded : ¬event.Loads) :
    app.discussion.outline.Sublist (app.after event).discussion.outline := by
  cases adds : app.addition? event with
  | none => rw [discussion_after_of_none unloaded adds]
  | some added => exact (grown_of_addition? adds).2.sublist

/-- An event adds the ids of the reply and no other. -/
theorem ids_after_perm (unloaded : ¬event.Loads) :
    (app.after event).discussion.ids.Perm
      (app.discussion.ids ++ (app.addition? event).toList.flatMap fun added => added.reply.ids) := by
  cases adds : app.addition? event with
  | none => simp [discussion_after_of_none unloaded adds]
  | some added => simpa using Discussion.ids_perm_of_grown (grown_of_addition? adds).2

theorem ids_nodup_after (unloaded : ¬event.Loads) (distinct : app.discussion.ids.Nodup) :
    (app.after event).discussion.ids.Nodup := by
  cases adds : app.addition? event with
  | none => rwa [discussion_after_of_none unloaded adds]
  | some added =>
      obtain ⟨fits, growth⟩ := grown_of_addition? adds
      exact Discussion.ids_nodup_of_grown distinct fits growth

/-! ## Several events -/

variable {events : List Event}

theorem outline_sublist_run (unloaded : ∀ event ∈ events, ¬event.Loads) :
    app.discussion.outline.Sublist (app.run events).discussion.outline :=
  run_keeps (motive := fun next => app.discussion.outline.Sublist next.discussion.outline)
    (fun event member _ kept => kept.trans (outline_sublist_after (unloaded event member)))
    (List.Sublist.refl _)

theorem comments_subset_run (unloaded : ∀ event ∈ events, ¬event.Loads) :
    app.discussion.comments ⊆ (app.run events).discussion.comments :=
  Discussion.comments_subset_of_sublist (outline_sublist_run unloaded)

theorem ids_nodup_run (unloaded : ∀ event ∈ events, ¬event.Loads)
    (distinct : app.discussion.ids.Nodup) : (app.run events).discussion.ids.Nodup :=
  run_keeps (motive := fun next => next.discussion.ids.Nodup)
    (fun event member _ distinct => ids_nodup_after (unloaded event member) distinct) distinct

theorem ids_run_perm (unloaded : ∀ event ∈ events, ¬event.Loads) :
    (app.run events).discussion.ids.Perm
      (app.discussion.ids ++ (app.additions events).flatMap fun added => added.reply.ids) := by
  induction events generalizing app with
  | nil => simp [run, additions]
  | cons event rest ih =>
      obtain ⟨first, others⟩ := List.forall_mem_cons.mp unloaded
      have grown : (app.after event).discussion.ids.Perm _ := ids_after_perm first
      rw [additions, List.flatMap_append, ← List.append_assoc]
      exact (ih others).trans (grown.append_right _)

/-- As long as nothing is loaded, each answer that describes a fitting reply adds it once, and
nothing else is added: the ids are those from the start and those of the replies, and no id occurs
twice. Every comment that is there at some time is there at the end, with the same text, at the same
depth, below the same comment and in the same order. A reply arrives in one block, with its own
shape, right below the comment that it answers. -/
theorem additions_of_run (distinct : app.discussion.ids.Nodup)
    (unloaded : ∀ event ∈ events, ¬event.Loads) :
    (app.run events).discussion.ids.Perm
        (app.discussion.ids ++ (app.additions events).flatMap fun added => added.reply.ids) ∧
      ∀ earlier later, events = earlier ++ later →
        (app.run earlier).discussion.ids.Nodup ∧
          (app.run earlier).discussion.outline.Sublist (app.run events).discussion.outline ∧
          ∀ event rest added, later = event :: rest →
            (app.run earlier).addition? event = some added →
              ∃ depth, (app.run earlier).discussion.depth? added.parent = some depth ∧
                added.reply.outline (depth + 1) (some added.parent) <:+:
                  (app.run (earlier ++ [event])).discussion.outline := by
  refine ⟨ids_run_perm unloaded, ?_⟩
  rintro earlier later rfl
  obtain ⟨before, after⟩ := List.forall_mem_append.mp unloaded
  refine ⟨ids_nodup_run before distinct, ?_, ?_⟩
  · rw [run_append]
    exact outline_sublist_run after
  · intro event rest added _ adds
    obtain ⟨front, back, depth, -, grown, located⟩ := (grown_of_addition? adds).2.block
    refine ⟨depth, ?_, ?_⟩
    · rw [Discussion.depth?_eq_outline, located]
    · rw [run_append, run, run, grown]
      exact ⟨front, back, rfl⟩

/-- An answer comes late and twice, one describes no comment, and one names no parent. -/
def lateAnswers : List Event :=
  [.acted {} (.toggleReply 12), .typed 12 "It does.", .acted {} (.postReply 12),
    .acted {} (.fold 1), .acted {} (.replyAnswered 12 1 (.ok sampleAnswer)),
    .acted {} (.replyAnswered 12 1 (.ok sampleAnswer)),
    .acted {} (.replyAnswered 12 1 (.ok .null)),
    .acted {} (.replyAnswered 999 1 (.ok sampleAnswer))]

/-- The two comments that the first answer describes come in once, and no other does. -/
theorem additions_lateAnswers :
    (sample.run lateAnswers).discussion.ids = [1, 11, 111, 12, 500, 501, 2, 21] ∧
      (sample.run lateAnswers).discussion.ids.Perm ([1, 11, 111, 12, 2, 21] ++ [500, 501]) ∧
      sample.discussion.outline.Sublist (sample.run lateAnswers).discussion.outline := by
  have distinct : sample.discussion.ids.Nodup := by decide +kernel
  have unloaded : ∀ event ∈ lateAnswers, ¬event.Loads := by simp [lateAnswers, Event.Loads]
  obtain ⟨added, kept⟩ := additions_of_run distinct unloaded
  refine ⟨by decide +kernel, ?_, (kept [] lateAnswers rfl).2.1⟩
  have initial : sample.discussion.ids = [1, 11, 111, 12, 2, 21] := by decide +kernel
  have replies : ((sample.additions lateAnswers).flatMap fun added => added.reply.ids) =
      [500, 501] := by decide +kernel
  rwa [initial, replies] at added

end App

end Colloquy
