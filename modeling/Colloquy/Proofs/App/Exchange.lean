import Colloquy.Proofs.App.Drafts

/-!
# Submissions in flight

An application together with the tickets that it has sent and that are not answered yet. Answers
come in any order, between any other events. A reply that is locked always awaits one of the tickets
in flight, no two replies await the same one, and a reply that is begun anew never awaits a ticket of
an earlier reply to the same comment.
-/

namespace Colloquy

namespace App

/-! ## What a step does to locks and tickets -/

/-- The reply below a comment is locked until the answer to a submission comes. -/
def Awaits (app : App) (id : CommentId) (submission : SubmissionNumber) : Prop :=
  ∃ reply, app.view.openReply? id = some reply ∧ reply.awaiting = some submission

/-- The tickets that an update sends: one, or none. -/
def sent : Except Fault Effect → List Ticket
  | .ok (.send ticket) => [ticket]
  | _ => []

/-- An update sends nothing and gives out no number, or it sends the ticket of an accepted
submission under the number that is next. -/
theorem sent_update (app : App) (moment : Moment) (action : Action) :
    (sent (app.update moment action).2 = [] ∧
        (app.update moment action).1.nextSubmission = app.nextSubmission) ∨
      ∃ id reply bearer, action = .postReply id ∧ app.view.openReply? id = some reply ∧
        app.Accepts moment reply ∧
        sent (app.update moment action).2 =
          [⟨app.nextSubmission, reply.parent, reply.content, bearer⟩] ∧
        (app.update moment action).1.nextSubmission = app.nextSubmission + 1 := by
  cases action with
  | postReply id =>
      rcases app.submit_cases moment id with
        ⟨reply, bearer, opened, accepted, submitted⟩ | ⟨-, notices, refused⟩
      · refine .inr ⟨id, reply, bearer, rfl, opened, accepted, ?_, ?_⟩
        · simp [update, submitted, sent]
        · simp [update, submitted]
      · exact .inl ⟨by simp [update, refused, sent], by simp [update, refused]⟩
  | replyAnswered parent submission result =>
      refine .inl ⟨rfl, ?_⟩
      cases result with
      | error cause => rfl
      | ok answer =>
          simp only [update, takeAnswer]
          rw [splice_eq]
  | arrived result =>
      refine .inl ⟨rfl, ?_⟩
      cases result with
      | error cause => rfl
      | ok threads =>
          simp only [update, takeListing]
          split <;> rfl
  | vote id vote =>
      refine .inl ⟨?_, rfl⟩
      simp only [update]
      cases (app.view.vote app.discussion id vote).2 with
      | error fault => rfl
      | ok score => rfl
  | refresh | fold | unfold | toggleFold | toggleReply | discardReply | quit => exact .inl ⟨rfl, rfl⟩

/-- A lock that is there after an action was there before, and the action is not the answer to it,
or a ticket for it has just been sent. -/
theorem Awaits.of_update {app : App} (ordered : app.WellFormed) {moment : Moment} {action : Action}
    {id : CommentId} {submission : SubmissionNumber}
    (locked : (app.update moment action).1.Awaits id submission) :
    (app.Awaits id submission ∧ ∀ result, action ≠ .replyAnswered id submission result) ∨
      (submission = app.nextSubmission ∧ ∃ ticket ∈ sent (app.update moment action).2,
        ticket.submission = submission ∧ ticket.parent = id) := by
  obtain ⟨reply, opened, awaited⟩ := locked
  cases before : app.view.openReply? id with
  | none =>
      rcases openReply?_update_of_closed ordered before with closed | begun
      · rw [closed] at opened
        contradiction
      · rw [begun, Option.some.injEq] at opened
        rw [← opened] at awaited
        contradiction
  | some earlier =>
      by_cases spared : ∀ outcome, ¬app.Concerns moment id earlier action outcome
      · have kept := openReply?_update_of_not_concerns ordered before spared
        rw [kept, Option.some.injEq] at opened
        subst opened
        refine .inl ⟨⟨earlier, before, awaited⟩, ?_⟩
        rintro (cause | answer) rfl
        · exact spared _ (.failed submission awaited cause)
        · exact spared _ (.posted submission awaited answer)
      · push Not at spared
        obtain ⟨outcome, concerned⟩ := spared
        rw [openReply?_update_of_concerns ordered before concerned] at opened
        cases concerned with
        | submitted accepted =>
            obtain rfl := Option.some.inj opened
            obtain ⟨bearer, submitted⟩ := submit_of_accepts before accepted
            refine .inr ⟨(Option.some.inj awaited).symm, ?_⟩
            refine ⟨⟨app.nextSubmission, earlier.parent, earlier.content, bearer⟩, ?_,
              Option.some.inj awaited, ordered.view.parent_eq before⟩
            simp [update, submitted, sent]
        | failed other expected cause =>
            obtain rfl := Option.some.inj opened
            contradiction
        | _ => contradiction

/-- Typing neither locks nor unlocks a reply. -/
theorem awaits_type_iff (app : App) (typed : CommentId) (text : String) (id : CommentId)
    (submission : SubmissionNumber) :
    (app.type typed text).Awaits id submission ↔ app.Awaits id submission := by
  cases opened : app.view.openReply? typed with
  | none => simp [type, opened]
  | some reply =>
      by_cases here : id = typed
      · subst here
        simp [Awaits, type, opened, View.openReply?_setOpenReply]
      · simp [Awaits, type, opened, View.openReply?_setOpenReply, here]

theorem nextSubmission_type (app : App) (id : CommentId) (text : String) :
    (app.type id text).nextSubmission = app.nextSubmission := by
  cases opened : app.view.openReply? id with
  | none => simp [type, opened]
  | some reply => simp [type, opened]

end App

/-- An application and the tickets that it has sent and that are not answered yet. -/
structure Exchange where
  app : App
  inFlight : List Ticket := []

namespace Exchange

/-- One step, and the tickets that it sends. -/
inductive Step (before : Exchange) : List Ticket → Exchange → Prop where
  /-- Something other than an answer happens. -/
  | acted (moment : Moment) (action : Action)
      (unanswered : ∀ parent submission result, action ≠ .replyAnswered parent submission result) :
      Step before (App.sent (before.app.update moment action).2)
        ⟨(before.app.update moment action).1,
          before.inFlight ++ App.sent (before.app.update moment action).2⟩
  | typed (id : CommentId) (text : String) :
      Step before [] ⟨before.app.type id text, before.inFlight⟩
  /-- Any of the tickets in flight is answered in any way. -/
  | delivered (moment : Moment) (front : List Ticket) (ticket : Ticket) (back : List Ticket)
      (result : PostResult) (flying : before.inFlight = front ++ ticket :: back) :
      Step before [] ⟨(before.app.update moment (ticket.answered result)).1, front ++ back⟩

/-- Any number of steps, and the tickets that they send, from the first to the last. -/
inductive Run (start : Exchange) : List Ticket → Exchange → Prop where
  | refl : Run start [] start
  | tail {middle finish : Exchange} {earlier issued : List Ticket} (run : Run start earlier middle)
      (step : Step middle issued finish) : Run start (earlier ++ issued) finish

/-- Every lock has its ticket in flight, and all tickets in flight have numbers of their own that
will not be given out again. -/
structure Sound (state : Exchange) : Prop where
  ordered : state.app.WellFormed
  outstanding : ∀ id submission, state.app.Awaits id submission →
    ∃ ticket ∈ state.inFlight, ticket.submission = submission ∧ ticket.parent = id
  distinct : (state.inFlight.map Ticket.submission).Nodup
  numbered : ∀ ticket ∈ state.inFlight, ticket.submission < state.app.nextSubmission

variable {before after start middle finish : Exchange} {issued earlier later : List Ticket}

/-- Submissions are numbered one after the other. -/
theorem Step.numbers (step : Step before issued after) :
    issued.map Ticket.submission = List.range' before.app.nextSubmission issued.length ∧
      after.app.nextSubmission = before.app.nextSubmission + issued.length := by
  cases step with
  | acted moment action unanswered =>
      rcases before.app.sent_update moment action with
        ⟨silent, kept⟩ | ⟨id, reply, bearer, -, -, -, sends, advanced⟩
      · simp [silent, kept]
      · simp [sends, advanced]
  | typed id text => simp [App.nextSubmission_type]
  | delivered moment front ticket back result flying =>
      rcases before.app.sent_update moment (ticket.answered result) with
        ⟨-, kept⟩ | ⟨id, reply, bearer, answers, -⟩
      · simp [kept]
      · simp [Ticket.answered] at answers

/-- A lock that is there after a step was there before, or the step has sent a ticket for it. -/
theorem Step.awaits (step : Step before issued after) (ordered : before.app.WellFormed)
    {id : CommentId} {submission : SubmissionNumber} (locked : after.app.Awaits id submission) :
    before.app.Awaits id submission ∨ submission = before.app.nextSubmission := by
  cases step with
  | acted moment action unanswered => exact (locked.of_update ordered).imp And.left And.left
  | typed typed text => exact .inl ((App.awaits_type_iff ..).mp locked)
  | delivered moment front ticket back result flying =>
      exact (locked.of_update ordered).imp And.left And.left

/-- Every step keeps the locks and the tickets in step. -/
theorem Sound.step (sound : before.Sound) (step : Step before issued after) : after.Sound := by
  obtain ⟨numbers, advanced⟩ := step.numbers
  cases step with
  | acted moment action unanswered =>
      refine ⟨sound.ordered.update moment action, ?_, ?_, ?_⟩
      · intro id submission locked
        rcases locked.of_update sound.ordered with ⟨earlier, -⟩ | ⟨-, ticket, issued, matching⟩
        · obtain ⟨ticket, flying, matching⟩ := sound.outstanding id submission earlier
          exact ⟨ticket, List.mem_append_left _ flying, matching⟩
        · exact ⟨ticket, List.mem_append_right _ issued, matching⟩
      · rw [List.map_append, numbers, List.nodup_append]
        refine ⟨sound.distinct, List.nodup_range', ?_⟩
        rintro number flying _ issued rfl
        obtain ⟨ticket, member, rfl⟩ := List.mem_map.mp flying
        exact Nat.not_le.mpr (sound.numbered ticket member) (List.mem_range'_1.mp issued).1
      · intro ticket member
        rcases List.mem_append.mp member with flying | issued
        · exact Nat.lt_of_lt_of_le (sound.numbered ticket flying) (advanced ▸ Nat.le_add_right _ _)
        · have new := List.mem_map_of_mem (f := Ticket.submission) issued
          rw [numbers] at new
          exact advanced ▸ (List.mem_range'_1.mp new).2
  | typed typed text =>
      refine ⟨sound.ordered.type typed text, ?_, sound.distinct, ?_⟩
      · intro id submission locked
        exact sound.outstanding id submission ((App.awaits_type_iff ..).mp locked)
      · simpa [App.nextSubmission_type] using sound.numbered
  | delivered moment front ticket back result flying =>
      have fewer : (front ++ back).Sublist before.inFlight := by
        rw [flying]
        exact (List.Sublist.refl front).append (List.sublist_cons_self ticket back)
      refine ⟨sound.ordered.update moment _, ?_, sound.distinct.sublist (fewer.map _), ?_⟩
      · intro id submission locked
        rcases locked.of_update sound.ordered with ⟨earlier, other⟩ | ⟨-, _, issued, -⟩
        · obtain ⟨awaited, member, same, answers⟩ := sound.outstanding id submission earlier
          have apart : awaited ≠ ticket := by
            rintro rfl
            apply other result
            rw [Ticket.answered, same, answers]
          refine ⟨awaited, ?_, same, answers⟩
          rw [flying] at member
          grind
        · simp [App.update, App.sent, Ticket.answered] at issued
      · intro other member
        exact advanced ▸ sound.numbered other (fewer.subset member)

/-- What holds of an exchange that starts with nothing in flight. -/
theorem sound_of_starts (starts : start.app.Starts) (quiet : start.inFlight = []) :
    start.Sound := by
  refine ⟨starts.wellFormed, ?_, by simp [quiet], by simp [quiet]⟩
  rintro id submission ⟨reply, opened, -⟩
  rw [starts.view_eq] at opened
  contradiction

theorem Sound.run (sound : start.Sound) (run : Run start issued finish) : finish.Sound := by
  induction run with
  | refl => exact sound
  | tail run step ih => exact ih.step step

/-- A run numbers its submissions one after the other. -/
theorem Run.numbers (run : Run start issued finish) :
    issued.map Ticket.submission = List.range' start.app.nextSubmission issued.length ∧
      finish.app.nextSubmission = start.app.nextSubmission + issued.length := by
  induction run with
  | refl => simp
  | tail run step ih =>
      obtain ⟨numbers, advanced⟩ := step.numbers
      rw [List.map_append, ih.1, numbers, ih.2, List.length_append, advanced, ih.2]
      exact ⟨List.range'_append_1, Nat.add_assoc _ _ _⟩

theorem Run.append (first : Run start earlier middle) (second : Run middle later finish) :
    Run start (earlier ++ later) finish := by
  induction second with
  | refl => simpa using first
  | tail run step ih => simpa using ih.tail step

/-- A reply that is begun in a run awaits a ticket of that run. -/
theorem Run.le_of_awaits (run : Run start issued finish) (sound : start.Sound) {id : CommentId}
    (closed : start.app.view.openReply? id = none) {submission : SubmissionNumber}
    (locked : finish.app.Awaits id submission) : start.app.nextSubmission ≤ submission := by
  induction run with
  | refl =>
      obtain ⟨reply, opened, -⟩ := locked
      rw [closed] at opened
      contradiction
  | tail run step ih =>
      rcases step.awaits (sound.run run).ordered locked with earlier | rfl
      · exact ih earlier
      · rw [run.numbers.2]
        exact Nat.le_add_right _ _

/-- Tickets with numbers of their own are told apart by them. -/
theorem filter_submission_eq {tickets : List Ticket} {ticket : Ticket}
    (distinct : (tickets.map Ticket.submission).Nodup) (member : ticket ∈ tickets) :
    (tickets.filter fun other => other.submission = ticket.submission) = [ticket] := by
  have told : ∀ other ∈ tickets,
      decide (other.submission = ticket.submission) = (other == ticket) := by
    intro other listed
    have same : other.submission = ticket.submission ↔ other = ticket :=
      ⟨List.inj_on_of_nodup_map distinct listed member, congrArg Ticket.submission⟩
    simp [same, Bool.beq_eq_decide_eq]
  rw [List.filter_congr told, List.filter_beq,
    List.count_eq_one_of_mem (List.Nodup.of_map _ distinct) member]
  rfl

/-- However actions, typing and answers interleave, the submission that a locked reply awaits is
that of one ticket in flight, which answers the same comment; no two replies await the same
submission, and no two tickets in flight have the same. A reply that is begun after another one
below the same comment is gone awaits none of the tickets that were sent before. Submissions are
numbered one after the other. -/
theorem awaits_of_run (starts : start.app.Starts) (quiet : start.inFlight = [])
    (first : Run start earlier middle) (second : Run middle later finish) :
    (∀ id submission, finish.app.Awaits id submission → ∃ ticket,
        (finish.inFlight.filter fun ticket => ticket.submission = submission) = [ticket] ∧
          ticket.parent = id) ∧
      (∀ one other submission, finish.app.Awaits one submission →
        finish.app.Awaits other submission → one = other) ∧
      (finish.inFlight.map Ticket.submission).Nodup ∧
      (∀ id submission, middle.app.view.openReply? id = none → finish.app.Awaits id submission →
        ∀ ticket ∈ earlier, ticket.submission ≠ submission) ∧
      (earlier ++ later).map Ticket.submission =
        List.range' start.app.nextSubmission (earlier ++ later).length := by
  have initial := sound_of_starts starts quiet
  have halfway := initial.run first
  have sound := halfway.run second
  have alone : ∀ id submission, finish.app.Awaits id submission → ∃ ticket,
      (finish.inFlight.filter fun ticket => ticket.submission = submission) = [ticket] ∧
        ticket.parent = id := by
    intro id submission locked
    obtain ⟨ticket, member, rfl, answers⟩ := sound.outstanding id submission locked
    exact ⟨ticket, filter_submission_eq sound.distinct member, answers⟩
  refine ⟨alone, ?_, sound.distinct, ?_, (first.append second).numbers.1⟩
  · intro one other submission lockedOne lockedOther
    obtain ⟨ticket, found, rfl⟩ := alone one submission lockedOne
    obtain ⟨same, foundSame, rfl⟩ := alone other submission lockedOther
    rw [found, List.singleton_inj] at foundSame
    rw [foundSame]
  · rintro id submission closed locked ticket sent rfl
    have issued := List.mem_map_of_mem (f := Ticket.submission) sent
    rw [first.numbers.1] at issued
    have old := (List.mem_range'_1.mp issued).2
    have new := second.le_of_awaits halfway closed locked
    rw [first.numbers.2] at new
    exact absurd old (Nat.not_lt.mpr new)

/-- The first reply below comment 12 is given up while its ticket is in flight, a second one is
posted in its place, and the answer to the first comes last. -/
theorem awaits_after_reopening : ∃ middle finish earlier later,
    Run ⟨App.sample, []⟩ earlier middle ∧ Run middle later finish ∧
      middle.app.view.openReply? 12 = none ∧ finish.app.Awaits 12 2 ∧
      earlier.map Ticket.submission = [1] ∧ (∀ ticket ∈ earlier, ticket.submission ≠ 2) ∧
      ∃ ticket, (finish.inFlight.filter fun ticket => ticket.submission = 2) = [ticket] ∧
        ticket.parent = 12 := by
  have reopened {middle finish : Exchange} {earlier later : List Ticket}
      (first : Run ⟨App.sample, []⟩ earlier middle) (second : Run middle later finish)
      (closed : middle.app.view.openReply? 12 = none) (locked : finish.app.Awaits 12 2)
      (one : earlier.map Ticket.submission = [1]) :
      ∃ middle finish earlier later,
        Run ⟨App.sample, []⟩ earlier middle ∧ Run middle later finish ∧
          middle.app.view.openReply? 12 = none ∧ finish.app.Awaits 12 2 ∧
          earlier.map Ticket.submission = [1] ∧ (∀ ticket ∈ earlier, ticket.submission ≠ 2) ∧
          ∃ ticket, (finish.inFlight.filter fun ticket => ticket.submission = 2) = [ticket] ∧
            ticket.parent = 12 := by
    obtain ⟨outstanding, -, -, fresh, -⟩ := awaits_of_run App.starts_sample rfl first second
    exact ⟨middle, finish, earlier, later, first, second, closed, locked, one,
      fresh 12 2 closed locked, outstanding 12 2 locked⟩
  refine reopened
    ((((Run.refl.tail (.acted {} (.toggleReply 12) nofun)).tail (.typed 12 "first")).tail
      (.acted {} (.postReply 12) nofun)).tail (.acted {} (.discardReply 12) nofun))
    ((((Run.refl.tail (.acted {} (.toggleReply 12) nofun)).tail (.typed 12 "second")).tail
      (.acted {} (.postReply 12) nofun)).tail
      (.delivered {} [] ⟨1, 12, "first", "jwt"⟩ [⟨2, 12, "second", "jwt"⟩]
        (.error (.timeout 30)) (by decide +kernel)))
    (by decide +kernel) ⟨⟨12, "second", some 2⟩, by decide +kernel, rfl⟩ (by decide +kernel)

end Exchange

end Colloquy
