import Colloquy.Proofs.App.Exchange
import Colloquy.Proofs.App.Keys
import Colloquy.Proofs.Page.Carets

/-!
# Correspondence

A terminal together with the tickets that it has sent and that are not answered yet. While a reply
is locked its text cannot change, by whatever way an event reaches it: so the text is that of the
ticket whose answer is awaited, and after a failure it is there to be sent once more.
-/

namespace Colloquy

namespace App

variable {app : App}

/-- Locked replies and the tickets they await, those in flight among all that are known. -/
structure Corresponds (app : App) (inFlight known : List Ticket) : Prop where
  keyed : app.view.Keyed
  addressed : ∀ id reply, app.view.openReply? id = some reply → reply.parent = id
  carried : inFlight ⊆ known
  numbered : ∀ ticket ∈ known, ticket.submission < app.nextSubmission
  outstanding : ∀ id reply submission, app.view.openReply? id = some reply →
    reply.awaiting = some submission → ∃ ticket ∈ inFlight, ticket.submission = submission
  agreed : ∀ id reply, app.view.openReply? id = some reply → ∀ ticket ∈ known,
    reply.awaiting = some ticket.submission →
      ticket.parent = id ∧ ticket.content = reply.content ∧ Text.allBlank reply.content = false

/-- An answer releases the reply that awaits it. -/
theorem not_awaits_replyAnswered (app : App) (moment : Moment) (parent : CommentId)
    (submission : SubmissionNumber) (result : PostResult) :
    ¬(app.update moment (.replyAnswered parent submission result)).1.Awaits parent submission := by
  rintro ⟨reply, opened, awaited⟩
  cases origin_of_update opened with
  | kept _ before =>
      rw [openReply?_update] at opened
      cases result with
      | ok answer => simp [before, awaited, settle] at opened
      | error cause =>
          simp only [before, awaited, settle, Option.bind_some, and_self, if_true,
            Option.some.injEq] at opened
          rw [← opened] at awaited
          contradiction
  | _ => contradiction

/-- Tickets are sent under numbers that no known ticket has. -/
theorem sent_numbered (app : App) (moment : Moment) (action : Action) :
    app.nextSubmission ≤ (app.update moment action).1.nextSubmission ∧
      ∀ ticket ∈ sent (app.update moment action).2, ticket.submission = app.nextSubmission ∧
        ticket.submission < (app.update moment action).1.nextSubmission := by
  rcases app.sent_update moment action with
    ⟨silent, kept⟩ | ⟨id, reply, bearer, -, -, -, sends, advanced⟩
  · simp [silent, kept]
  · simp [sends, advanced]

namespace Corresponds

variable {inFlight known : List Ticket}

/-- The number that a locked reply awaits has been given out. -/
theorem submission_lt (sound : app.Corresponds inFlight known) {id : CommentId} {reply : OpenReply}
    {submission : SubmissionNumber} (opened : app.view.openReply? id = some reply)
    (awaited : reply.awaiting = some submission) : submission < app.nextSubmission := by
  obtain ⟨ticket, flying, rfl⟩ := sound.outstanding id reply submission opened awaited
  exact sound.numbered ticket (sound.carried flying)

theorem update (sound : app.Corresponds inFlight known) (moment : Moment) (action : Action) :
    (app.update moment action).1.Corresponds
      (inFlight ++ sent (app.update moment action).2)
      (known ++ sent (app.update moment action).2) := by
  obtain ⟨later, fresh⟩ := app.sent_numbered moment action
  refine ⟨app.keyed_update sound.keyed moment action, ?_, ?_, ?_, ?_, ?_⟩
  · intro id reply opened
    cases origin_of_update opened with
    | begun node fetched closed => exact sound.keyed.fetched fetched
    | kept _ before => exact sound.addressed id _ before
    | locked earlier before => exact sound.addressed id earlier before
    | unlocked earlier before => exact sound.addressed id earlier before
  · intro ticket member
    exact List.mem_append.mpr ((List.mem_append.mp member).imp_left (sound.carried ·))
  · intro ticket member
    rcases List.mem_append.mp member with earlier | issued
    · exact Nat.lt_of_lt_of_le (sound.numbered ticket earlier) later
    · exact (fresh ticket issued).2
  · intro id reply submission opened awaited
    cases origin_of_update opened with
    | begun node fetched closed => contradiction
    | kept _ before =>
        obtain ⟨ticket, flying, same⟩ := sound.outstanding id reply submission before awaited
        exact ⟨ticket, List.mem_append_left _ flying, same⟩
    | locked earlier before posts accepted =>
        obtain ⟨bearer, submitted⟩ := submit_of_accepts before accepted
        obtain rfl := Option.some.inj awaited
        refine ⟨⟨app.nextSubmission, earlier.parent, earlier.content, bearer⟩, ?_, rfl⟩
        simp [posts, App.update, submitted, sent]
    | unlocked => contradiction
  · intro id reply opened ticket member awaited
    cases origin_of_update opened with
    | begun node fetched closed => contradiction
    | kept _ before =>
        rcases List.mem_append.mp member with earlier | issued
        · exact sound.agreed id reply before ticket earlier awaited
        · exact absurd (fresh ticket issued).1 (Nat.ne_of_lt (sound.submission_lt before awaited))
    | locked earlier before posts accepted =>
        have number := Option.some.inj awaited
        rcases List.mem_append.mp member with old | issued
        · exact absurd number.symm (Nat.ne_of_lt (sound.numbered ticket old))
        · obtain ⟨bearer, submitted⟩ := submit_of_accepts before accepted
          simp only [posts, App.update, submitted, sent, List.mem_singleton] at issued
          subst issued
          exact ⟨sound.addressed id earlier before, rfl, accepted.2.1⟩
    | unlocked => contradiction

/-- An answered ticket is in flight no longer, and no reply misses it. -/
theorem answered {front back : List Ticket} {ticket : Ticket}
    (sound : app.Corresponds (front ++ ticket :: back) known) (moment : Moment)
    (result : PostResult) :
    (app.update moment (ticket.answered result)).1.Corresponds (front ++ back) known := by
  have next := sound.update moment (ticket.answered result)
  have silent : sent (app.update moment (ticket.answered result)).2 = [] := rfl
  rw [silent, List.append_nil, List.append_nil] at next
  have fewer : front ++ back ⊆ front ++ ticket :: back :=
    ((List.Sublist.refl front).append (List.sublist_cons_self ticket back)).subset
  refine { next with carried := fun other member => next.carried (fewer member), outstanding := ?_ }
  intro id reply submission opened awaited
  obtain ⟨other, flying, rfl⟩ := next.outstanding id reply submission opened awaited
  have own := next.agreed id reply opened other (next.carried flying) awaited
  have apart : other ≠ ticket := by
    rintro rfl
    obtain rfl : other.parent = id := own.1
    exact app.not_awaits_replyAnswered moment other.parent other.submission result
      ⟨reply, opened, awaited⟩
  refine ⟨other, ?_, rfl⟩
  grind

/-- A reply that is not locked may get any text: it awaits nothing, so nothing is asked of it but its
address. -/
theorem rewrite (sound : app.Corresponds inFlight known) {id : CommentId} {reply : OpenReply}
    (opened : app.view.openReply? id = some reply) {content : String}
    (kept : reply.isPosting = true → content = reply.content) :
    { app with view := app.view.setOpenReply id { reply with content } }.Corresponds
      inFlight known := by
  by_cases posting : reply.isPosting = true
  · obtain rfl := kept posting
    rw [Page.setOpenReply_content opened]
    exact sound
  · have locked : reply.awaiting = none := by simpa [OpenReply.isPosting] using posting
    have other (target : CommentId) (written : OpenReply)
        (writing : (app.view.setOpenReply id { reply with content }).openReply? target =
          some written) :
        (target = id ∧ written = { reply with content }) ∨
          app.view.openReply? target = some written := by
      rw [View.openReply?_setOpenReply] at writing
      by_cases here : target = id
      · subst here
        simp only [if_true, opened, Option.map_some, Option.some.injEq] at writing
        exact .inl ⟨rfl, writing.symm⟩
      · rw [if_neg here] at writing
        exact .inr writing
    refine ⟨sound.keyed.setOpenReply id _, ?_, sound.carried, sound.numbered, ?_, ?_⟩
    · intro target written writing
      rcases other target written writing with ⟨rfl, rfl⟩ | before
      · exact sound.addressed target reply opened
      · exact sound.addressed target written before
    · intro target written submission writing awaited
      rcases other target written writing with ⟨rfl, rfl⟩ | before
      · simp [locked] at awaited
      · exact sound.outstanding target written submission before awaited
    · intro target written writing ticket member awaited
      rcases other target written writing with ⟨rfl, rfl⟩ | before
      · simp [locked] at awaited
      · exact sound.agreed target written before ticket member awaited

/-- Every turn keeps the texts of locked replies. -/
theorem turn (sound : app.Corresponds inFlight known) {page : Page} {moment : Moment}
    {event : InputEvent} {turn : Turn} (reacts : page.Reacts app moment event turn) :
    turn.app.Corresponds (inFlight ++ sent turn.outcome) (known ++ sent turn.outcome) := by
  cases reacts with
  | rested next carets => simpa [sent] using sound
  | acted next carets action unanswered => exact sound.update moment action
  | submitted next id reply focused opened carets => exact sound.update moment _
  | discarded next id carets => exact sound.update moment _
  | drafted next id reply outcome focused opened carets quiet =>
      have silent : sent outcome = [] := by
        rw [quiet]
        cases ((page.draft id reply).handle reply.isPosting event).2 with
        | error fault => rfl
        | ok request => rfl
      simp only [silent, List.append_nil]
      refine sound.rewrite opened fun locked => ?_
      rw [locked, Draft.content_handle_locked]
      rfl

end Corresponds

end App

/-- A terminal and the tickets that it has sent and that are not answered yet. -/
structure Correspondence where
  terminal : Terminal
  inFlight : List Ticket

namespace Correspondence

/-- The tickets that are sent when something happens at a terminal. -/
def sent (terminal : Terminal) : Occurrence → List Ticket
  | .handled moment event => App.sent (terminal.page.handle terminal.app moment event).outcome
  | .arrived moment result => App.sent (terminal.app.update moment (.arrived result)).2
  | .answered moment parent submission result =>
      App.sent (terminal.app.update moment (.replyAnswered parent submission result)).2
  | .synced | .drawn _ _ _ => []

/-- One step, and the tickets that it sends. -/
inductive Step (before : Correspondence) : List Ticket → Correspondence → Prop where
  /-- Something other than an answer happens. -/
  | happened (occurrence : Occurrence)
      (unanswered : ∀ moment parent submission result,
        occurrence ≠ .answered moment parent submission result) :
      Step before (sent before.terminal occurrence)
        ⟨before.terminal.after occurrence, before.inFlight ++ sent before.terminal occurrence⟩
  /-- Any of the tickets in flight is answered in any way. -/
  | delivered (moment : Moment) (front : List Ticket) (ticket : Ticket) (back : List Ticket)
      (result : PostResult) (flying : before.inFlight = front ++ ticket :: back) :
      Step before []
        ⟨before.terminal.after (.answered moment ticket.parent ticket.submission result),
          front ++ back⟩

/-- Any number of steps, and the tickets that they send, from the first to the last. -/
inductive Run (start : Correspondence) : List Ticket → Correspondence → Prop where
  | refl : Run start [] start
  | tail {middle finish : Correspondence} {earlier issued : List Ticket}
      (run : Run start earlier middle) (step : Step middle issued finish) :
      Run start (earlier ++ issued) finish

variable {before after start finish : Correspondence} {issued known : List Ticket}

/-- Every step keeps the texts of locked replies. -/
theorem Step.corresponds (step : Step before issued after)
    (sound : before.terminal.app.Corresponds before.inFlight known) :
    after.terminal.app.Corresponds after.inFlight (known ++ issued) := by
  cases step with
  | delivered moment front ticket back result flying =>
      rw [flying] at sound
      rw [List.append_nil]
      exact sound.answered moment result
  | happened occurrence unanswered =>
      cases occurrence with
      | handled moment event => exact sound.turn (before.terminal.page.reacts_handle _ moment event)
      | arrived moment result => exact sound.update moment _
      | answered moment parent submission result => exact (unanswered moment parent submission result rfl).elim
      | synced => simpa [sent, Terminal.after] using sound
      | drawn width height frame =>
          cases shown : before.terminal.page.draw before.terminal.app width height frame with
          | error fault => simpa [sent, Terminal.after, shown] using sound
          | ok result => simpa [sent, Terminal.after, shown] using sound

theorem Run.corresponds (run : Run start issued finish)
    (sound : start.terminal.app.Corresponds start.inFlight known) :
    finish.terminal.app.Corresponds finish.inFlight (known ++ issued) := by
  induction run with
  | refl => simpa using sound
  | tail run step ih =>
      rw [← List.append_assoc]
      exact step.corresponds ih

/-- A correspondence starts with no reply under way; tickets may still be in flight. -/
theorem corresponds_of_closed {app : App} {pending : List Ticket} (keyed : app.view.Keyed)
    (closed : ∀ id, app.view.openReply? id = none)
    (numbered : ∀ ticket ∈ pending, ticket.submission < app.nextSubmission) :
    app.Corresponds pending pending := by
  refine ⟨keyed, ?_, List.Subset.refl _, numbered, ?_, ?_⟩
  · intro id reply opened
    exact absurd ((closed id).symm.trans opened) nofun
  · intro id reply submission opened
    exact absurd ((closed id).symm.trans opened) nofun
  · intro id reply opened
    exact absurd ((closed id).symm.trans opened) nofun

end Correspondence

namespace App

/-- After a failure the reply that awaits the answer has the text of the ticket, and the same text
can be sent once more. -/
theorem Corresponds.failed {app : App} {inFlight known : List Ticket}
    (sound : app.Corresponds inFlight known) {id : CommentId} {reply : OpenReply} {ticket : Ticket}
    (opened : app.view.openReply? id = some reply) (member : ticket ∈ known)
    (awaited : reply.awaiting = some ticket.submission) (moment : Moment) (cause : BackendError) :
    ∃ left, (app.update moment (ticket.answered (.error cause))).1.view.openReply? id = some left ∧
      left.content = ticket.content ∧ left.isReady = true ∧
      ∀ later bearer, app.session.token? later.files = some bearer →
        ((app.update moment (ticket.answered (.error cause))).1.update later (.postReply id)).2 =
          .ok (.send ⟨app.nextSubmission, id, ticket.content, bearer⟩) := by
  obtain ⟨rfl, content, written⟩ := sound.agreed id reply opened ticket member awaited
  have left : (app.update moment (ticket.answered (.error cause))).1.view.openReply?
      ticket.parent = some { reply with awaiting := none } := by
    rw [Ticket.answered, openReply?_update]
    simp [opened, awaited, settle]
  refine ⟨_, left, content.symm, by simp [OpenReply.isReady, OpenReply.isPosting, written], ?_⟩
  intro later bearer authorised
  have submitted : ({ reply with awaiting := none } : OpenReply).submit (some bearer)
      app.nextSubmission = .ok (_, ⟨app.nextSubmission, reply.parent, reply.content, bearer⟩) :=
    OpenReply.submit_eq_ok_iff.mpr ⟨rfl, written, bearer, rfl, rfl, rfl⟩
  have session : (app.update moment (ticket.answered (.error cause))).1.session = app.session := rfl
  have number : (app.update moment (ticket.answered (.error cause))).1.nextSubmission =
      app.nextSubmission := rfl
  rw [App.update, App.submit, left]
  simp only [session, number, authorised, submitted]
  rw [content, sound.addressed _ reply opened]

end App

namespace Correspondence

/-- A terminal starts without replies under way; states are kept under the ids of their comments, as
every view that was ever put together keeps them, and the tickets still in flight have numbers that
were given out before. Whatever happens at it, however often comments arrive and in whatever order
and way the tickets in flight are answered, every reply that is locked awaits a ticket in flight,
and its text is the content of that ticket. When the answer is that the
ticket failed, the reply is left with this text, is ready to be submitted, and submitting it sends
the same text once more. -/
theorem content_of_run {app : App} {pending : List Ticket}
    (keyed : ∀ id node, app.view.node? id = some node → node.id = id)
    (closed : ∀ id, app.view.openReply? id = none)
    (numbered : ∀ ticket ∈ pending, ticket.submission < app.nextSubmission)
    (run : Run ⟨⟨app, {}⟩, pending⟩ issued finish) :
    (∀ id reply submission, finish.terminal.app.view.openReply? id = some reply →
        reply.awaiting = some submission →
          ∃ ticket ∈ finish.inFlight, ticket.submission = submission) ∧
      ∀ id reply, finish.terminal.app.view.openReply? id = some reply →
        ∀ ticket ∈ pending ++ issued, reply.awaiting = some ticket.submission →
          reply.content = ticket.content ∧
          ∀ moment cause, ∃ left,
            (finish.terminal.app.update moment
              (ticket.answered (.error cause))).1.view.openReply? id = some left ∧
            left.content = ticket.content ∧ left.isReady = true ∧
            ∀ later bearer, finish.terminal.app.session.token? later.files = some bearer →
              ((finish.terminal.app.update moment (ticket.answered (.error cause))).1.update later
                (.postReply id)).2 =
                  .ok (.send ⟨finish.terminal.app.nextSubmission, id, ticket.content, bearer⟩) := by
  have sound := run.corresponds (corresponds_of_closed keyed closed numbered)
  refine ⟨sound.outstanding, ?_⟩
  intro id reply opened ticket member awaited
  have agreed := sound.agreed id reply opened ticket member awaited
  exact ⟨agreed.2.1.symm, sound.failed opened member awaited⟩

/-- A reply is submitted, and something is typed in it while its ticket is in flight. -/
theorem content_typedIn : ∃ issued finish,
    Run ⟨⟨Terminal.remark, {}⟩, []⟩ issued finish ∧ issued = [⟨1, 7, "Wait", "jwt"⟩] ∧
    finish.terminal.page.mode = .compose 7 ∧ ∃ left,
      (finish.terminal.app.update {}
        (.replyAnswered 7 1 (.error (.timeout 30)))).1.view.openReply? 7 = some left ∧
      left.content = "Wait" ∧ left.isReady = true := by
  have unseen : ∀ id, Terminal.remark.view.node? id = none := fun _ => rfl
  have closed : ∀ id, Terminal.remark.view.openReply? id = none := fun _ => rfl
  have started : Run ⟨⟨Terminal.remark, {}⟩, []⟩ [] ⟨⟨Terminal.remark, {}⟩, []⟩ := .refl
  have drawn := started.tail (.happened (.drawn 24 8 0) nofun)
  have begun := drawn.tail (.happened (.handled {} (.char 'r')) nofun)
  have written := begun.tail (.happened (.handled {} (.paste "Wait")) nofun)
  have posted := written.tail (.happened (.handled {} .submit) nofun)
  have typed := posted.tail (.happened (.handled {} (.char '!')) nofun)
  obtain ⟨-, frozen⟩ := content_of_run (fun id node found => by simp [unseen] at found) closed
    (fun ticket member => by simp at member) typed
  refine ⟨_, _, typed, ?_, ?_, ?_⟩
  · decide +kernel
  · decide +kernel
  · obtain ⟨left, kept, content, ready, -⟩ := (frozen 7 ⟨7, "Wait", some 1⟩ (by decide +kernel)
      ⟨1, 7, "Wait", "jwt"⟩ (by decide +kernel) rfl).2 {} (.timeout 30)
    exact ⟨left, kept, content, ready⟩

end Correspondence

end Colloquy
