import Colloquy.Proofs.Text.Trim
import Colloquy.Reply.Delivery
import Colloquy.Reply.Session

/-!
# One submission from start to end

A reply is refused on the spot, with nothing sent and nothing changed, or one call carries it to the
backend. What goes out on the way, to the backend and to whoever submits, is told as lists. Whether
the backend answers at once, late or never, the reply is then ready for the next attempt: emptied if
it was posted, and as it was written if it was not.
-/

namespace Colloquy

namespace Response

variable {α : Type}

/-- The backend answers no later than the time is up. -/
def Answers (response : Response α) (timeout : Nat) (result : Except BackendError α) : Prop :=
  ∃ delay ≤ timeout, response = .after delay result

/-- A client that waits hears what the backend answers in time, and else that the time is up. -/
theorem within_eq_iff {response : Response α} {timeout : Nat} {result : Except BackendError α} :
    response.within timeout = result ↔
      response.Answers timeout result ∨
        (∀ late, ¬response.Answers timeout late) ∧ result = .error (.timeout (timeout / 1000)) := by
  cases response with
  | never => simp [within, Answers, eq_comm]
  | after delay answer =>
      by_cases inTime : delay ≤ timeout
      · have answered : (Response.after delay answer).Answers timeout answer := ⟨delay, inTime, rfl⟩
        constructor
        · rintro rfl
          exact .inl (by simpa [within, inTime] using answered)
        · rintro (⟨_, -, same⟩ | ⟨silent, -⟩)
          · cases same
            simp [within, inTime]
          · exact absurd answered (silent answer)
      · have silent : ∀ late, ¬(Response.after delay answer).Answers timeout late := by
          rintro late ⟨_, early, same⟩
          cases same
          exact inTime early
        simp [within, inTime, silent, eq_comm]

/-- A client that waits hears of a success exactly if it happens in time. -/
theorem within_eq_ok_iff {response : Response α} {timeout : Nat} {value : α} :
    response.within timeout = .ok value ↔ response.Answers timeout (.ok value) := by
  simp [within_eq_iff]

/-- A client that waits hears of a failure that happens in time, or gives up when the time is up. -/
theorem within_eq_error_iff {response : Response α} {timeout : Nat} {cause : BackendError} :
    response.within timeout = .error cause ↔
      response.Answers timeout (.error cause) ∨
        (∀ result, ¬response.Answers timeout result) ∧ cause = .timeout (timeout / 1000) := by
  simp [within_eq_iff]

end Response

namespace OpenReply

variable {reply : OpenReply} {token : Option String} {fresh : SubmissionNumber}

/-! ## Refused on the spot -/

/-- A submission is refused for the first of three reasons that holds. -/
theorem submit_eq_error_iff {cause : SubmitError} :
    reply.submit token fresh = .error cause ↔
      (reply.isPosting = true ∧ cause = .stillPosting) ∨
      (reply.isPosting = false ∧ Text.allBlank reply.content = true ∧ cause = .blankText) ∨
      (reply.isPosting = false ∧ Text.allBlank reply.content = false ∧ token = none ∧
        cause = .notLoggedIn) := by
  cases posting : reply.isPosting with
  | true => simp [submit, posting, @eq_comm _ cause]
  | false =>
      cases blank : Text.allBlank reply.content with
      | true => simp [submit, posting, blank, @eq_comm _ cause]
      | false =>
          cases token with
          | none => simp [submit, posting, blank, @eq_comm _ cause]
          | some bearer => simp [submit, posting, blank]

/-- A refused submission leaves the reply as it is, and does no more than announce why. -/
theorem submitAndWait_of_refused {cause : SubmitError}
    (refused : reply.submit token fresh = .error cause) (backend : PostBackend) (timeout : Nat)
    (before : Outgoing) :
    (reply.submitAndWait token fresh backend timeout).run before =
      (⟨reply, .error cause⟩,
        ⟨before.calls, before.announced ++ cause.announcements⟩) := by
  rw [submitAndWait, refused]
  rfl

/-! ## Sent and settled -/

theorem awaiting_of_idle (idle : reply.isPosting = false) : reply.awaiting = none := by
  simpa [isPosting] using idle

/-- The answer takes the lock away, under whatever number it was set. -/
theorem finish_locked (reply : OpenReply) (number : SubmissionNumber) (result : PostResult) :
    ({ reply with awaiting := some number } : OpenReply).finish result = reply.finish result := by
  cases result with
  | ok answer => rfl
  | error cause => rfl

/-- An idle reply with some text is sent in one call, and ends as the answer in time tells. -/
theorem submitAndWait_of_sent {bearer : String} (idle : reply.isPosting = false)
    (written : Text.allBlank reply.content = false) (backend : PostBackend) (timeout : Nat)
    (before : Outgoing) :
    let calls := before.calls ++ [⟨⟨reply.parent, reply.content⟩, bearer⟩]
    let result := (backend calls).within timeout
    (reply.submitAndWait (some bearer) fresh backend timeout).run before =
      (⟨(reply.finish result).1, (reply.finish result).2⟩,
        ⟨calls, before.announced ++ answerAnnouncements result⟩) := by
  intro calls result
  have started : reply.submit (some bearer) fresh =
      .ok ({ reply with awaiting := some fresh },
        ⟨fresh, reply.parent, reply.content, bearer⟩) :=
    submit_eq_ok_iff.mpr ⟨awaiting_of_idle idle, written, bearer, rfl, rfl, rfl⟩
  rw [submitAndWait, started, ← finish_locked reply fresh result]
  rfl

theorem finish_posted_iff {result : PostResult} {answer : Json} :
    (reply.finish result).2 = .ok (.posted answer) ↔ result = .ok answer := by
  cases result with
  | ok other => simp [finish]
  | error cause => simp [finish]

theorem finish_failed_iff {result : PostResult} {cause : BackendError} :
    (reply.finish result).2 = .error (.transport cause) ↔ result = .error cause := by
  cases result with
  | ok answer => simp [finish]
  | error other => simp [finish]

end OpenReply

/-- A submission that is refused on the spot: no call goes out, the reply stays as it is, and what
is announced says why. -/
structure Submission.Refused (submission : Submission) (reply : OpenReply) (cause : SubmitError)
    (before after : Outgoing) (made : List Announcement) : Prop where
  calls : after.calls = before.calls
  announced : after.announced = before.announced ++ made
  openReply : submission.openReply = reply
  outcome : submission.outcome = .error cause

/-- A submission that goes out in one call, for whose answer the client waits. The reply ends
unlocked, with one announcement: emptied if the backend posts it in time, and else as it was, ready
to be submitted again. -/
structure Submission.Settles (submission : Submission) (reply : OpenReply) (call : PostCall)
    (response : Response Json) (timeout : Nat) (before after : Outgoing) : Prop where
  calls : after.calls = before.calls ++ [call]
  unlocked : submission.openReply.isPosting = false
  posted_iff : ∀ answer, submission.outcome = .ok (.posted answer) ↔
    response.Answers timeout (.ok answer)
  failed_iff : ∀ cause, submission.outcome = .error (.transport cause) ↔
    response.Answers timeout (.error cause) ∨
      (∀ result, ¬response.Answers timeout result) ∧ cause = .timeout (timeout / 1000)
  ended :
    (∃ answer, submission.outcome = .ok (.posted answer) ∧
        submission.openReply = { reply with content := "" } ∧
        after.announced = before.announced ++ [⟨.success, "Reply posted!"⟩]) ∨
      ∃ cause, submission.outcome = .error (.transport cause) ∧
        submission.openReply = reply ∧ submission.openReply.isReady = true ∧
        after.announced =
          before.announced ++ [⟨.error, "Failed to send reply. Please try again."⟩]

namespace Submission.Settles

variable {submission : Submission} {reply : OpenReply} {call : PostCall} {response : Response Json}
  {timeout : Nat} {before after : Outgoing}

/-- A reply that is posted is announced as posted. -/
theorem after_of_posted (settles : submission.Settles reply call response timeout before after)
    {answer : Json} (posted : submission.outcome = .ok (.posted answer)) :
    after = ⟨before.calls ++ [call], before.announced ++ [⟨.success, "Reply posted!"⟩]⟩ := by
  rcases settles.ended with ⟨-, -, -, announced⟩ | ⟨cause, failed, -⟩
  · exact Outgoing.ext settles.calls announced
  · cases posted.symm.trans failed

/-- A reply that is not posted is announced as failed. -/
theorem after_of_failed (settles : submission.Settles reply call response timeout before after)
    {cause : BackendError} (failed : submission.outcome = .error (.transport cause)) :
    after = ⟨before.calls ++ [call],
      before.announced ++ [⟨.error, "Failed to send reply. Please try again."⟩]⟩ := by
  rcases settles.ended with ⟨answer, posted, -⟩ | ⟨-, -, -, -, announced⟩
  · cases posted.symm.trans failed
  · exact Outgoing.ext settles.calls announced

end Submission.Settles

namespace OpenReply

/-- Whatever the backend does, a submission that is sent settles. -/
theorem submitAndWait_settles {reply : OpenReply} (idle : reply.isPosting = false)
    (written : Text.allBlank reply.content = false) (bearer : String) (fresh : SubmissionNumber)
    (backend : PostBackend) (timeout : Nat) (before : Outgoing) :
    let call : PostCall := ⟨⟨reply.parent, reply.content⟩, bearer⟩
    let ended := (reply.submitAndWait (some bearer) fresh backend timeout).run before
    ended.1.Settles reply call (backend (before.calls ++ [call])) timeout before ended.2 := by
  intro call ended
  simp only [ended, submitAndWait_of_sent idle written]
  have unlocked : reply.awaiting = none := awaiting_of_idle idle
  refine ⟨rfl, ?_, fun answer => ?_, fun cause => ?_, ?_⟩
  · cases (backend (before.calls ++ [call])).within timeout with
    | ok answer => rfl
    | error cause => rfl
  · exact finish_posted_iff.trans Response.within_eq_ok_iff
  · exact finish_failed_iff.trans Response.within_eq_error_iff
  · cases (backend (before.calls ++ [call])).within timeout with
    | ok answer =>
        refine .inl ⟨answer, rfl, ?_, rfl⟩
        simp [finish, unlocked]
    | error cause =>
        have kept : (reply.finish (.error cause)).1 = reply := by
          rw [finish, ← unlocked]
        refine .inr ⟨cause, rfl, kept, ?_, rfl⟩
        rw [kept]
        simp [isReady, idle, written]

/-- One submission from start to end, for every session store, backend and time to wait, and
whatever has gone out before it. A reply whose answer is awaited is left alone in silence; else
blank text, and then a missing token, are refused with one announcement. The backend is not called
in these cases and the reply stays as it is. In every other case the backend receives one call, with
the text as it was typed, and the submission settles. -/
theorem submitAndWait_outcome (reply : OpenReply) (store : String → Option String)
    (fresh : SubmissionNumber) (backend : PostBackend) (timeout : Nat) (before : Outgoing) :
    let ended := (reply.submitAndWait (store Session.tokenKey) fresh backend timeout).run before
    (reply.isPosting = true → ended.1.Refused reply .stillPosting before ended.2 []) ∧
      (reply.isPosting = false → Text.trim reply.content = "" →
        ended.1.Refused reply .blankText before ended.2 [⟨.error, "Reply cannot be empty."⟩]) ∧
      (reply.isPosting = false → Text.trim reply.content ≠ "" → store Session.tokenKey = none →
        ended.1.Refused reply .notLoggedIn before ended.2
          [⟨.error, "You must be logged in to reply."⟩]) ∧
      ∀ bearer, reply.isPosting = false → Text.trim reply.content ≠ "" →
        store Session.tokenKey = some bearer →
          let call : PostCall := ⟨⟨reply.parent, reply.content⟩, bearer⟩
          ended.1.Settles reply call (backend (before.calls ++ [call])) timeout before ended.2 := by
  intro ended
  have refused {cause : SubmitError}
      (isRefused : reply.submit (store Session.tokenKey) fresh = .error cause) :
      ended.1.Refused reply cause before ended.2 cause.announcements := by
    simp only [ended, submitAndWait_of_refused isRefused]
    exact ⟨rfl, rfl, rfl, rfl⟩
  simp only [ne_eq, Text.trim_eq_empty_iff, Bool.not_eq_true]
  refine ⟨fun posting => ?_, fun idle blank => ?_, fun idle written loggedOut => ?_,
    fun bearer idle written loggedIn => ?_⟩
  · exact refused (submit_eq_error_iff.mpr (.inl ⟨posting, rfl⟩))
  · exact refused (submit_eq_error_iff.mpr (.inr (.inl ⟨idle, blank, rfl⟩)))
  · exact refused (submit_eq_error_iff.mpr (.inr (.inr ⟨idle, written, loggedOut, rfl⟩)))
  · simpa only [ended, loggedIn] using
      submitAndWait_settles idle written bearer fresh backend timeout before

/-- A backend that answers its first call after five seconds, and no other one. -/
def answersOnce : PostBackend := fun calls =>
  if calls.length = 1 then .after 5000 (.ok .null) else .never

/-- A reply that is typed while somebody is logged in is posted by an answer at the last moment, and
kept for another attempt if there is none. It is refused while an answer is awaited, with nothing
but blanks in it, or with nobody logged in. -/
theorem submitAndWait_atTheLastMoment :
    let typed : OpenReply := { parent := 7, content := " nice post " }
    let call : PostCall := ⟨⟨7, " nice post "⟩, "jwt"⟩
    let loggedIn := (Session.memory (some "jwt")).lookup? {}
    let loggedOut := (Session.memory (some "  ")).lookup? {}
    let submit := fun (reply : OpenReply) (store : String → Option String) (before : Outgoing) =>
      (reply.submitAndWait (store Session.tokenKey) 1 answersOnce 5000).run before
    ((submit typed loggedIn {}).1.outcome = .ok (.posted .null) ∧
        (submit typed loggedIn {}).2 = ⟨[call], [⟨.success, "Reply posted!"⟩]⟩) ∧
      ((submit typed loggedIn ⟨[call], []⟩).1.outcome = .error (.transport (.timeout 5)) ∧
        (submit typed loggedIn ⟨[call], []⟩).2 =
          ⟨[call, call], [⟨.error, "Failed to send reply. Please try again."⟩]⟩) ∧
      (submit { typed with awaiting := some 0 } loggedIn {}).2 = {} ∧
      (submit { typed with content := "\u2003\n" } loggedIn {}).2 =
        ⟨[], [⟨.error, "Reply cannot be empty."⟩]⟩ ∧
      (submit typed loggedOut {}).2 = ⟨[], [⟨.error, "You must be logged in to reply."⟩]⟩ := by
  intro typed call loggedIn loggedOut submit
  have silent (result : PostResult) :
      ¬(answersOnce [call, call]).Answers 5000 result := by
    rintro ⟨delay, -, answer⟩
    cases answer
  have first := (submitAndWait_outcome typed loggedIn 1 answersOnce 5000 {}).2.2.2 "jwt" rfl
    (by decide) (by decide)
  have second := (submitAndWait_outcome typed loggedIn 1 answersOnce 5000 ⟨[call], []⟩).2.2.2
    "jwt" rfl (by decide) (by decide)
  have locked := (submitAndWait_outcome { typed with awaiting := some 0 } loggedIn 1 answersOnce
    5000 {}).1 rfl
  have blank := (submitAndWait_outcome { typed with content := "\u2003\n" } loggedIn 1 answersOnce
    5000 {}).2.1 rfl (by decide)
  have anonymous := (submitAndWait_outcome typed loggedOut 1 answersOnce 5000 {}).2.2.1 rfl
    (by decide) (by decide)
  have posted := (first.posted_iff .null).mpr ⟨5000, Nat.le_refl _, rfl⟩
  have failed := (second.failed_iff (.timeout 5)).mpr (.inr ⟨silent, rfl⟩)
  exact ⟨⟨posted, first.after_of_posted posted⟩, ⟨failed, second.after_of_failed failed⟩,
    Outgoing.ext locked.calls locked.announced, Outgoing.ext blank.calls blank.announced,
    Outgoing.ext anonymous.calls anonymous.announced⟩

end OpenReply

end Colloquy
