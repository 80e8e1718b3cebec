import Colloquy.Proofs.App.WellFormed

/-!
# Drafts

What an action does to the reply that is under way below a comment. A few actions concern the reply;
after any other one it is as it was, with the same text and the same submission awaited.
-/

namespace Colloquy.App

/-! ## Answers -/

/-- An answer that nobody awaits leaves the whole view as it was. -/
theorem view_takeAnswer_of_stale {app : App} {parent : CommentId}
    {submission : SubmissionNumber}
    (stale : ∀ reply, app.view.openReply? parent = some reply → reply.awaiting ≠ some submission)
    (moment : Moment) (result : PostResult) :
    (app.takeAnswer moment parent submission result).view = app.view := by
  have unheard : ((app.view.openReply? parent).filter fun reply =>
      reply.isAwaiting submission) = none := by
    rw [Option.filter_eq_none_iff]
    intro reply opened
    simpa [OpenReply.isAwaiting] using stale reply opened
  rw [view_takeAnswer, unheard]

/-- An answer that is awaited closes the reply, or unlocks it. -/
theorem view_takeAnswer_of_awaited {app : App} {parent : CommentId} {reply : OpenReply}
    {submission : SubmissionNumber} (opened : app.view.openReply? parent = some reply)
    (awaited : reply.awaiting = some submission) (moment : Moment) (result : PostResult) :
    (app.takeAnswer moment parent submission result).view =
      match result with
      | .ok _ => app.view.discardReply parent
      | .error _ => app.view.setOpenReply parent { reply with awaiting := none } := by
  have heard : ((app.view.openReply? parent).filter fun reply =>
      reply.isAwaiting submission) = some reply := by
    rw [opened, Option.filter_some]
    simp [OpenReply.isAwaiting, awaited]
  rw [view_takeAnswer, heard]
  cases result with
  | ok answer => rfl
  | error cause => rfl

/-! ## The reply below a comment after an action -/

instance (app : App) (moment : Moment) (reply : OpenReply) : Decidable (app.Accepts moment reply) :=
  inferInstanceAs (Decidable (_ ∧ _ ∧ _))

/-- What is left of a reply when the answer that it awaits arrives. -/
def settle (reply : OpenReply) : PostResult → Option OpenReply
  | .ok _ => none
  | .error _ => some { reply with awaiting := none }

/-- An attempt to submit touches the reply below one comment, if the submission is accepted. -/
theorem openReply?_submit (app : App) (moment : Moment) (other id : CommentId) :
    (app.submit moment other).1.view.openReply? id =
      (app.view.openReply? id).map fun reply =>
        if id = other ∧ app.Accepts moment reply then
          { reply with awaiting := some app.nextSubmission }
        else reply := by
  rcases app.submit_cases moment other with
    ⟨reply, bearer, opened, accepted, submitted⟩ | ⟨unaccepted, notices, refused⟩
  · rw [submitted, View.openReply?_setOpenReply]
    by_cases here : id = other
    · simp [here, opened, accepted]
    · simp [here]
  · rw [refused]
    cases opened : app.view.openReply? id with
    | none => rfl
    | some reply =>
        have unlocked : ¬(id = other ∧ app.Accepts moment reply) := by
          rintro ⟨rfl, accepts⟩
          exact unaccepted reply opened accepts
        simp [unlocked]

/-- An answer touches the reply below one comment, if the reply awaits it. -/
theorem openReply?_takeAnswer (app : App) (moment : Moment) (parent : CommentId)
    (submission : SubmissionNumber) (result : PostResult) (id : CommentId) :
    (app.takeAnswer moment parent submission result).view.openReply? id =
      (app.view.openReply? id).bind fun reply =>
        if id = parent ∧ reply.awaiting = some submission then settle reply result
        else some reply := by
  by_cases awaited : ∃ reply, app.view.openReply? parent = some reply ∧
      reply.awaiting = some submission
  · obtain ⟨reply, opened, awaited⟩ := awaited
    rw [view_takeAnswer_of_awaited opened awaited]
    by_cases here : id = parent
    · subst here
      cases result with
      | ok answer => simp [View.openReply?_discardReply, opened, awaited, settle]
      | error cause => simp [View.openReply?_setOpenReply, opened, awaited, settle]
    · cases result with
      | ok answer => simp [View.openReply?_discardReply, here]
      | error cause => simp [View.openReply?_setOpenReply, here]
  · have stale : ∀ reply, app.view.openReply? parent = some reply →
        reply.awaiting ≠ some submission :=
      fun reply opened same => awaited ⟨reply, opened, same⟩
    rw [view_takeAnswer_of_stale stale]
    cases opened : app.view.openReply? id with
    | none => rfl
    | some reply =>
        have unheard : ¬(id = parent ∧ reply.awaiting = some submission) := by
          rintro ⟨rfl, same⟩
          exact stale reply opened same
        simp [unheard]

/-- What every action does to the reply below a comment. -/
theorem openReply?_update (app : App) (moment : Moment) (action : Action) (id : CommentId) :
    (app.update moment action).1.view.openReply? id =
      match action with
      | .arrived (.ok threads) =>
          if (Discussion.ids ⟨threads⟩).Nodup then none else app.view.openReply? id
      | .fold upper =>
          if id = upper ∨ id ∈ app.discussion.descendants upper then none
          else app.view.openReply? id
      | .unfold upper =>
          if id = upper ∧ app.view.isFolded upper then none else app.view.openReply? id
      | .toggleFold upper =>
          if id = upper ∨ ¬app.view.isFolded upper ∧ id ∈ app.discussion.descendants upper then none
          else app.view.openReply? id
      | .toggleReply other =>
          if id = other then
            (app.view.nodeOrFresh? app.discussion id).bind fun node => node.toggleReply.openReply
          else app.view.openReply? id
      | .discardReply other => if id = other then none else app.view.openReply? id
      | .postReply other =>
          (app.view.openReply? id).map fun reply =>
            if id = other ∧ app.Accepts moment reply then
              { reply with awaiting := some app.nextSubmission }
            else reply
      | .replyAnswered parent submission result =>
          (app.view.openReply? id).bind fun reply =>
            if id = parent ∧ reply.awaiting = some submission then settle reply result
            else some reply
      | _ => app.view.openReply? id := by
  cases action with
  | refresh => rfl
  | quit => rfl
  | fold upper => exact View.openReply?_fold ..
  | unfold upper => exact View.openReply?_unfold ..
  | toggleFold upper => exact View.openReply?_toggleFold ..
  | vote other vote => exact View.openReply?_vote ..
  | discardReply other => exact View.openReply?_discardReply ..
  | postReply other => exact openReply?_submit ..
  | replyAnswered parent submission result => exact openReply?_takeAnswer ..
  | toggleReply other =>
      by_cases here : id = other
      · simp [update, View.openReply?_toggleReply, here]
      · simp [update, View.openReply?_toggleReply, here]
  | arrived result =>
      cases result with
      | error cause => rfl
      | ok threads =>
          by_cases distinct : (Discussion.ids ⟨threads⟩).Nodup
          · rw [app.update_arrived_of_nodup moment distinct]
            simp only [if_pos distinct]
            rfl
          · have refused : ∀ others, (.ok threads : ListingResult) = .ok others →
                ¬(Discussion.ids ⟨others⟩).Nodup := by
              rintro _ ⟨⟩
              exact distinct
            rw [(app.update_arrived_of_refused moment refused).2]
            simp only [if_neg distinct]

/-- Where a reply comes from that is under way below a comment after an action. -/
inductive Origin (app : App) (moment : Moment) (action : Action) (id : CommentId) :
    OpenReply → Prop where
  /-- It has been begun just now. -/
  | begun (node : NodeState) (fetched : app.view.nodeOrFresh? app.discussion id = some node)
      (closed : app.view.openReply? id = none) :
      Origin app moment action id { parent := node.id }
  | kept (reply : OpenReply) (opened : app.view.openReply? id = some reply) :
      Origin app moment action id reply
  | locked (reply : OpenReply) (opened : app.view.openReply? id = some reply)
      (posts : action = .postReply id) (accepted : app.Accepts moment reply) :
      Origin app moment action id { reply with awaiting := some app.nextSubmission }
  | unlocked (reply : OpenReply) (opened : app.view.openReply? id = some reply)
      (submission : SubmissionNumber) (awaited : reply.awaiting = some submission)
      (cause : BackendError) (fails : action = .replyAnswered id submission (.error cause)) :
      Origin app moment action id { reply with awaiting := none }

/-- A reply that is there after an action was there before, with the same text, or is begun
without any. -/
theorem origin_of_update {app : App} {moment : Moment} {action : Action} {id : CommentId}
    {reply : OpenReply} (opened : (app.update moment action).1.view.openReply? id = some reply) :
    app.Origin moment action id reply := by
  rw [openReply?_update] at opened
  cases action with
  | arrived result =>
      cases result with
      | error cause => exact .kept reply opened
      | ok threads =>
          simp only [Option.ite_none_left_eq_some] at opened
          exact .kept reply opened.2
  | fold upper | unfold upper | toggleFold upper | discardReply upper =>
      simp only [Option.ite_none_left_eq_some] at opened
      exact .kept reply opened.2
  | toggleReply other =>
      by_cases here : id = other
      · simp only [if_pos here] at opened
        obtain ⟨node, fetched, toggled⟩ := Option.bind_eq_some_iff.mp opened
        cases folded : node.folded with
        | true =>
            rw [NodeState.toggleReply, if_pos folded] at toggled
            have writing := app.view.nodeOrFresh?_bind_openReply app.discussion id
            rw [fetched, Option.bind_some, toggled] at writing
            exact .kept reply writing.symm
        | false =>
            cases earlier : node.openReply with
            | some _ => simp [NodeState.toggleReply, folded, earlier] at toggled
            | none =>
                simp only [NodeState.toggleReply, folded, earlier, Bool.false_eq_true, if_false,
                  Option.some.injEq] at toggled
                have writing := app.view.nodeOrFresh?_bind_openReply app.discussion id
                rw [fetched, Option.bind_some, earlier] at writing
                exact toggled ▸ .begun node fetched writing.symm
      · simp only [if_neg here] at opened
        exact .kept reply opened
  | postReply other =>
      obtain ⟨earlier, before, rfl⟩ := Option.map_eq_some_iff.mp opened
      by_cases accepted : id = other ∧ app.Accepts moment earlier
      · rw [if_pos accepted]
        exact .locked earlier before (by rw [accepted.1]) accepted.2
      · rw [if_neg accepted]
        exact .kept earlier before
  | replyAnswered parent submission result =>
      obtain ⟨earlier, before, settled⟩ := Option.bind_eq_some_iff.mp opened
      by_cases heard : id = parent ∧ earlier.awaiting = some submission
      · rw [if_pos heard] at settled
        cases result with
        | ok answer => contradiction
        | error cause =>
            obtain rfl := Option.some.inj settled
            exact .unlocked earlier before submission heard.2 cause (by rw [heard.1])
      · rw [if_neg heard] at settled
        exact Option.some.inj settled ▸ .kept earlier before
  | refresh | vote _ _ | quit => exact .kept reply opened

/-- No action changes the text of a reply that stays under way. -/
theorem content_update {app : App} {moment : Moment} {action : Action} {id : CommentId}
    {earlier later : OpenReply} (opened : app.view.openReply? id = some earlier)
    (kept : (app.update moment action).1.view.openReply? id = some later) :
    later.content = earlier.content := by
  cases origin_of_update kept with
  | begun node fetched closed =>
      rw [opened] at closed
      contradiction
  | kept reply before => rw [Option.some.inj (before.symm.trans opened)]
  | locked reply before posts accepted => rw [Option.some.inj (before.symm.trans opened)]
  | unlocked reply before submission awaited cause fails =>
      rw [Option.some.inj (before.symm.trans opened)]

/-! ## Actions that concern a reply -/

/-- An action concerns the reply under way below a comment, and what becomes of the reply. -/
inductive Concerns (app : App) (moment : Moment) (id : CommentId) (reply : OpenReply) :
    Action → Option OpenReply → Prop where
  /-- The comment, or one above it, is folded. -/
  | folded (upper : CommentId) (covers : upper = id ∨ app.discussion.IsAbove upper id) :
      Concerns app moment id reply (.fold upper) none
  /-- The comment, or one above it, is folded because it was not. -/
  | toggledFold (upper : CommentId) (covers : upper = id ∨ app.discussion.IsAbove upper id)
      (unfolded : app.view.isFolded upper = false) :
      Concerns app moment id reply (.toggleFold upper) none
  | toggled : Concerns app moment id reply (.toggleReply id) none
  | discarded : Concerns app moment id reply (.discardReply id) none
  /-- Other comments arrive in place of all there are. -/
  | reloaded (threads : List Thread) (distinct : (Discussion.ids ⟨threads⟩).Nodup) :
      Concerns app moment id reply (.arrived (.ok threads)) none
  /-- The reply is locked, and nothing else about it changes. -/
  | submitted (accepted : app.Accepts moment reply) :
      Concerns app moment id reply (.postReply id)
        (some { reply with awaiting := some app.nextSubmission })
  /-- The submission that the reply awaits succeeds. -/
  | posted (submission : SubmissionNumber) (awaited : reply.awaiting = some submission)
      (answer : Json) : Concerns app moment id reply (.replyAnswered id submission (.ok answer)) none
  /-- The submission that the reply awaits fails: the reply is unlocked and keeps its text. -/
  | failed (submission : SubmissionNumber) (awaited : reply.awaiting = some submission)
      (cause : BackendError) :
      Concerns app moment id reply (.replyAnswered id submission (.error cause))
        (some { reply with awaiting := none })

variable {app : App} {moment : Moment} {id : CommentId} {reply : OpenReply} {action : Action}

/-- An action that concerns a reply changes it. -/
theorem Concerns.ne {outcome : Option OpenReply}
    (concerned : app.Concerns moment id reply action outcome) : outcome ≠ some reply := by
  intro same
  cases concerned with
  | submitted accepted =>
      have locked := congrArg OpenReply.awaiting (Option.some.inj same)
      rw [accepted.1] at locked
      contradiction
  | failed submission awaited cause =>
      have unlocked := congrArg OpenReply.awaiting (Option.some.inj same)
      rw [awaited] at unlocked
      contradiction
  | _ => contradiction

/-- What becomes of a reply that an action concerns. -/
theorem openReply?_update_of_concerns (ordered : app.WellFormed)
    (opened : app.view.openReply? id = some reply) {outcome : Option OpenReply}
    (concerned : app.Concerns moment id reply action outcome) :
    (app.update moment action).1.view.openReply? id = outcome := by
  rw [openReply?_update]
  cases concerned with
  | folded upper covers =>
      have covered : id = upper ∨ id ∈ app.discussion.descendants upper := by
        rw [Discussion.mem_descendants_iff ordered.distinct]
        exact covers.imp_left Eq.symm
      exact if_pos covered
  | toggledFold upper covers unfolded =>
      have covered : id = upper ∨
          ¬app.view.isFolded upper ∧ id ∈ app.discussion.descendants upper := by
        rw [Discussion.mem_descendants_iff ordered.distinct, unfolded]
        exact covers.imp Eq.symm fun above => ⟨by simp, above⟩
      exact if_pos covered
  | toggled =>
      obtain ⟨node, mounted, writing⟩ := Option.bind_eq_some_iff.mp opened
      have unfolded := ordered.view.not_folded opened
      simp only [View.isFolded, mounted, Option.any_some] at unfolded
      simp [View.nodeOrFresh?, mounted, NodeState.toggleReply, unfolded, writing]
  | discarded => exact if_pos rfl
  | reloaded threads distinct => exact if_pos distinct
  | submitted accepted => simp [opened, accepted]
  | posted submission awaited answer => simp [opened, awaited, settle]
  | failed submission awaited cause => simp [opened, awaited, settle]

/-- A reply that an action does not concern is as it was. -/
theorem openReply?_update_of_not_concerns (ordered : app.WellFormed)
    (opened : app.view.openReply? id = some reply)
    (spared : ∀ outcome, ¬app.Concerns moment id reply action outcome) :
    (app.update moment action).1.view.openReply? id = some reply := by
  rw [openReply?_update, opened]
  cases action with
  | refresh => rfl
  | quit => rfl
  | vote other vote => rfl
  | arrived result =>
      cases result with
      | error cause => rfl
      | ok threads => exact if_neg fun distinct => spared none (.reloaded threads distinct)
  | fold upper =>
      have uncovered : ¬(id = upper ∨ id ∈ app.discussion.descendants upper) := by
        rw [Discussion.mem_descendants_iff ordered.distinct]
        intro covered
        exact spared none (.folded upper (covered.imp_left Eq.symm))
      exact if_neg uncovered
  | unfold upper =>
      have unfolded := ordered.view.not_folded opened
      have apart : ¬(id = upper ∧ app.view.isFolded upper) := by
        rintro ⟨rfl, folded⟩
        rw [unfolded] at folded
        contradiction
      exact if_neg apart
  | toggleFold upper =>
      have unfolded := ordered.view.not_folded opened
      have uncovered : ¬(id = upper ∨
          ¬app.view.isFolded upper ∧ id ∈ app.discussion.descendants upper) := by
        rw [Discussion.mem_descendants_iff ordered.distinct]
        rintro (rfl | ⟨covering, above⟩)
        · exact spared none (.toggledFold id (.inl rfl) unfolded)
        · exact spared none (.toggledFold upper (.inr above) (by simpa using covering))
      exact if_neg uncovered
  | toggleReply other =>
      have apart : id ≠ other := by
        rintro rfl
        exact spared none .toggled
      exact if_neg apart
  | discardReply other =>
      have apart : id ≠ other := by
        rintro rfl
        exact spared none .discarded
      exact if_neg apart
  | postReply other =>
      have unlocked : ¬(id = other ∧ app.Accepts moment reply) := by
        rintro ⟨rfl, accepted⟩
        exact spared _ (.submitted accepted)
      simp [unlocked]
  | replyAnswered parent submission result =>
      have unheard : ¬(id = parent ∧ reply.awaiting = some submission) := by
        rintro ⟨rfl, awaited⟩
        cases result with
        | ok answer => exact spared none (.posted submission awaited answer)
        | error cause => exact spared _ (.failed submission awaited cause)
      simp [unheard]

/-- Below a comment without a reply, an action begins none, or one that is neither written nor
locked. -/
theorem openReply?_update_of_closed (ordered : app.WellFormed)
    (closed : app.view.openReply? id = none) :
    (app.update moment action).1.view.openReply? id = none ∨
      (app.update moment action).1.view.openReply? id = some { parent := id } := by
  rw [openReply?_update, closed]
  cases action with
  | toggleReply other =>
      by_cases here : id = other
      · subst here
        simp only [if_true]
        cases fetched : app.view.nodeOrFresh? app.discussion id with
        | none => exact .inl rfl
        | some node =>
            have own := (ordered.view.fetched fetched).2.own
            have unwritten := app.view.nodeOrFresh?_bind_openReply app.discussion id
            rw [fetched, closed, Option.bind_some] at unwritten
            cases folded : node.folded with
            | true => simp [NodeState.toggleReply, folded, unwritten]
            | false => simp [NodeState.toggleReply, folded, unwritten, own]
      · exact .inl (if_neg here)
  | arrived result =>
      cases result with
      | error cause => exact .inl rfl
      | ok threads => simp
  | _ => simp

/-- A reply under way is after an action as it was before, with the same text and the same
submission awaited, exactly if the action does not concern it; if it does, the reply is closed,
locked or unlocked as the action says. An answer that the reply below its comment does not await
leaves the whole view as it was. -/
theorem openReply?_update_eq_iff (reachable : Reachable app)
    (opened : app.view.openReply? id = some reply) (moment : Moment) (action : Action) :
    ((app.update moment action).1.view.openReply? id = some reply ↔
        ∀ outcome, ¬app.Concerns moment id reply action outcome) ∧
      (∀ outcome, app.Concerns moment id reply action outcome →
        (app.update moment action).1.view.openReply? id = outcome) ∧
      ∀ parent submission result,
        (∀ other, app.view.openReply? parent = some other → other.awaiting ≠ some submission) →
          (app.update moment (.replyAnswered parent submission result)).1.view = app.view := by
  have ordered := reachable.wellFormed
  refine ⟨⟨?_, openReply?_update_of_not_concerns ordered opened⟩,
    fun outcome => openReply?_update_of_concerns ordered opened,
    fun parent submission result stale => view_takeAnswer_of_stale stale moment result⟩
  intro kept outcome concerned
  have changed := openReply?_update_of_concerns ordered opened concerned
  exact concerned.ne (changed.symm.trans kept)

/-- A reply is posted and given up, and another one is begun in its place. -/
def redraft : List Event :=
  [.acted {} (.toggleReply 12), .typed 12 "first", .acted {} (.postReply 12),
    .acted {} (.discardReply 12), .acted {} (.toggleReply 12), .typed 12 "second"]

/-- The answer to a submission that was given up leaves a later draft alone. -/
theorem draft_after_stale_answer :
    Reachable (sample.run redraft) ∧
      (sample.run redraft).view.openReply? 12 = some ⟨12, "second", none⟩ ∧
      ((sample.run redraft).update {} (.replyAnswered 12 1 (.ok .null))).1.view.openReply? 12 =
          some ⟨12, "second", none⟩ := by
  have reachable : Reachable (sample.run redraft) := ⟨sample, _, starts_sample, rfl⟩
  have opened : (sample.run redraft).view.openReply? 12 = some ⟨12, "second", none⟩ := by
    decide +kernel
  refine ⟨reachable, opened, ?_⟩
  apply (openReply?_update_eq_iff reachable opened {} _).1.mpr
  intro outcome concerned
  cases concerned with
  | posted submission awaited answer => contradiction

end Colloquy.App
