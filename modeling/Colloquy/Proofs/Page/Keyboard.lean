import Colloquy.Proofs.Page.Carets

/-!
# Where keys go

Two events leave the program, and one of them does so only while browsing. While a reply has the
keyboard, a key that is typed into it changes the text and the caret of that reply and nothing else,
and only the caret if the reply is being posted. While browsing, no text changes at all.
-/

namespace Colloquy

/-- A key that goes into the reply that has the keyboard: none that submits it, discards it or leaves
it, nothing that scrolls or is clicked, and neither leaving nor a change of the screen's size. -/
def InputEvent.isTyped : InputEvent → Bool
  | .submit | .escape | .tab | .leave | .resize => false
  | .scrollUp | .scrollDown | .pageUp | .pageDown | .click _ _ => false
  | _ => true

/-- A typed key edits a draft, unless the draft is locked. -/
theorem Draft.handle_of_isTyped {event : InputEvent} (typed : event.isTyped = true) (draft : Draft)
    (locked : Bool) :
    draft.handle locked event = if locked then (draft.clamp, .ok none) else draft.clamp.edit event := by
  cases event with
  | submit | escape | tab | leave | resize => contradiction
  | scrollUp | scrollDown | pageUp | pageDown | click _ _ => contradiction
  | _ => rfl

/-- A typed key neither submits a draft nor discards it nor leaves it. -/
theorem Draft.outcome_of_isTyped {event : InputEvent} (typed : event.isTyped = true) (draft : Draft)
    (locked : Bool) {next : DraftEvent} (outcome : (draft.handle locked event).2 = .ok (some next)) :
    next = .edited := by
  rw [handle_of_isTyped typed] at outcome
  cases locked with
  | true => simp at outcome
  | false =>
      simp only [Bool.false_eq_true, if_false, edit] at outcome
      split at outcome
      · split at outcome
        · simpa [eq_comm] using outcome
        · simp at outcome
      · simp at outcome

/-- No vote would take a score beyond 64 bits. -/
def App.VotesFit (app : App) : Prop :=
  ∀ id node, app.view.nodeOrFresh? app.discussion id = some node →
    node.score ≠ Int64.maxValue ∧ node.score ≠ Int64.minValue

namespace App

variable {app : App} {moment : Moment} {action : Action}

/-- Votes fit where no score that is shown is the least or the greatest one. -/
theorem votesFit_of_forall
    (mounted : ∀ entry ∈ app.view.nodes,
      entry.2.score ≠ Int64.maxValue ∧ entry.2.score ≠ Int64.minValue)
    (received : ∀ comment ∈ app.discussion.comments,
      comment.score ≠ Int64.maxValue ∧ comment.score ≠ Int64.minValue) : app.VotesFit := by
  intro id node fetched
  cases known : app.view.node? id with
  | some kept =>
      obtain rfl : kept = node := by simpa [View.nodeOrFresh?, known] using fetched
      exact mounted (id, kept) (View.node?_eq_some_iff.mp known)
  | none =>
      simp only [View.nodeOrFresh?, known, Option.orElse_none, Option.map_eq_some_iff] at fetched
      obtain ⟨thread, found, rfl⟩ := fetched
      obtain ⟨-, depth, visited⟩ := Discussion.visited_of_find? found
      refine received thread.comment ?_
      rw [Discussion.comments, Discussion.walk, List.map_map]
      exact List.mem_map_of_mem visited

/-- Where votes fit, every action yields an effect. -/
theorem VotesFit.update (fit : app.VotesFit) (moment : Moment) (action : Action) :
    ∃ effect, (app.update moment action).2 = .ok effect := by
  cases action with
  | vote id vote =>
      cases fetched : app.view.nodeOrFresh? app.discussion id with
      | none => exact ⟨.none, by simp [App.update, View.vote, fetched, Except.map]⟩
      | some node =>
          obtain ⟨below, above⟩ := fit id node fetched
          cases vote with
          | up => exact ⟨.none, by simp [App.update, View.vote, fetched, Vote.cast?, below, Except.map]⟩
          | down => exact ⟨.none, by simp [App.update, View.vote, fetched, Vote.cast?, above, Except.map]⟩
  | _ => exact ⟨_, rfl⟩

/-- Only one action leaves the program. -/
theorem update_eq_quit_iff : (app.update moment action).2 = .ok .quit ↔ action = .quit := by
  cases action with
  | quit => exact ⟨fun _ => rfl, fun _ => rfl⟩
  | vote id vote =>
      have silent : (app.update moment (.vote id vote)).2 =
          (app.view.vote app.discussion id vote).2.map fun _ => .none := rfl
      rw [silent]
      cases (app.view.vote app.discussion id vote).2 with
      | error fault => simp [Except.map]
      | ok score => simp [Except.map]
  | postReply id =>
      have sent : (app.update moment (.postReply id)).2 = .ok (app.submit moment id).2 := rfl
      rw [sent]
      rcases app.submit_cases moment id with ⟨reply, bearer, -, -, submitted⟩ | ⟨-, notices, refused⟩
      · simp [submitted]
      · simp [refused]
  | _ => simp [update]

end App

namespace Page

variable {page : Page} {app : App} {moment : Moment}

/-! ## Leaving -/

theorem not_quit_rest : (page.rest app).outcome ≠ .ok .quit := nofun

theorem quit_act_iff {action : Action} :
    (page.act app moment action).outcome = .ok .quit ↔ action = .quit :=
  App.update_eq_quit_iff

theorem not_quit_act {action : Action} (stays : action ≠ .quit) :
    (page.act app moment action).outcome ≠ .ok .quit :=
  fun quits => stays (quit_act_iff.mp quits)

theorem not_quit_toggleReply (id : CommentId) :
    (page.toggleReply app moment id).outcome ≠ .ok .quit := by
  have toggled : (page.act app moment (.toggleReply id)).outcome ≠ .ok .quit := not_quit_act nofun
  simp only [toggleReply]
  split
  · exact toggled
  · exact toggled

theorem not_quit_onSelected {turn : CommentId → Turn}
    (stays : ∀ id, (turn id).outcome ≠ .ok .quit) :
    (page.onSelected app turn).outcome ≠ .ok .quit := by
  unfold onSelected
  split
  · exact stays _
  · exact not_quit_rest

theorem not_quit_click (column row : Nat) :
    (page.click app moment column row).outcome ≠ .ok .quit := by
  unfold click
  split
  · exact not_quit_rest
  · exact not_quit_act nofun
  · exact not_quit_act nofun
  · exact not_quit_act nofun
  · exact not_quit_toggleReply _
  · exact not_quit_rest
  · exact not_quit_rest

/-- While browsing, one key leaves the program. -/
theorem quit_browse_iff {event : InputEvent} :
    (page.browse app moment event).outcome = .ok .quit ↔ event = .char 'q' := by
  unfold browse
  split
  · exact iff_of_false not_quit_rest nofun
  · exact iff_of_false not_quit_rest (by decide)
  · exact iff_of_false not_quit_rest nofun
  · exact iff_of_false not_quit_rest (by decide)
  · exact iff_of_false not_quit_rest nofun
  · exact iff_of_true rfl rfl
  · exact iff_of_false (not_quit_onSelected fun _ => not_quit_act nofun) nofun
  · exact iff_of_false (not_quit_onSelected fun _ => not_quit_act nofun) (by decide)
  · exact iff_of_false (not_quit_onSelected fun _ => not_quit_toggleReply _) (by decide)
  · exact iff_of_false (not_quit_onSelected fun _ => not_quit_act nofun) (by decide)
  · exact iff_of_false (not_quit_onSelected fun _ => not_quit_act nofun) (by decide)
  · refine iff_of_false (not_quit_onSelected fun id => ?_) nofun
    split
    · exact not_quit_rest
    · exact not_quit_rest
  · exact iff_of_false not_quit_rest (by assumption)

/-- A reply that has the keyboard keeps every key from leaving the program. -/
theorem not_quit_compose (id : CommentId) (event : InputEvent) :
    (page.compose app moment id event).outcome ≠ .ok .quit := by
  unfold compose
  split
  · exact not_quit_rest
  · simp only
    split
    · nofun
    · exact not_quit_act nofun
    · exact not_quit_act nofun
    · exact not_quit_rest
    · exact not_quit_rest
    · exact not_quit_rest

theorem quit_handle_iff {event : InputEvent} :
    (page.handle app moment event).outcome = .ok .quit ↔
      event = .leave ∨ event = .char 'q' ∧ page.mode = .browse := by
  unfold handle
  split
  · exact iff_of_false not_quit_rest (by simp)
  · exact iff_of_true rfl (.inl rfl)
  · exact iff_of_false not_quit_rest (by simp)
  · exact iff_of_false not_quit_rest (by simp)
  · exact iff_of_false not_quit_rest (by simp)
  · exact iff_of_false not_quit_rest (by simp)
  · exact iff_of_false (not_quit_click _ _) (by simp)
  · have apart : event ≠ .leave := by assumption
    cases focused : page.mode with
    | browse =>
        have quits : (page.browse app moment event).outcome = .ok .quit ↔ _ := quit_browse_iff
        simpa [apart] using quits
    | compose id =>
        have stays : (page.compose app moment id event).outcome ≠ .ok .quit :=
          not_quit_compose id event
        simpa [apart] using stays

/-! ## Faults -/

/-- The caret of every reply under way that is kept, brought back from beyond the end, stands between
two characters of the text. -/
def CaretsInText (page : Page) (app : App) : Prop :=
  ∀ id reply caret, app.view.openReply? id = some reply → page.caret? id = some caret →
    Text.IsBoundary reply.content.toList (min caret (Text.byteLength reply.content.toList))

theorem CaretsInText.inText (inside : page.CaretsInText app) {id : CommentId} {reply : OpenReply}
    (opened : app.view.openReply? id = some reply) : (page.draft id reply).clamp.InText := by
  cases known : page.caret? id with
  | some caret => simpa [Draft.InText, draft, Draft.clamp, Draft.size, known] using inside id reply caret opened known
  | none =>
      have final := Text.isBoundary_byteLength reply.content.toList
      simpa [Draft.InText, draft, Draft.clamp, Draft.size, known] using final

/-- No event stops the program where votes fit and carets stand in their texts. -/
theorem exists_effect (inside : page.CaretsInText app) (fit : app.VotesFit) (moment : Moment)
    (event : InputEvent) : ∃ effect, (page.handle app moment event).outcome = .ok effect := by
  generalize turned : page.handle app moment event = turn
  have reacts := turned ▸ page.reacts_handle app moment event
  cases reacts with
  | rested next carets => exact ⟨.none, rfl⟩
  | acted next carets action unanswered => exact fit.update moment action
  | drafted next focus draft outcome focused editing carets quiet =>
      obtain ⟨edited, result, handled, -⟩ :=
        (inside.inText editing).handle draft.isPosting event
      rw [handled] at quiet
      exact ⟨.none, quiet⟩
  | submitted next focus draft focused editing carets => exact fit.update moment _
  | discarded next focus carets => exact fit.update moment _

/-! ## Typing -/

/-- A turn changes nothing but the text and the caret of the reply below one comment. -/
structure TypesInto (page : Page) (app : App) (id : CommentId) (turn : Turn) : Prop where
  appElse : turn.app = { app with view := turn.app.view }
  pageElse : turn.page = { page with carets := turn.page.carets }
  others : ∀ other, other ≠ id → turn.app.view.node? other = app.view.node? other
  own : ∃ content, turn.app.view.node? id = (app.view.node? id).map fun node =>
    { node with openReply := node.openReply.map fun reply => { reply with content } }
  carets : ∀ other, other ≠ id → turn.page.caret? other = page.caret? other

variable {id : CommentId} {reply : OpenReply} {event : InputEvent}

/-- A key that is typed changes the draft, and the draft is kept. -/
theorem handle_of_isTyped (focused : page.mode = .compose id)
    (opened : app.view.openReply? id = some reply) (typed : event.isTyped = true) :
    page.handle app moment event =
      ⟨{ app with view := app.view.setOpenReply id { reply with
          content := ((page.draft id reply).handle reply.isPosting event).1.content } },
        page.setCaret id ((page.draft id reply).handle reply.isPosting event).1.caret,
        ((page.draft id reply).handle reply.isPosting event).2.map fun _ => .none⟩ := by
  have entered : page.handle app moment event = page.compose app moment id event := by
    cases event with
    | submit | escape | tab | leave | resize => contradiction
    | scrollUp | scrollDown | pageUp | pageDown | click _ _ => contradiction
    | _ => simp [handle, focused]
  have quiet (next : DraftEvent) := @Draft.outcome_of_isTyped event typed (page.draft id reply)
    reply.isPosting next
  have named : (⟨reply.content, (page.caret? id).getD (Text.byteLength reply.content.toList)⟩ :
      Draft) = page.draft id reply := rfl
  rw [entered]
  simp only [compose, opened, named]
  cases handled : (page.draft id reply).handle reply.isPosting event with
  | mk edited outcome =>
      rw [handled] at quiet
      rcases outcome with fault | _ | next
      · rfl
      · rfl
      · obtain rfl := quiet next rfl
        rfl

/-- Text that is put in place of that of a reply shows at its comment only. -/
theorem node?_setOpenReply_content {view : View} (opened : view.openReply? id = some reply)
    (content : String) (other : CommentId) :
    (view.setOpenReply id { reply with content }).node? other =
      if other = id then (view.node? id).map fun node =>
        { node with openReply := node.openReply.map fun reply => { reply with content } }
      else view.node? other := by
  obtain ⟨node, mounted, writing⟩ := Option.bind_eq_some_iff.mp opened
  simp [View.node?_setOpenReply, mounted, writing]

theorem typesInto_handle (focused : page.mode = .compose id)
    (opened : app.view.openReply? id = some reply) (typed : event.isTyped = true) :
    page.TypesInto app id (page.handle app moment event) := by
  rw [handle_of_isTyped focused opened typed]
  refine ⟨rfl, rfl, fun other apart => ?_,
    ⟨((page.draft id reply).handle reply.isPosting event).1.content, ?_⟩, fun other apart => ?_⟩
  · rw [node?_setOpenReply_content opened, if_neg apart]
  · rw [node?_setOpenReply_content opened, if_pos rfl]
  · exact (page.caret?_setCaret id other _).trans (if_neg apart)

/-- While a reply is being posted, a typed key only brings its caret back from beyond the end. -/
theorem handle_of_isPosting (focused : page.mode = .compose id)
    (opened : app.view.openReply? id = some reply) (typed : event.isTyped = true)
    (posting : reply.isPosting = true) :
    page.handle app moment event = (page.setCaret id (page.draft id reply).clamp.caret).rest app := by
  have clamped := Draft.handle_of_isTyped typed (page.draft id reply) true
  have same : (page.draft id reply).clamp.content = reply.content := rfl
  rw [handle_of_isTyped focused opened typed, posting, clamped, if_pos rfl, same,
    setOpenReply_content opened]
  rfl

/-- While browsing, no reply that stays under way changes its text. -/
theorem content_of_browse (browsing : page.mode = .browse) {earlier later : OpenReply}
    (opened : app.view.openReply? id = some earlier)
    (kept : (page.handle app moment event).app.view.openReply? id = some later) :
    later.content = earlier.content := by
  generalize turned : page.handle app moment event = turn at kept
  have reacts := turned ▸ page.reacts_handle app moment event
  cases reacts with
  | rested next carets => rw [Option.some.inj (kept.symm.trans opened)]
  | acted next carets action unanswered => exact App.content_update opened kept
  | drafted next focus draft outcome focused editing carets quiet =>
      rw [browsing] at focused
      contradiction
  | submitted next focus draft focused editing carets => exact App.content_update opened kept
  | discarded next focus carets => exact App.content_update opened kept

/-- Where votes fit and carets stand in their texts, no event stops the program. It is left by one
event in every mode, and by one more while browsing. While a reply has the keyboard, a key that is
typed into it changes nothing but its text and its caret; if the reply is being posted, the text
stays, and the caret is brought back from beyond the end, or put there if it was not known. While
browsing, no reply that stays under way changes its text. -/
theorem handle_routes (inside : page.CaretsInText app) (fit : app.VotesFit) (moment : Moment)
    (event : InputEvent) :
    (∃ effect, (page.handle app moment event).outcome = .ok effect ∧
        (effect = .quit ↔ event = .leave ∨ event = .char 'q' ∧ page.mode = .browse)) ∧
      (∀ id reply, page.mode = .compose id → app.view.openReply? id = some reply →
        event.isTyped = true → page.TypesInto app id (page.handle app moment event) ∧
          (reply.isPosting = true → (page.handle app moment event).app = app ∧
            (page.handle app moment event).page.caret? id =
              some (min ((page.caret? id).getD (Text.byteLength reply.content.toList))
                (Text.byteLength reply.content.toList)))) ∧
      (page.mode = .browse → ∀ id earlier later, app.view.openReply? id = some earlier →
        (page.handle app moment event).app.view.openReply? id = some later →
          later.content = earlier.content) := by
  refine ⟨?_, fun id reply focused opened typed => ⟨typesInto_handle focused opened typed, ?_⟩,
    fun browsing id earlier later opened kept => content_of_browse browsing opened kept⟩
  · obtain ⟨effect, returned⟩ := exists_effect inside fit moment event
    refine ⟨effect, returned, ?_⟩
    have quits : (page.handle app moment event).outcome = .ok .quit ↔ _ := quit_handle_iff
    rw [← quits, returned, Except.ok.injEq]
  · intro posting
    rw [handle_of_isPosting focused opened typed posting]
    exact ⟨rfl, (page.caret?_setCaret id id _).trans (if_pos rfl)⟩

end Page

namespace Terminal

/-- Where replies are tracked, their carets stand in their texts. -/
theorem Tracked.caretsInText {app : App} {page : Page} (tracked : Tracked ⟨app, page⟩) :
    page.CaretsInText app := by
  intro id reply caret opened known
  have boundary := (tracked id reply opened).boundary
  rwa [Page.caretIn, known, Option.getD_some] at boundary

/-- A reply is being posted and still has the keyboard. -/
def posting : Terminal :=
  (⟨remark, {}⟩ : Terminal).run [.drawn 24 8 0, .handled {} (.char 'r'),
    .handled {} (.paste "Schön"), .handled {} .left, .handled {} .submit]

theorem handle_posting :
    posting.page.CaretsInText posting.app ∧ posting.app.VotesFit ∧
      posting.page.mode = .compose 7 ∧
      posting.app.view.openReply? 7 = some ⟨7, "Schön", some 1⟩ ∧
      (∃ effect, (posting.page.handle posting.app {} (.char 'q')).outcome = .ok effect ∧
        effect ≠ .quit) ∧
      (posting.page.handle posting.app {} (.char 'q')).app = posting.app ∧
      (posting.page.handle posting.app {} (.char 'q')).page.caret? 7 = some 5 := by
  have tracked : posting.Tracked :=
    run_keeps (fun _ occurrence tracked => tracked.after occurrence)
      (tracked_of_closed fun _ => rfl) _
  have fit : posting.app.VotesFit :=
    App.votesFit_of_forall (by decide +kernel) (by decide +kernel)
  have focused : posting.page.mode = .compose 7 := by decide +kernel
  have opened : posting.app.view.openReply? 7 = some ⟨7, "Schön", some 1⟩ := by decide +kernel
  have caret : posting.page.caret? 7 = some 5 := by decide +kernel
  have inside : posting.page.CaretsInText posting.app :=
    @Tracked.caretsInText posting.app posting.page tracked
  obtain ⟨⟨effect, returned, quits⟩, typing, -⟩ :=
    @Page.handle_routes posting.page posting.app inside fit {} (.char 'q')
  obtain ⟨-, frozen⟩ := typing 7 _ focused opened rfl
  obtain ⟨same, kept⟩ := frozen rfl
  refine ⟨inside, fit, focused, opened, ⟨effect, returned, fun left => ?_⟩, same, ?_⟩
  · have browsing := quits.mp left
    simp [focused] at browsing
  · rw [kept, caret]
    decide

end Terminal

end Colloquy
