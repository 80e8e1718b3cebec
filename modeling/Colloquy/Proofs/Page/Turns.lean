import Colloquy.Page.Page
import Colloquy.Proofs.App.Drafts
import Colloquy.Proofs.Page.Draft

/-!
# What a turn does

Everything an event can do to the application and to the carets: nothing at all, one action, or a
change of the one draft that has the keyboard. Submitting and discarding a draft are actions, too,
but they also touch its caret.
-/

namespace Colloquy.Page

/-! ## Carets -/

variable (page : Page) (app : App) (id other : CommentId)

theorem carets_selecting (selected : Option CommentId) :
    (page.selecting selected).carets = page.carets :=
  rfl

theorem caret?_of_carets {page next : Page} (carets : next.carets = page.carets) (id : CommentId) :
    next.caret? id = page.caret? id := by
  rw [caret?, caret?, carets]

theorem caret?_setCaret (caret : Nat) :
    (page.setCaret id caret).caret? other =
      if other = id then some caret else page.caret? other := by
  by_cases here : other = id
  · simp [setCaret, caret?, here]
  · have differs : (other == id) = false := by simpa using here
    simp [setCaret, caret?, here, List.lookup_cons, differs, View.lookup_filter_key (fun key => key != id)]

theorem caret?_dropCaret :
    (page.dropCaret id).caret? other = if other = id then none else page.caret? other := by
  by_cases here : other = id
  · simp [dropCaret, caret?, here, View.lookup_filter_key (fun key => key != id)]
  · simp [dropCaret, caret?, here, View.lookup_filter_key (fun key => key != id)]

theorem caret?_sync :
    (page.sync app).caret? id =
      if (app.view.openReply? id).isSome then page.caret? id else none :=
  View.lookup_filter_key (fun key => (app.view.openReply? key).isSome) id page.carets

/-! ## Turns -/

/-- The draft of a reply that has the keyboard. A caret that is not known stands at the end. -/
def draft (reply : OpenReply) : Draft :=
  ⟨reply.content, (page.caret? id).getD (Text.byteLength reply.content.toList)⟩

/-- What an event can make of the application and of the carets, and what has to be done then. -/
inductive Reacts (page : Page) (app : App) (moment : Moment) (event : InputEvent) : Turn → Prop where
  | rested (next : Page) (carets : next.carets = page.carets) :
      Reacts page app moment event ⟨app, next, .ok .none⟩
  /-- An action happens that is no answer. -/
  | acted (next : Page) (carets : next.carets = page.carets) (action : Action)
      (unanswered : ∀ parent submission result, action ≠ .replyAnswered parent submission result) :
      Reacts page app moment event
        ⟨(app.update moment action).1, next, (app.update moment action).2⟩
  /-- The draft that has the keyboard takes the event. -/
  | drafted (next : Page) (id : CommentId) (reply : OpenReply) (outcome : Except Fault Effect)
      (focused : page.mode = .compose id) (opened : app.view.openReply? id = some reply)
      (carets : ∀ other, next.caret? other =
        if other = id then some ((page.draft id reply).handle reply.isPosting event).1.caret
        else page.caret? other)
      (quiet : outcome = ((page.draft id reply).handle reply.isPosting event).2.map fun _ => .none) :
      Reacts page app moment event
        ⟨{ app with view := app.view.setOpenReply id { reply with
            content := ((page.draft id reply).handle reply.isPosting event).1.content } },
          next, outcome⟩
  /-- The draft that has the keyboard is submitted. -/
  | submitted (next : Page) (id : CommentId) (reply : OpenReply)
      (focused : page.mode = .compose id) (opened : app.view.openReply? id = some reply)
      (carets : ∀ other, next.caret? other =
        if other = id then some (page.draft id reply).clamp.caret else page.caret? other) :
      Reacts page app moment event
        ⟨(app.update moment (.postReply id)).1, next, (app.update moment (.postReply id)).2⟩
  /-- The draft that has the keyboard is discarded. -/
  | discarded (next : Page) (id : CommentId)
      (carets : ∀ other, other ≠ id → next.caret? other = page.caret? other) :
      Reacts page app moment event
        ⟨(app.update moment (.discardReply id)).1, next, (app.update moment (.discardReply id)).2⟩

variable {page app id} {moment : Moment} {event : InputEvent}

theorem reacts_toggleReply (next : Page) (carets : next.carets = page.carets) (id : CommentId) :
    page.Reacts app moment event (next.toggleReply app moment id) := by
  simp only [toggleReply]
  split
  · exact .acted { next with mode := .compose id } carets (.toggleReply id) nofun
  · exact .acted next carets (.toggleReply id) nofun

theorem reacts_click (column row : Nat) :
    page.Reacts app moment event (page.click app moment column row) := by
  unfold click
  split
  · exact .rested page rfl
  · exact .acted page rfl (.fold _) nofun
  · exact .acted (page.selecting _) (page.carets_selecting _) (.unfold _) nofun
  · exact .acted page rfl (.vote _ _) nofun
  · exact reacts_toggleReply (page.selecting _) (page.carets_selecting _) _
  · exact .rested _ rfl
  · exact .rested _ rfl

theorem reacts_onSelected {turn : CommentId → Turn}
    (reacts : ∀ id, page.Reacts app moment event (turn id)) :
    page.Reacts app moment event (page.onSelected app turn) := by
  cases selected : page.pane.selected with
  | none => simpa [onSelected, selected] using .rested page rfl
  | some id => simpa [onSelected, selected] using reacts id

theorem reacts_browse (key : InputEvent) :
    page.Reacts app moment event (page.browse app moment key) := by
  unfold browse
  split
  · exact .rested _ rfl
  · exact .rested _ rfl
  · exact .rested _ rfl
  · exact .rested _ rfl
  · exact .rested _ rfl
  · exact .acted page rfl .quit nofun
  · exact reacts_onSelected fun id => .acted page rfl (.toggleFold id) nofun
  · exact reacts_onSelected fun id => .acted page rfl (.toggleFold id) nofun
  · exact reacts_onSelected fun id => reacts_toggleReply page rfl id
  · exact reacts_onSelected fun id => .acted page rfl (.vote id .up) nofun
  · exact reacts_onSelected fun id => .acted page rfl (.vote id .down) nofun
  · refine reacts_onSelected fun id => ?_
    split
    · exact .rested _ rfl
    · exact .rested _ rfl
  · exact .rested _ rfl

/-- Text that is put in its own place changes nothing. -/
theorem setOpenReply_content {app : App} {reply : OpenReply}
    (opened : app.view.openReply? id = some reply) :
    { app with view := app.view.setOpenReply id { reply with content := reply.content } } = app := by
  rw [app.view.setOpenReply_of_openReply? id opened]

theorem reacts_compose (focused : page.mode = .compose id) :
    page.Reacts app moment event (page.compose app moment id event) := by
  cases opened : app.view.openReply? id with
  | none => simpa [compose, opened] using .rested { page with mode := .browse } rfl
  | some reply =>
      have named : (⟨reply.content, (page.caret? id).getD
          (Text.byteLength reply.content.toList)⟩ : Draft) = page.draft id reply := rfl
      have known (next : Page) (carets : next.carets = (page.setCaret id
          ((page.draft id reply).handle reply.isPosting event).1.caret).carets) :=
        @Reacts.drafted page app moment event next id reply _ focused opened
          (fun other => (caret?_of_carets carets other).trans (page.caret?_setCaret id other _)) rfl
      have leaves : _ → ((page.draft id reply).handle reply.isPosting event).1 = _ :=
        Draft.handle_eq_clamp
      simp only [compose, opened, named]
      cases handled : (page.draft id reply).handle reply.isPosting event with
      | mk edited outcome =>
          rw [handled] at known leaves
          match outcome with
          | .error fault => exact known _ rfl
          | .ok (some .blur) => exact known _ rfl
          | .ok (some .edited) => exact known _ rfl
          | .ok none => exact known _ rfl
          | .ok (some .submit) =>
              obtain rfl : edited = _ := leaves (.inl rfl)
              have same : (page.draft id reply).clamp.content = reply.content := rfl
              simp only [act, same, setOpenReply_content opened]
              exact .submitted _ id reply focused opened (page.caret?_setCaret id · _)
          | .ok (some .cancel) =>
              obtain rfl : edited = _ := leaves (.inr rfl)
              have same : (page.draft id reply).clamp.content = reply.content := rfl
              simp only [act, same, setOpenReply_content opened]
              refine .discarded _ id fun other apart => ?_
              rw [caret?_dropCaret, if_neg apart]
              exact (page.caret?_setCaret id other _).trans (if_neg apart)

/-- Every event makes of the application and the carets one of these things. -/
theorem reacts_handle (page : Page) (app : App) (moment : Moment) (event : InputEvent) :
    page.Reacts app moment event (page.handle app moment event) := by
  unfold handle
  split
  · exact .rested page rfl
  · exact .acted page rfl .quit nofun
  · exact .rested _ rfl
  · exact .rested _ rfl
  · exact .rested _ rfl
  · exact .rested _ rfl
  · exact reacts_click _ _
  · cases focused : page.mode with
    | browse => exact reacts_browse event
    | compose id => exact reacts_compose focused

end Colloquy.Page
