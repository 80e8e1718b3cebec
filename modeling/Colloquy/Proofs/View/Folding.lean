import Colloquy.Proofs.View.Marks
import Colloquy.Proofs.View.Rows
import Colloquy.Proofs.View.WellFormed

/-!
# Folding and unfolding

What is done to a comment and below it shows in one block of the rows only: that of the thread which
the comment starts. Folding the comment leaves a single row of the block. Unfolding it brings back
everything below, as it was received. Where a comment further up is folded there is no such block,
and no row changes.
-/

namespace Colloquy

namespace View

variable {view next : View} {discussion : Discussion} {id : CommentId}

/-! ## Rows outside a thread -/

/-- The rows of those of some comments that are shown. -/
def shownRows (view : View) (lineages : List Lineage) : List Row :=
  (lineages.filter (Lineage.isShown view)).flatMap (Lineage.rows view)

theorem shownRows_append (view : View) (front back : List Lineage) :
    view.shownRows (front ++ back) = view.shownRows front ++ view.shownRows back := by
  simp [shownRows]

theorem exists_lineage_of_mem_shownRows {lineages : List Lineage} {row : Row}
    (member : row ∈ view.shownRows lineages) :
    ∃ lineage ∈ lineages, row.comment = lineage.comment := by
  obtain ⟨lineage, shown, own⟩ := List.mem_flatMap.mp member
  obtain ⟨kind, -, rfl⟩ := List.mem_map.mp own
  exact ⟨lineage, (List.mem_filter.mp shown).1, rfl⟩

/-- Comments have the same rows in two views that agree on them and on all comments above them. -/
theorem shownRows_congr {lineages : List Lineage}
    (same : ∀ lineage ∈ lineages, ∀ comment ∈ lineage.comment :: lineage.above,
      next.node? comment.id = view.node? comment.id) :
    next.shownRows lineages = view.shownRows lineages := by
  have shown : lineages.filter (Lineage.isShown next) = lineages.filter (Lineage.isShown view) := by
    apply List.filter_congr
    intro lineage member
    obtain ⟨-, above⟩ := List.forall_mem_cons.mp (same lineage member)
    rw [Lineage.isShown, Lineage.isShown, Bool.eq_iff_iff, List.all_eq_true, List.all_eq_true]
    apply forall₂_congr
    intro upper higher
    rw [isFolded, isFolded, above upper higher]
  rw [shownRows, shown]
  apply List.flatMap_congr
  intro lineage kept
  have own := (List.forall_mem_cons.mp (same lineage (List.mem_filter.mp kept).1)).1
  have folded : next.isFolded lineage.comment.id = view.isFolded lineage.comment.id := by
    rw [isFolded, isFolded, own]
  have opened : next.openReply? lineage.comment.id = view.openReply? lineage.comment.id := by
    rw [openReply?, openReply?, own]
  have score : next.scoreOf lineage.comment = view.scoreOf lineage.comment := by
    rw [scoreOf, scoreOf, own]
  rw [Lineage.rows, Lineage.rows, Lineage.kinds, Lineage.kinds, folded, opened, score]

/-- Two views differ at a comment and below it only. -/
def AgreesOutside (next view : View) (discussion : Discussion) (id : CommentId) : Prop :=
  ∀ other, other ≠ id → ¬discussion.IsAbove id other → next.node? other = view.node? other

/-- What stands above a comment neither is the comment nor stands below it. -/
theorem AgreesOutside.isFolded_eq (distinct : discussion.ids.Nodup)
    (agrees : next.AgreesOutside view discussion id) {upper : CommentId}
    (above : discussion.IsAbove upper id) : next.isFolded upper = view.isFolded upper := by
  have apart : upper ≠ id := by
    rintro rfl
    exact Discussion.not_isAbove_self distinct upper above
  have notBelow : ¬discussion.IsAbove id upper := fun below =>
    Discussion.not_isAbove_self distinct id (above.trans below)
  rw [isFolded, isFolded, agrees upper apart notBelow]

section

variable {thread : Thread} {above : List Comment} {front back : List Lineage}

/-- Only the rows of a thread change with what is done to its comments. -/
theorem rows_of_agreesOutside (distinct : discussion.ids.Nodup)
    (stands : discussion.Stands thread above front back)
    (agrees : next.AgreesOutside view discussion thread.id) :
    next.rows discussion =
      view.shownRows front ++ next.shownRows (thread.lineages above) ++ view.shownRows back := by
  have outside : ∀ lineage ∈ front ++ back, ∀ comment ∈ lineage.comment :: lineage.above,
      next.node? comment.id = view.node? comment.id := by
    intro lineage member comment own
    obtain ⟨apart, notBelow⟩ := stands.apart distinct member
    rcases List.mem_cons.mp own with rfl | higher
    · exact agrees _ apart notBelow
    · have listed : lineage ∈ discussion.lineages := by
        rw [stands.split]
        simp only [List.mem_append] at member ⊢
        exact member.elim (fun first => .inl (.inl first)) .inr
      have above := (Discussion.mem_above_iff distinct listed).mp (List.mem_map_of_mem higher)
      apply agrees
      · exact fun same => notBelow (same ▸ above)
      · exact fun below => notBelow (above.trans below)
  obtain ⟨first, last⟩ := List.forall_mem_append.mp outside
  rw [rows_eq_flatMap]
  change next.shownRows discussion.lineages = _
  rw [stands.split, shownRows_append, shownRows_append, shownRows_congr first, shownRows_congr last]

/-- A row in front of those of a thread, or behind them, is that of another comment. -/
theorem apart_of_mem_shownRows (distinct : discussion.ids.Nodup)
    (stands : discussion.Stands thread above front back) {row : Row}
    (member : row ∈ view.shownRows front ++ view.shownRows back) :
    row.id ≠ thread.id ∧ ¬discussion.IsAbove thread.id row.id := by
  rw [← shownRows_append] at member
  obtain ⟨lineage, outside, same⟩ := exists_lineage_of_mem_shownRows member
  rw [Row.id, same]
  exact stands.apart distinct outside

theorem within_of_mem_shownRows (distinct : discussion.ids.Nodup)
    (stands : discussion.Stands thread above front back) {row : Row}
    (member : row ∈ view.shownRows (thread.lineages above)) :
    row.id = thread.id ∨ discussion.IsAbove thread.id row.id := by
  obtain ⟨lineage, inside, same⟩ := exists_lineage_of_mem_shownRows member
  rw [Row.id, same]
  rw [Thread.lineages_eq] at inside
  rcases List.mem_cons.mp inside with rfl | deeper
  · exact .inl rfl
  · exact .inr (stands.isAbove_of_mem distinct deeper)

/-- A thread below a folded comment has no rows. -/
theorem shownRows_of_covered (distinct : discussion.ids.Nodup)
    (stands : discussion.Stands thread above front back)
    (covered : ∃ upper, discussion.IsAbove upper thread.id ∧ view.isFolded upper = true) :
    view.shownRows (thread.lineages above) = [] := by
  obtain ⟨upper, higher, folded⟩ := covered
  obtain ⟨comment, member, rfl⟩ := List.mem_map.mp ((stands.mem_above_iff distinct).mpr higher)
  have none := view.filter_isShown_of_folded member folded [thread]
  simp only [Thread.lineagesAll, List.append_nil] at none
  rw [shownRows, none, List.flatMap_nil]

theorem shownRows_of_uncovered (distinct : discussion.ids.Nodup)
    (stands : discussion.Stands thread above front back)
    (uncovered : ∀ upper, discussion.IsAbove upper thread.id → view.isFolded upper = false) :
    view.shownRows (thread.lineages above) = view.threadRows above.length thread := by
  refine (view.threadRows_eq above (fun upper member => uncovered upper.id ?_) thread).symm
  exact (stands.mem_above_iff distinct).mp (List.mem_map_of_mem member)

/-- The rows of a thread below no folded comment stand between the rows of the other threads. -/
theorem rows_of_uncovered (distinct : discussion.ids.Nodup)
    (stands : discussion.Stands thread above front back)
    (uncovered : ∀ upper, discussion.IsAbove upper thread.id → view.isFolded upper = false)
    (agrees : next.AgreesOutside view discussion thread.id) :
    next.rows discussion =
      view.shownRows front ++ next.threadRows above.length thread ++ view.shownRows back := by
  have still : ∀ upper, discussion.IsAbove upper thread.id → next.isFolded upper = false :=
    fun upper higher => (agrees.isFolded_eq distinct higher).trans (uncovered upper higher)
  rw [rows_of_agreesOutside distinct stands agrees, shownRows_of_uncovered distinct stands still]

end

/-! ## Rows of a thread -/

/-- The row of a comment by itself. -/
def rowOf (view : View) (depth : Nat) (comment : Comment) (kind : RowKind) : Row :=
  ⟨comment, depth, kind, view.scoreOf comment⟩

theorem exists_threadRows (view : View) (depth : Nat) (thread : Thread) :
    ∃ kind rest, kind ≠ .openReply ∧
      view.threadRows depth thread = view.rowOf depth thread.comment kind :: rest := by
  obtain ⟨comment, replies⟩ := thread
  cases folded : view.isFolded comment.id with
  | true => exact ⟨.folded, [], nofun, by simp [threadRows, ownRows, folded, rowOf]⟩
  | false =>
      simp only [threadRows, ownRows, folded, Bool.false_eq_true, if_false]
      split
      · exact ⟨.full, _, nofun, rfl⟩
      · exact ⟨.full, _, nofun, rfl⟩

theorem threadRows_of_folded {depth : Nat} {thread : Thread}
    (folded : view.isFolded thread.id = true) :
    view.threadRows depth thread = [view.rowOf depth thread.comment .folded] := by
  obtain ⟨comment, replies⟩ := thread
  have own : view.isFolded comment.id = true := folded
  simp [threadRows, ownRows, own, rowOf]

/-- A comment that is neither folded nor being answered is shown in full, above all that is below
it. -/
theorem threadRows_of_plain (above : List Comment) {thread : Thread}
    (unfolded : view.isFolded thread.id = false) (closed : view.openReply? thread.id = none)
    (unmounted : ∀ id ∈ Discussion.ids ⟨thread.replies⟩, view.node? id = none) :
    view.threadRows above.length thread =
      view.rowOf above.length thread.comment .full ::
        (Thread.lineagesAll (thread.comment :: above) thread.replies).map Lineage.receivedRow := by
  obtain ⟨comment, replies⟩ := thread
  have own : view.isFolded comment.id = false := unfolded
  have answered : view.openReply? comment.id = none := closed
  have below := view.threadsRows_of_unmounted (comment :: above) replies unmounted
  simp only [List.length_cons] at below
  simp only [threadRows, ownRows, own, answered, below]
  rfl

/-! ## What is done to the comment and below it -/

/-- One view comes from another by forgetting what was done below a comment and the reply under way
to it: the comment is folded or not as given, and keeps its score. -/
structure Bare (next view : View) (discussion : Discussion) (comment : Comment) (folded : Bool) :
    Prop where
  own : ∃ node, next.node? comment.id = some node ∧ node.folded = folded ∧
    node.openReply = none ∧ node.score = view.scoreOf comment
  below : ∀ lower, discussion.IsAbove comment.id lower → next.node? lower = none
  others : next.AgreesOutside view discussion comment.id

namespace Bare

variable {comment : Comment} {folded : Bool}

theorem isFolded_eq (bare : next.Bare view discussion comment folded) :
    next.isFolded comment.id = folded := by
  obtain ⟨node, mounted, rfl, -⟩ := bare.own
  simp [isFolded, mounted]

theorem openReply?_eq (bare : next.Bare view discussion comment folded) :
    next.openReply? comment.id = none := by
  obtain ⟨node, mounted, -, closed, -⟩ := bare.own
  simp [openReply?, mounted, closed]

theorem scoreOf_eq (bare : next.Bare view discussion comment folded) :
    next.scoreOf comment = view.scoreOf comment := by
  obtain ⟨node, mounted, -, -, score⟩ := bare.own
  simp [scoreOf, mounted, score]

theorem unfold (distinct : discussion.ids.Nodup)
    (bare : next.Bare view discussion comment folded) :
    (next.unfold discussion comment.id).1.Bare view discussion comment false where
  own := by
    obtain ⟨node, mounted, -, closed, score⟩ := bare.own
    refine ⟨node.unfold, by simp [node?_unfold, nodeOrFresh?, mounted], ?_⟩
    cases state : node.folded with
    | true => simp [NodeState.unfold, state, score]
    | false => simp [NodeState.unfold, state, closed, score]
  below lower below := by
    have apart : lower ≠ comment.id := by
      rintro rfl
      exact Discussion.not_isAbove_self distinct _ below
    rw [node?_unfold, if_neg apart]
    exact bare.below lower below
  others other apart notBelow := by
    rw [node?_unfold, if_neg apart]
    exact bare.others other apart notBelow

/-- A comment below a folded one is folded or unfolded without any row changing. -/
theorem rows_of_covered (distinct : discussion.ids.Nodup)
    (bare : next.Bare view discussion comment folded) {thread : Thread}
    (found : discussion.find? comment.id = some thread)
    (covered : ∃ upper, discussion.IsAbove upper comment.id ∧ view.isFolded upper = true) :
    next.rows discussion = view.rows discussion := by
  obtain ⟨above, front, back, stands⟩ := Discussion.exists_stands found
  have same := (Discussion.visited_of_find? found).1
  have others := bare.others
  rw [← same] at covered others
  have still : ∃ upper, discussion.IsAbove upper thread.id ∧ next.isFolded upper = true := by
    obtain ⟨upper, higher, hidden⟩ := covered
    exact ⟨upper, higher, (others.isFolded_eq distinct higher).trans hidden⟩
  rw [rows_of_agreesOutside distinct stands others,
    rows_of_agreesOutside distinct stands (fun _ _ _ => rfl : view.AgreesOutside view discussion _),
    shownRows_of_covered distinct stands covered, shownRows_of_covered distinct stands still]

end Bare

theorem bare_fold (view : View) (distinct : discussion.ids.Nodup) {comment : Comment}
    (listed : comment ∈ discussion.comments) :
    (view.fold discussion comment.id).1.Bare view discussion comment true where
  own := by
    have given := view.marksOrFresh?_of_listed distinct listed
    obtain ⟨node, fetched, marked⟩ := Option.map_eq_some_iff.mp given
    obtain ⟨-, score⟩ := Marks.mk.inj marked
    have apart := Discussion.not_mem_descendants_self distinct comment.id
    exact ⟨node.fold, by simp [node?_fold, apart, fetched], rfl, rfl, score⟩
  below lower below := by
    rw [node?_fold, if_pos ((Discussion.mem_descendants_iff distinct).mpr below)]
  others other apart notBelow := by
    rw [← Discussion.mem_descendants_iff distinct] at notBelow
    rw [node?_fold, if_neg notBelow, if_neg apart]

/-- What is not in the discussion is neither folded nor unfolded. -/
theorem WellFormed.fold_of_absent (sound : view.WellFormed discussion)
    (absent : id ∉ discussion.ids) :
    view.fold discussion id = (view, false) ∧ view.unfold discussion id = (view, false) := by
  have unmounted : view.node? id = none := by
    rw [Option.eq_none_iff_forall_ne_some]
    exact fun node mounted => absent (sound id node mounted).1
  have unfound : discussion.find? id = none := by
    rwa [← Option.not_isSome_iff_eq_none, Discussion.find?_isSome_iff]
  have unfetched := (view.nodeOrFresh?_eq_none_iff discussion id).mpr ⟨unmounted, unfound⟩
  simp [View.fold, View.unfold, unfetched]

/-- What is in the discussion is. -/
theorem fold_of_listed (view : View) (listed : id ∈ discussion.ids) :
    (view.fold discussion id).2 = true ∧ (view.unfold discussion id).2 = true := by
  obtain ⟨thread, found⟩ := Option.isSome_iff_exists.mp (Discussion.find?_isSome_iff.mpr listed)
  cases fetched : view.nodeOrFresh? discussion id with
  | none =>
      obtain ⟨-, unfound⟩ := (view.nodeOrFresh?_eq_none_iff discussion id).mp fetched
      rw [found] at unfound
      contradiction
  | some node => simp [fold, unfold, fetched]

/-! ## The block of a comment -/

/-- Some rows are cut at the block of a comment: its own row comes first, followed by the others of
its thread, and all rows before and after belong to other threads. In the walk, the comments below it
are those given. -/
structure RowBlock (discussion : Discussion) (comment : Comment) (before : List Row) (first : Row)
    (rest after : List Row) (below : List (Nat × Comment)) : Prop where
  own : first.comment = comment ∧ first.kind ≠ .openReply
  inside : ∀ row ∈ rest, row.id = comment.id ∨ discussion.IsAbove comment.id row.id
  outside : ∀ row ∈ before ++ after, row.id ≠ comment.id ∧ ¬discussion.IsAbove comment.id row.id
  walk : ∃ front back, discussion.walk = front ++ (first.depth, comment) :: below ++ back ∧
    (∀ entry ∈ below, discussion.IsAbove comment.id entry.2.id) ∧
    ∀ entry ∈ front ++ back, ¬discussion.IsAbove comment.id entry.2.id

/-- The rows of a thread below no folded comment are the block of the comment that it starts with. -/
theorem rowBlock_of_stands (distinct : discussion.ids.Nodup) {thread : Thread}
    {above : List Comment} {front back : List Lineage}
    (stands : discussion.Stands thread above front back)
    (uncovered : ∀ upper, discussion.IsAbove upper thread.id → view.isFolded upper = false)
    {kind : RowKind} {rest : List Row} (proper : kind ≠ .openReply)
    (block : view.threadRows above.length thread =
      view.rowOf above.length thread.comment kind :: rest) :
    RowBlock discussion thread.comment (view.shownRows front)
      (view.rowOf above.length thread.comment kind) rest (view.shownRows back)
      ((Thread.lineagesAll (thread.comment :: above) thread.replies).map Lineage.walked) where
  own := ⟨rfl, proper⟩
  inside row member := by
    have among : row ∈ view.shownRows (thread.lineages above) := by
      rw [shownRows_of_uncovered distinct stands uncovered, block]
      exact List.mem_cons_of_mem _ member
    exact within_of_mem_shownRows distinct stands among
  outside row member := apart_of_mem_shownRows distinct stands member
  walk := by
    refine ⟨front.map Lineage.walked, back.map Lineage.walked, ?_, ?_, ?_⟩
    · rw [Discussion.walk_eq_lineages, stands.split, Thread.lineages_eq, List.map_append,
        List.map_append]
      rfl
    · intro entry member
      obtain ⟨lineage, deeper, rfl⟩ := List.mem_map.mp member
      exact stands.isAbove_of_mem distinct deeper
    · intro entry member
      rw [← List.map_append] at member
      obtain ⟨lineage, outside, rfl⟩ := List.mem_map.mp member
      exact (stands.apart distinct outside).2

/-- A comment that is not below a folded one shows in one block of the rows. -/
theorem exists_rowBlock (distinct : discussion.ids.Nodup) {comment : Comment}
    (listed : comment ∈ discussion.comments)
    (uncovered : ∀ upper, discussion.IsAbove upper comment.id → view.isFolded upper = false)
    {folded unfolded : View} (bare : folded.Bare view discussion comment true)
    (plain : unfolded.Bare view discussion comment false) :
    ∃ before first rest after below, RowBlock discussion comment before first rest after below ∧
      first.score = view.scoreOf comment ∧
      view.rows discussion = before ++ first :: rest ++ after ∧
      folded.rows discussion = before ++ { first with kind := .folded } :: after ∧
      unfolded.rows discussion = before ++ { first with kind := .full } ::
        below.map (fun entry => ⟨entry.2, entry.1, .full, entry.2.score⟩) ++ after := by
  obtain ⟨thread, found, rfl⟩ := Discussion.find?_of_listed distinct listed
  obtain ⟨above, front, back, stands⟩ := Discussion.exists_stands found
  obtain ⟨kind, rest, proper, block⟩ := view.exists_threadRows above.length thread
  refine ⟨_, _, _, _, _, rowBlock_of_stands distinct stands uncovered proper block, rfl, ?_, ?_, ?_⟩
  · rw [rows_of_uncovered distinct stands uncovered fun _ _ _ => rfl, block]
  · rw [rows_of_uncovered distinct stands uncovered bare.others,
      threadRows_of_folded bare.isFolded_eq, rowOf, bare.scoreOf_eq]
    simp [rowOf]
  · have unmounted : ∀ id ∈ Discussion.ids ⟨thread.replies⟩, unfolded.node? id = none :=
      fun id member => plain.below id ((stands.isAbove_iff distinct).mpr member)
    rw [rows_of_uncovered distinct stands uncovered plain.others,
      threadRows_of_plain above plain.isFolded_eq plain.openReply?_eq unmounted, rowOf,
      plain.scoreOf_eq, List.map_map]
    rfl

/-- A view in order, as every view is that was reached by using it, is told to fold a comment, and
then to unfold it. An id that is not in the discussion is refused and changes nothing. Any comment of
the discussion is folded and loses the reply under way; it keeps its score. Everything done below it
is forgotten, and nothing else changes. Where no comment above it is folded, the block of its rows
gives way to one row of the same depth and score. Unfolding puts the full row in the place of this
one, and behind it, in the order of the walk, every comment below in full with the score with which
it was received. Where a comment above it is folded, no row changes. -/
theorem fold_then_unfold (distinct : discussion.ids.Nodup) (sound : view.WellFormed discussion)
    (id : CommentId) :
    (id ∉ discussion.ids →
        view.fold discussion id = (view, false) ∧ view.unfold discussion id = (view, false)) ∧
      (id ∈ discussion.ids → ∃ comment ∈ discussion.comments, comment.id = id) ∧
      ∀ comment ∈ discussion.comments, comment.id = id →
        ∃ folded unfolded, view.fold discussion id = (folded, true) ∧
          folded.unfold discussion id = (unfolded, true) ∧
          folded.Bare view discussion comment true ∧ unfolded.Bare view discussion comment false ∧
          ((∃ upper, discussion.IsAbove upper id ∧ view.isFolded upper = true) →
            folded.rows discussion = view.rows discussion ∧
              unfolded.rows discussion = view.rows discussion) ∧
          ((∀ upper, discussion.IsAbove upper id → view.isFolded upper = false) →
            ∃ before first rest after below,
              RowBlock discussion comment before first rest after below ∧
              first.score = view.scoreOf comment ∧
              view.rows discussion = before ++ first :: rest ++ after ∧
              folded.rows discussion = before ++ { first with kind := .folded } :: after ∧
              unfolded.rows discussion = before ++ { first with kind := .full } ::
                below.map (fun entry => ⟨entry.2, entry.1, .full, entry.2.score⟩) ++ after) := by
  refine ⟨sound.fold_of_absent, ?_, ?_⟩
  · rw [Discussion.ids_eq_comments]
    exact List.mem_map.mp
  · rintro comment listed rfl
    have present : comment.id ∈ discussion.ids := by
      rw [Discussion.ids_eq_comments]
      exact List.mem_map_of_mem listed
    obtain ⟨thread, found, -⟩ := Discussion.find?_of_listed distinct listed
    have bare := view.bare_fold distinct listed
    have plain := bare.unfold distinct
    refine ⟨_, _, Prod.ext rfl (fold_of_listed view present).1,
      Prod.ext rfl (fold_of_listed _ present).2, bare, plain, ?_, ?_⟩
    · intro covered
      exact ⟨bare.rows_of_covered distinct found covered,
        plain.rows_of_covered distinct found covered⟩
    · intro uncovered
      exact exists_rowBlock distinct listed uncovered bare plain

/-- A reply is under way, and a comment below the one that is answered was voted for. -/
def voteBelowReply : View :=
  ((({} : View).toggleReply ⟨Discussion.sampleThreads⟩ 11).1.vote ⟨Discussion.sampleThreads⟩ 111
    .up).1

/-- Once the comment above was folded and unfolded, the reply is gone and the vote does not count. -/
theorem fold_voteBelowReply :
    (Discussion.ids ⟨Discussion.sampleThreads⟩).Nodup ∧
      voteBelowReply.WellFormed ⟨Discussion.sampleThreads⟩ ∧
      ∃ folded unfolded, voteBelowReply.fold ⟨Discussion.sampleThreads⟩ 1 = (folded, true) ∧
        folded.unfold ⟨Discussion.sampleThreads⟩ 1 = (unfolded, true) ∧
        folded.node? 11 = none ∧ unfolded.node? 111 = none ∧
        (folded.rows ⟨Discussion.sampleThreads⟩).map (fun row => (row.id, row.kind, row.score)) =
          [(1, .folded, 450), (2, .full, 89), (21, .full, 230)] ∧
        (unfolded.rows ⟨Discussion.sampleThreads⟩).map (fun row => (row.id, row.kind, row.score)) =
          [(1, .full, 450), (11, .full, 120), (111, .full, 5), (12, .full, -12), (2, .full, 89),
            (21, .full, 230)] := by
  have distinct : (Discussion.ids ⟨Discussion.sampleThreads⟩).Nodup := by decide +kernel
  have sound : voteBelowReply.WellFormed ⟨Discussion.sampleThreads⟩ :=
    ((wellFormed_empty _).toggleReply 11).vote 111 .up
  obtain ⟨-, known, listed⟩ := fold_then_unfold distinct sound 1
  obtain ⟨comment, member, named⟩ := known (by decide +kernel)
  obtain ⟨folded, unfolded, first, second, bare, plain, -⟩ := listed comment member named
  have above : ∀ lower ∈ [11, 111],
      Discussion.IsAbove ⟨Discussion.sampleThreads⟩ comment.id lower := by
    intro lower below
    rw [← Discussion.mem_descendants_iff distinct, named]
    exact (by decide +kernel : [11, 111] ⊆ Discussion.descendants ⟨Discussion.sampleThreads⟩ 1) below
  refine ⟨distinct, sound, folded, unfolded, first, second, bare.below 11 (above 11 (by simp)),
    plain.below 111 (above 111 (by simp)), ?_, ?_⟩
  · obtain rfl := congrArg Prod.fst first
    decide +kernel
  · obtain rfl := congrArg Prod.fst first
    obtain rfl := congrArg Prod.fst second
    decide +kernel

end View

end Colloquy
