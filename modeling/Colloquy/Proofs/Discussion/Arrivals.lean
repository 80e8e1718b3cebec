import Colloquy.Discussion.Sample
import Colloquy.Proofs.Discussion.Ancestry
import Colloquy.Proofs.Discussion.Growth

/-!
# Replies that arrive one after another

Replies to comments of a discussion are put into it in the order in which they arrive. What comes
out is described without that order: every comment receives the replies to it, in the order in which
these arrived, and whatever arrives elsewhere does not matter to it. Comments may be answered above
and below each other, but no reply that arrives is answered itself.
-/

namespace Colloquy

/-- A reply, and the comment that it answers. -/
structure Arrival where
  parent : CommentId
  reply : Thread

/-- The replies to one comment, in the order in which they arrive. -/
def repliesTo (arrivals : List Arrival) (parent : CommentId) : List Thread :=
  (arrivals.filter fun arrival => arrival.parent == parent).map Arrival.reply

theorem repliesTo_cons (arrival : Arrival) (rest : List Arrival) (id : CommentId) :
    repliesTo (arrival :: rest) id = repliesTo [arrival] id ++ repliesTo rest id := by
  by_cases here : arrival.parent = id
  · simp [repliesTo, here]
  · simp [repliesTo, here]

theorem repliesTo_eq_nil {arrivals : List Arrival} {id : CommentId}
    (unanswered : ∀ arrival ∈ arrivals, arrival.parent ≠ id) : repliesTo arrivals id = [] := by
  simpa [repliesTo, List.filter_eq_nil_iff] using unanswered

/-- A reply arrives at one comment only. -/
theorem repliesTo_singleton_of_ne {parent id : CommentId} (apart : id ≠ parent) (reply : Thread) :
    repliesTo [⟨parent, reply⟩] id = [] :=
  repliesTo_eq_nil (by simpa using Ne.symm apart)

/-- Of replies to different comments it does not matter which arrives first. -/
theorem repliesTo_swap {first second : Arrival} (apart : first.parent ≠ second.parent)
    (rest : List Arrival) (id : CommentId) :
    repliesTo (first :: second :: rest) id = repliesTo (second :: first :: rest) id := by
  by_cases here : first.parent = id
  · have elsewhere : second.parent ≠ id := fun same => apart (here.trans same.symm)
    simp [repliesTo, here, elsewhere]
  · simp [repliesTo, List.filter_cons, here]

namespace Placement

/-- Put replies among their siblings, one after another. -/
def placeAll (placement : Placement) (replies siblings : List Thread) : List Thread :=
  match placement with
  | newestLast => siblings ++ replies
  | newestFirst => replies.reverse ++ siblings

@[simp] theorem placeAll_nil (placement : Placement) (siblings : List Thread) :
    placement.placeAll [] siblings = siblings := by
  cases placement with
  | newestLast => exact List.append_nil siblings
  | newestFirst => rfl

theorem placeAll_singleton (placement : Placement) (reply : Thread) (siblings : List Thread) :
    placement.placeAll [reply] siblings = placement.place reply siblings := by
  cases placement with
  | newestLast => rfl
  | newestFirst => rfl

/-- Replies that come later stand on the other side of those that came earlier. -/
theorem placeAll_append (placement : Placement) (earlier later siblings : List Thread) :
    placement.placeAll (earlier ++ later) siblings =
      placement.placeAll later (placement.placeAll earlier siblings) := by
  cases placement with
  | newestLast => simp [placeAll]
  | newestFirst => simp [placeAll]

theorem mem_placeAll {placement : Placement} {replies siblings : List Thread} {thread : Thread} :
    thread ∈ placement.placeAll replies siblings ↔ thread ∈ replies ∨ thread ∈ siblings := by
  cases placement with
  | newestLast => simp [placeAll, or_comm]
  | newestFirst => simp [placeAll]

theorem map_placeAll (placement : Placement) (change : Thread → Thread)
    (replies siblings : List Thread) :
    (placement.placeAll replies siblings).map change =
      placement.placeAll (replies.map change) (siblings.map change) := by
  cases placement with
  | newestLast => simp [placeAll]
  | newestFirst => simp [placeAll]

end Placement

namespace Thread

section

variable (placement : Placement) (arriving : CommentId → List Thread)

mutual

/-- Give every comment of a thread the replies that arrive at it. -/
def receive : Thread → Thread
  | ⟨comment, replies⟩ => ⟨comment, placement.placeAll (arriving comment.id) (receiveAll replies)⟩

/-- Give every comment of several threads the replies that arrive at it. -/
def receiveAll : List Thread → List Thread
  | [] => []
  | thread :: rest => thread.receive :: receiveAll rest

end

theorem receiveAll_eq_map (threads : List Thread) :
    receiveAll placement arriving threads = threads.map (receive placement arriving) := by
  induction threads with
  | nil => rfl
  | cons thread rest ih => simp [receiveAll, ih]

/-- The comment stays, and the replies to it stand beside those that were there. -/
theorem receive_eq (thread : Thread) :
    thread.receive placement arriving =
      ⟨thread.comment, placement.placeAll (arriving thread.id)
        (thread.replies.map (receive placement arriving))⟩ := by
  obtain ⟨comment, replies⟩ := thread
  rw [receive, receiveAll_eq_map]
  rfl

@[simp] theorem id_receive (thread : Thread) :
    (thread.receive placement arriving).id = thread.id := by
  rw [receive_eq]
  rfl

mutual

/-- A thread at which nothing arrives stays as it is. -/
theorem receive_of_quiet : (thread : Thread) →
    (∀ id ∈ Discussion.ids ⟨[thread]⟩, arriving id = []) →
      thread.receive placement arriving = thread
  | ⟨comment, replies⟩, quiet => by
      simp only [Discussion.ids_cons, Discussion.ids_nil, List.append_nil,
        List.forall_mem_cons] at quiet
      have here : arriving comment.id = [] := quiet.1
      rw [receive, receiveAll_of_quiet replies quiet.2, here, Placement.placeAll_nil]

theorem receiveAll_of_quiet : (threads : List Thread) →
    (∀ id ∈ Discussion.ids ⟨threads⟩, arriving id = []) →
      receiveAll placement arriving threads = threads
  | [], _ => rfl
  | thread :: rest, quiet => by
      simp only [Discussion.ids_cons, ← List.cons_append, List.forall_mem_append] at quiet
      have first : ∀ id ∈ Discussion.ids ⟨[thread]⟩, arriving id = [] := by simpa using quiet.1
      rw [receiveAll, receive_of_quiet thread first, receiveAll_of_quiet rest quiet.2]

end

variable {placement arriving}

mutual

/-- What arrives later joins what arrived earlier, unless it answers something that arrived. -/
theorem receive_receive {later : CommentId → List Thread}
    (settled : ∀ id, ∀ reply ∈ arriving id, reply.receive placement later = reply) :
    (thread : Thread) →
      (thread.receive placement arriving).receive placement later =
        thread.receive placement fun id => arriving id ++ later id
  | ⟨comment, replies⟩ => by
      have kept : (arriving comment.id).map (receive placement later) = arriving comment.id :=
        (List.map_congr_left (settled comment.id)).trans (List.map_id' _)
      simp only [receive]
      rw [Placement.placeAll_append, receiveAll_eq_map, Placement.map_placeAll, kept,
        ← receiveAll_eq_map, receiveAll_receiveAll settled replies]

theorem receiveAll_receiveAll {later : CommentId → List Thread}
    (settled : ∀ id, ∀ reply ∈ arriving id, reply.receive placement later = reply) :
    (threads : List Thread) →
      receiveAll placement later (receiveAll placement arriving threads) =
        receiveAll placement (fun id => arriving id ++ later id) threads
  | [] => rfl
  | thread :: rest => by
      rw [receiveAll, receiveAll, receiveAll, receive_receive settled thread,
        receiveAll_receiveAll settled rest]

end

mutual

/-- Whatever is visited within a thread is visited within what becomes of it. -/
theorem receive_visited (depth : Nat) : (thread : Thread) → {visit : Nat × Thread} →
    visit ∈ thread.visits depth →
      (visit.1, visit.2.receive placement arriving) ∈
        (thread.receive placement arriving).visits depth
  | ⟨comment, replies⟩, visit, visited => by
      rcases List.mem_cons.mp visited with rfl | deeper
      · rw [visits_eq]
        exact List.mem_cons_self
      · have below := receiveAll_visited (depth + 1) replies deeper
        rw [visits_eq, receive, visitsAll_eq_flatMap]
        rw [visitsAll_eq_flatMap, List.mem_flatMap] at below
        obtain ⟨reply, member, within⟩ := below
        exact List.mem_cons_of_mem _
          (List.mem_flatMap.mpr ⟨reply, Placement.mem_placeAll.mpr (.inr member), within⟩)

theorem receiveAll_visited (depth : Nat) : (threads : List Thread) → {visit : Nat × Thread} →
    visit ∈ visitsAll depth threads →
      (visit.1, visit.2.receive placement arriving) ∈
        visitsAll depth (receiveAll placement arriving threads)
  | [], visit, visited => by simp [visitsAll] at visited
  | thread :: rest, visit, visited => by
      rcases List.mem_append.mp visited with inThread | inRest
      · exact List.mem_append_left _ (receive_visited depth thread inThread)
      · exact List.mem_append_right _ (receiveAll_visited depth rest inRest)

end

end

section

variable (placement : Placement) (parent : CommentId) (reply : Thread)

mutual

/-- Where no id repeats, a reply is put where a comment receives it. -/
theorem insert?_eq_receive : (thread : Thread) → (Discussion.ids ⟨[thread]⟩).Nodup →
    parent ∈ Discussion.ids ⟨[thread]⟩ →
      insert? parent reply placement thread =
        some (thread.receive placement (repliesTo [⟨parent, reply⟩]))
  | ⟨comment, replies⟩, distinct, present => by
      simp only [Discussion.ids_cons, Discussion.ids_nil, List.append_nil, List.nodup_cons,
        List.mem_cons] at distinct present
      by_cases here : comment.id = parent
      · subst here
        have quiet : ∀ id ∈ Discussion.ids ⟨replies⟩,
            repliesTo [⟨comment.id, reply⟩] id = [] := by
          intro id member
          apply repliesTo_singleton_of_ne
          rintro rfl
          exact distinct.1 member
        rw [insert?, if_pos rfl, receive, receiveAll_of_quiet placement _ replies quiet]
        simp [repliesTo, Placement.placeAll_singleton]
      · have deeper : parent ∈ Discussion.ids ⟨replies⟩ := present.resolve_left (Ne.symm here)
        rw [insert?, if_neg here, insertAny?_eq_receiveAll replies distinct.2 deeper, receive,
          repliesTo_singleton_of_ne here, Placement.placeAll_nil]
        rfl

theorem insertAny?_eq_receiveAll : (threads : List Thread) → (Discussion.ids ⟨threads⟩).Nodup →
    parent ∈ Discussion.ids ⟨threads⟩ →
      insertAny? parent reply placement threads =
        some (receiveAll placement (repliesTo [⟨parent, reply⟩]) threads)
  | [], _, present => by simp at present
  | thread :: rest, distinct, present => by
      have split : Discussion.ids ⟨thread :: rest⟩ =
          Discussion.ids ⟨[thread]⟩ ++ Discussion.ids ⟨rest⟩ := by simp
      rw [split] at distinct present
      obtain ⟨first, others, apart⟩ := List.nodup_append.mp distinct
      have quiet : ∀ ids : List CommentId, parent ∉ ids →
          ∀ id ∈ ids, repliesTo [⟨parent, reply⟩] id = [] := by
        intro ids absent id member
        apply repliesTo_singleton_of_ne
        rintro rfl
        exact absent member
      by_cases here : parent ∈ Discussion.ids ⟨[thread]⟩
      · have absent : parent ∉ Discussion.ids ⟨rest⟩ := fun again => apart _ here _ again rfl
        rw [insertAny?, insert?_eq_receive thread first here, receiveAll,
          receiveAll_of_quiet placement _ rest (quiet _ absent)]
      · have later := (List.mem_append.mp present).resolve_left here
        rw [insertAny?, (insert?_eq_none_iff parent reply placement thread).mpr here, receiveAll,
          receive_of_quiet placement _ thread (quiet _ here),
          insertAny?_eq_receiveAll rest others later]
        rfl

end

end

end Thread

namespace Discussion

/-- Put replies into a discussion in the order in which they arrive. -/
def addReplies (discussion : Discussion) (placement : Placement) (arrivals : List Arrival) :
    Except DiscussionError Discussion :=
  arrivals.foldlM (fun grown arrival => grown.addReply arrival.parent arrival.reply placement)
    discussion

/-- Give every comment the replies that arrive at it. -/
def receive (discussion : Discussion) (placement : Placement)
    (arriving : CommentId → List Thread) : Discussion :=
  ⟨Thread.receiveAll placement arriving discussion.threads⟩

/-- Replies fit into a discussion whatever their order: each answers a comment that is there before
any arrives, and no id occurs twice in the discussion and the replies together. -/
structure FitsAll (discussion : Discussion) (arrivals : List Arrival) : Prop where
  answers : ∀ arrival ∈ arrivals, arrival.parent ∈ discussion.ids
  distinct : (discussion.ids ++ arrivals.flatMap fun arrival => arrival.reply.ids).Nodup

namespace FitsAll

variable {discussion : Discussion} {arrival : Arrival} {arrivals rest : List Arrival}

theorem ids_nodup (fits : discussion.FitsAll arrivals) : discussion.ids.Nodup :=
  fits.distinct.of_append_left

/-- No id of a reply is in use. -/
theorem fresh (fits : discussion.FitsAll arrivals) (member : arrival ∈ arrivals) :
    ∀ id ∈ arrival.reply.ids, id ∉ discussion.ids := by
  intro id incoming known
  exact (List.nodup_append.mp fits.distinct).2.2 id known id
    (List.mem_flatMap.mpr ⟨arrival, member, incoming⟩) rfl

theorem perm {order : List Arrival} (fits : discussion.FitsAll arrivals)
    (reordered : order.Perm arrivals) : discussion.FitsAll order where
  answers arrival member := fits.answers arrival (reordered.mem_iff.mp member)
  distinct := ((reordered.flatMap_right _).append_left _).nodup_iff.mpr fits.distinct

theorem head (fits : discussion.FitsAll (arrival :: rest)) :
    discussion.Fits arrival.parent arrival.reply := by
  have distinct := fits.distinct.of_append_right
  rw [List.flatMap_cons] at distinct
  exact ⟨distinct.of_append_left, fits.fresh List.mem_cons_self,
    fits.answers arrival List.mem_cons_self⟩

/-- Once the first reply was put into the discussion, the others still fit. -/
theorem tail (fits : discussion.FitsAll (arrival :: rest)) {grown : Discussion}
    (added : grown.ids.Perm (discussion.ids ++ arrival.reply.ids)) : grown.FitsAll rest where
  answers other later := by
    rw [added.mem_iff]
    exact List.mem_append_left _ (fits.answers other (List.mem_cons_of_mem _ later))
  distinct := by
    have distinct := fits.distinct
    rw [List.flatMap_cons, ← List.append_assoc] at distinct
    exact (added.append_right _).nodup_iff.mpr distinct

/-- No reply that comes later answers one that came earlier. -/
theorem unanswered (fits : discussion.FitsAll (arrival :: rest)) :
    ∀ id ∈ arrival.reply.ids, repliesTo rest id = [] := by
  intro id member
  apply repliesTo_eq_nil
  rintro other later rfl
  exact fits.fresh List.mem_cons_self other.parent member
    (fits.answers other (List.mem_cons_of_mem _ later))

end FitsAll

variable {discussion : Discussion} {placement : Placement}

/-- A reply that fits is put where the comment that it answers receives it. -/
theorem addReply_eq_receive (distinct : discussion.ids.Nodup) {parent : CommentId} {reply : Thread}
    (fits : discussion.Fits parent reply) :
    discussion.addReply parent reply placement =
      .ok (discussion.receive placement (repliesTo [⟨parent, reply⟩])) := by
  obtain ⟨unrepeated, fresh, present⟩ := fits
  have unclashed : discussion.firstClash? [] reply.ids = none :=
    firstClash?_eq_none_iff.mpr ⟨unrepeated, fun id member => ⟨by simp, fresh id member⟩⟩
  have inserted := Thread.insertAny?_eq_receiveAll placement parent reply discussion.threads
    distinct present
  simp [addReply, unclashed, inserted, receive]

/-- Replies that are still to come answer nothing in the one that is put first, so that they may be
received with it. -/
theorem receive_repliesTo_cons (placement : Placement) {arrival : Arrival} {rest : List Arrival}
    (fits : discussion.FitsAll (arrival :: rest)) :
    (discussion.receive placement (repliesTo [arrival])).receive placement (repliesTo rest) =
      discussion.receive placement (repliesTo (arrival :: rest)) := by
  have settled : ∀ id, ∀ reply ∈ repliesTo [arrival] id,
      reply.receive placement (repliesTo rest) = reply := by
    intro id reply member
    obtain ⟨other, kept, rfl⟩ := List.mem_map.mp member
    obtain rfl := List.mem_singleton.mp (List.mem_filter.mp kept).1
    exact Thread.receive_of_quiet placement _ other.reply fits.unanswered
  simp only [receive, Thread.receiveAll_receiveAll settled, ← repliesTo_cons]

/-- Replies that fit are all taken, and every comment receives the replies to it. -/
theorem addReplies_eq_receive {arrivals : List Arrival} (fits : discussion.FitsAll arrivals)
    (placement : Placement) :
    discussion.addReplies placement arrivals =
        .ok (discussion.receive placement (repliesTo arrivals)) ∧
      (discussion.receive placement (repliesTo arrivals)).ids.Perm
        (discussion.ids ++ arrivals.flatMap fun arrival => arrival.reply.ids) := by
  induction arrivals generalizing discussion with
  | nil =>
      have same : discussion.receive placement (repliesTo []) = discussion := by
        simp [receive, Thread.receiveAll_of_quiet placement (repliesTo []) discussion.threads
          fun id _ => rfl]
      simp [same, addReplies, pure, Except.pure]
  | cons arrival rest ih =>
      obtain ⟨grown, accepted, growth⟩ := addReply_of_fits placement fits.head
      have added := ids_perm_of_grown growth
      have received := accepted.symm.trans (addReply_eq_receive fits.ids_nodup fits.head)
      obtain rfl := Except.ok.inj received
      obtain ⟨others, all⟩ := ih (fits.tail added)
      rw [receive_repliesTo_cons placement fits] at others all
      constructor
      · rw [← others, addReplies, List.foldlM_cons, accepted]
        rfl
      · rw [List.flatMap_cons, ← List.append_assoc]
        exact all.trans (added.append_right _)

/-- A thread that is found becomes what it receives. -/
theorem find?_receive {arriving : CommentId → List Thread}
    (distinct : (discussion.receive placement arriving).ids.Nodup) {depth : Nat} {thread : Thread}
    (visited : (depth, thread) ∈ discussion.visits) :
    (discussion.receive placement arriving).find? thread.id =
      some (thread.receive placement arriving) := by
  have received : (depth, thread.receive placement arriving) ∈
      (discussion.receive placement arriving).visits := by
    rw [visits_eq] at visited ⊢
    exact Thread.receiveAll_visited 0 discussion.threads visited
  have found := find?_of_visited distinct received
  rwa [Thread.id_receive] at found

/-- Threads that are visited are found again, each with what it received. -/
theorem filterMap_find?_receive {arriving : CommentId → List Thread}
    (distinct : (discussion.receive placement arriving).ids.Nodup) {depth : Nat}
    {threads : List Thread} (visited : ∀ thread ∈ threads, (depth, thread) ∈ discussion.visits) :
    threads.filterMap (fun thread => (discussion.receive placement arriving).find? thread.id) =
      threads.map (Thread.receive placement arriving) := by
  rw [← List.filterMap_eq_map]
  apply List.filterMap_congr
  intro thread member
  exact find?_receive distinct (visited thread member)

/-- Replies are put into a discussion below comments that are there before any arrives, and no id
occurs twice in the discussion and the replies together. In whatever order they arrive, all of them
are taken, and no other comment is added or lost. A comment then has the replies that it had before,
each with whatever arrived below it, and beside them those that arrived at it: behind them in the
order in which they arrived, or in front of them with the newest first. Two orders that agree on the
replies to each single comment thus lead to the same discussion. -/
theorem addReplies_in_any_order {discussion : Discussion} {arrivals : List Arrival}
    (fits : discussion.FitsAll arrivals) (placement : Placement) {order : List Arrival}
    (reordered : order.Perm arrivals) :
    ∃ grown, discussion.addReplies placement order = .ok grown ∧
      grown.ids.Perm (discussion.ids ++ arrivals.flatMap fun arrival => arrival.reply.ids) ∧
      grown.threads = discussion.threads.filterMap (fun root => grown.find? root.id) ∧
      (∀ id thread, discussion.find? id = some thread →
        grown.find? id = some ⟨thread.comment, placement.placeAll (repliesTo order id)
          (thread.replies.filterMap fun child => grown.find? child.id)⟩) ∧
      ∀ other : List Arrival, other.Perm arrivals →
        (∀ parent, repliesTo other parent = repliesTo order parent) →
          discussion.addReplies placement other = .ok grown := by
  obtain ⟨taken, added⟩ := addReplies_eq_receive (fits.perm reordered) placement
  have distinct := added.nodup_iff.mpr (fits.perm reordered).distinct
  refine ⟨_, taken, added.trans ((reordered.flatMap_right _).append_left _), ?_, ?_, ?_⟩
  · rw [filterMap_find?_receive distinct fun root member => root_visited member,
      ← Thread.receiveAll_eq_map]
    rfl
  · intro id thread found
    obtain ⟨rfl, depth, visited⟩ := visited_of_find? found
    rw [find?_receive distinct visited, Thread.receive_eq,
      filterMap_find?_receive distinct fun child member => reply_visited visited member]
  · intro other shuffled same
    obtain ⟨retaken, -⟩ := addReplies_eq_receive (fits.perm shuffled) placement
    rw [retaken, funext same]

/-- Two replies to one comment, and one to the comment above it. -/
def crossingReplies : List Arrival :=
  [⟨11, ⟨⟨500, "late_reader", "It grows on you.", "", 0, false⟩,
      [⟨⟨501, "hater_101", "Never.", "", 0, false⟩, []⟩]⟩⟩,
    ⟨1, ⟨⟨600, "random_user", "Same here.", "", 0, false⟩, []⟩⟩,
    ⟨11, ⟨⟨700, "lore_master", "Found it.", "", 0, false⟩, []⟩⟩]

/-- The reply to the comment above may come first as well, or last. -/
theorem addReplies_crossingReplies :
    FitsAll ⟨sampleThreads⟩ crossingReplies ∧
      ∃ grown, addReplies ⟨sampleThreads⟩ .newestFirst crossingReplies = .ok grown ∧
        addReplies ⟨sampleThreads⟩ .newestFirst
          [crossingReplies[1], crossingReplies[0], crossingReplies[2]] = .ok grown ∧
        grown.ids = [1, 600, 11, 700, 500, 501, 111, 12, 2, 21] := by
  have fits : FitsAll ⟨sampleThreads⟩ crossingReplies :=
    ⟨by decide +kernel, by decide +kernel⟩
  obtain ⟨grown, taken, -, -, -, others⟩ :=
    addReplies_in_any_order fits .newestFirst (List.Perm.refl _)
  have swapped := others [crossingReplies[1], crossingReplies[0], crossingReplies[2]]
    (List.Perm.swap _ _ _) (repliesTo_swap (by decide) _)
  have listed : (addReplies ⟨sampleThreads⟩ .newestFirst crossingReplies).toOption.map ids =
      some [1, 600, 11, 700, 500, 501, 111, 12, 2, 21] := by decide +kernel
  rw [taken] at listed
  exact ⟨fits, grown, taken, swapped, Option.some.inj listed⟩

end Discussion

end Colloquy
