import Colloquy.Proofs.Discussion.Outline

/-!
# Growth of a discussion

A reply that is put below a comment changes one thread of the discussion and leaves all others as
they are. In the outline this is one block inserted behind the comment that is answered. The reply
is refused, and nothing changes, exactly if it repeats an id, if one of its ids is in use, or if
there is no such comment.
-/

namespace Colloquy

namespace Thread

/-- One outline grows into another: the first thread that starts with the given id gets one more
reply, and everything before and after it stays. -/
inductive Grown (parent : CommentId) (reply : Thread) (placement : Placement) :
    List Placed → List Placed → Prop where
  | intro (before after : List Placed) (depth : Nat) (upper : Option CommentId)
      (comment : Comment) (replies : List Thread) (found : comment.id = parent)
      (first : ∀ placed ∈ before, placed.id ≠ parent) :
      Grown parent reply placement
        (before ++ outline depth upper ⟨comment, replies⟩ ++ after)
        (before ++ outline depth upper ⟨comment, placement.place reply replies⟩ ++ after)

variable {parent : CommentId} {reply : Thread} {placement : Placement}

/-- One outline grows into another where the first visited thread that starts with the given id gets
one more reply. Its comment is the first one of the outline that has the id. -/
inductive Grafted (parent : CommentId) (reply : Thread) (placement : Placement)
    (visits : List (Nat × Thread)) : List Placed → List Placed → Prop where
  | intro (before after : List Placed) (depth : Nat) (upper : Option CommentId) (found : Thread)
      (first : ∀ placed ∈ before, placed.id ≠ parent)
      (located : visits.find? (fun visit => visit.2.id == parent) = some (depth, found)) :
      Grafted parent reply placement visits
        (before ++ found.outline depth upper ++ after)
        (before ++ outline depth upper ⟨found.comment, placement.place reply found.replies⟩ ++ after)

variable {visits : List (Nat × Thread)}

theorem Grafted.grown {old new : List Placed}
    (grafted : Grafted parent reply placement visits old new) :
    Grown parent reply placement old new := by
  cases grafted with
  | intro before after depth upper found first located =>
      obtain ⟨comment, replies⟩ := found
      have same : comment.id = parent := by simpa [id] using List.find?_some located
      exact .intro before after depth upper comment replies same first

/-- Growth within a longer outline, if nothing in front has the id. -/
theorem Grafted.within {old new : List Placed}
    (grafted : Grafted parent reply placement visits old new)
    (front back : List Placed) (skipped behind : List (Nat × Thread))
    (clear : ∀ placed ∈ front, placed.id ≠ parent)
    (unfound : ∀ visit ∈ skipped, visit.2.id ≠ parent) :
    Grafted parent reply placement (skipped ++ visits ++ behind) (front ++ old ++ back)
      (front ++ new ++ back) := by
  cases grafted with
  | intro before after depth upper found first located =>
      have none : ∀ placed ∈ front ++ before, placed.id ≠ parent := by
        intro placed member
        rcases List.mem_append.mp member with inFront | inBefore
        · exact clear placed inFront
        · exact first placed inBefore
      have passed : (skipped.find? fun visit => visit.2.id == parent) = Option.none := by
        simpa using unfound
      have reached : (skipped ++ visits ++ behind).find? (fun visit => visit.2.id == parent) =
          some (depth, found) := by
        rw [List.append_assoc, List.find?_append, passed, List.find?_append, located]
        rfl
      have longer : Grafted parent reply placement _ _ _ :=
        .intro (front ++ before) (after ++ back) depth upper found none reached
      simpa using longer

/-- Growth inserts the outline of the reply as one block, one level below the comment answered. -/
theorem Grown.block {old new : List Placed} (grown : Grown parent reply placement old new) :
    ∃ before after depth, old = before ++ after ∧
      new = before ++ reply.outline (depth + 1) (some parent) ++ after ∧
      (old.find? fun placed => placed.id == parent).map Placed.depth = some depth := by
  cases grown with
  | intro before after depth upper comment replies found first =>
      have located : ((before ++ outline depth upper ⟨comment, replies⟩ ++ after).find?
          fun placed => placed.id == parent).map Placed.depth = some depth := by
        have skipped : (before.find? fun placed => placed.id == parent) = none := by
          simpa using first
        rw [List.append_assoc, List.find?_append, skipped]
        simp [outline, Placed.id, found]
      subst found
      cases placement with
      | newestLast =>
          refine ⟨before ++ outline depth upper ⟨comment, replies⟩, after, depth, rfl, ?_, located⟩
          simp [Placement.place, outline, outlineAll]
      | newestFirst =>
          refine ⟨before ++ [⟨depth, upper, comment⟩],
            outlineAll (depth + 1) (some comment.id) replies ++ after, depth, ?_, ?_, located⟩
          · simp [outline]
          · simp [Placement.place, outline, outlineAll]

/-- Nothing is lost or moved by growth. -/
theorem Grown.sublist {old new : List Placed} (grown : Grown parent reply placement old new) :
    old.Sublist new := by
  obtain ⟨before, after, depth, rfl, rfl, -⟩ := grown.block
  exact (List.sublist_append_left before _).append (List.Sublist.refl after)

/-- Growth adds the outline of the reply and nothing else. -/
theorem Grown.perm {old new : List Placed} (grown : Grown parent reply placement old new) :
    ∃ depth, (old.find? fun placed => placed.id == parent).map Placed.depth = some depth ∧
      new.Perm (old ++ reply.outline (depth + 1) (some parent)) := by
  obtain ⟨before, after, depth, rfl, rfl, located⟩ := grown.block
  refine ⟨depth, located, ?_⟩
  rw [List.append_assoc, List.append_assoc]
  exact List.perm_append_comm.append_left before

variable (parent reply placement)

mutual

/-- A thread takes a reply exactly if it has the comment that is answered. -/
theorem insert?_eq_none_iff : (thread : Thread) →
    (insert? parent reply placement thread = none ↔ parent ∉ Discussion.ids ⟨[thread]⟩)
  | ⟨comment, replies⟩ => by
      by_cases here : comment.id = parent
      · simp [insert?, here, Thread.id]
      · simp [insert?, here, insertAny?_eq_none_iff replies, Thread.id, Ne.symm here]

theorem insertAny?_eq_none_iff : (threads : List Thread) →
    (insertAny? parent reply placement threads = none ↔ parent ∉ Discussion.ids ⟨threads⟩)
  | [] => by simp [insertAny?]
  | thread :: rest => by
      have first := insert?_eq_none_iff thread
      have others := insertAny?_eq_none_iff rest
      simp only [Discussion.ids_cons, Discussion.ids_nil, List.append_nil] at first
      simp only [Discussion.ids_cons, ← List.cons_append, List.mem_append, not_or, ← first,
        ← others]
      cases inserted : insert? parent reply placement thread with
      | none => simp [insertAny?, inserted]
      | some grown => simp [insertAny?, inserted]

end

mutual

/-- A thread that takes a reply grows below the comment answered. -/
theorem grafted_of_insert? (depth : Nat) (upper : Option CommentId) : (thread : Thread) →
    {grown : Thread} → insert? parent reply placement thread = some grown →
      Grafted parent reply placement (thread.visits depth) (thread.outline depth upper)
        (grown.outline depth upper)
  | ⟨comment, replies⟩, grown, inserted => by
      by_cases here : comment.id = parent
      · simp only [insert?, if_pos here, Option.some.injEq] at inserted
        subst inserted
        have atRoot : Grafted parent reply placement (visits depth ⟨comment, replies⟩) _ _ :=
          .intro [] [] depth upper ⟨comment, replies⟩ (by simp) (by simp [visits, id, here])
        simpa using atRoot
      · simp only [insert?, if_neg here, Option.map_eq_some_iff] at inserted
        obtain ⟨deeper, inside, rfl⟩ := inserted
        have below := grafted_of_insertAny? (depth + 1) (some comment.id) replies inside
        have inner := below.within [⟨depth, upper, comment⟩] [] [(depth, ⟨comment, replies⟩)] []
          (by simpa [Placed.id] using here) (by simpa [id] using here)
        simpa [outline, visits] using inner

theorem grafted_of_insertAny? (depth : Nat) (upper : Option CommentId) : (threads : List Thread) →
    {grown : List Thread} → insertAny? parent reply placement threads = some grown →
      Grafted parent reply placement (visitsAll depth threads) (outlineAll depth upper threads)
        (outlineAll depth upper grown)
  | [], grown, inserted => by simp [insertAny?] at inserted
  | thread :: rest, grown, inserted => by
      cases head : insert? parent reply placement thread with
      | some taller =>
          simp only [insertAny?, head, Option.some.injEq] at inserted
          subst inserted
          have inner := (grafted_of_insert? depth upper thread head).within []
            (outlineAll depth upper rest) [] (visitsAll depth rest) (by simp) (by simp)
          simpa [outlineAll, visitsAll] using inner
      | none =>
          simp only [insertAny?, head, Option.map_eq_some_iff] at inserted
          obtain ⟨others, inside, rfl⟩ := inserted
          have absent := (insert?_eq_none_iff parent reply placement thread).mp head
          have clear : ∀ placed ∈ thread.outline depth upper, placed.id ≠ parent := by
            rw [Discussion.ids_eq_outlineAll depth upper] at absent
            rintro placed member rfl
            exact absent (List.mem_map_of_mem (by simpa [outlineAll] using member))
          have unfound : ∀ visit ∈ thread.visits depth, visit.2.id ≠ parent := by
            rw [Discussion.mem_ids_iff_visitsAll depth] at absent
            intro visit member same
            exact absent ⟨visit, by simpa [visitsAll] using member, same⟩
          have inner := (grafted_of_insertAny? depth upper rest inside).within
            (thread.outline depth upper) [] (thread.visits depth) [] clear unfound
          simpa [outlineAll, visitsAll] using inner

end

end Thread

namespace Discussion

/-- A reply fits below a comment: it repeats no id, none of its ids is in use, and the comment is
there. -/
def Fits (discussion : Discussion) (parent : CommentId) (reply : Thread) : Prop :=
  reply.ids.Nodup ∧ (∀ id ∈ reply.ids, id ∉ discussion.ids) ∧ parent ∈ discussion.ids

/-- Only the ids of the reply are tried: there are finitely many ids, but far too many. -/
instance (discussion : Discussion) (parent : CommentId) (reply : Thread) :
    Decidable (discussion.Fits parent reply) :=
  have : Decidable (∀ id ∈ reply.ids, id ∉ discussion.ids) := List.decidableBAll _ _
  instDecidableAnd

section

variable {discussion : Discussion} {seen before incoming : List CommentId} {id : CommentId}

theorem firstClash?_of_clash (clash : id ∈ seen ∨ id ∈ discussion.ids) (rest : List CommentId) :
    discussion.firstClash? seen (id :: rest) = some id := by
  simp [firstClash?, contains_iff, clash]

theorem firstClash?_of_quiet (quiet : ¬(id ∈ seen ∨ id ∈ discussion.ids)) (rest : List CommentId) :
    discussion.firstClash? seen (id :: rest) = discussion.firstClash? (id :: seen) rest := by
  simp only [firstClash?, List.contains_iff_mem, contains_iff, Bool.or_eq_true, quiet, if_false]

theorem firstClash?_eq_none_iff :
    discussion.firstClash? seen incoming = none ↔
      incoming.Nodup ∧ ∀ id ∈ incoming, id ∉ seen ∧ id ∉ discussion.ids := by
  induction incoming generalizing seen with
  | nil => simp [firstClash?]
  | cons id rest ih =>
      by_cases clash : id ∈ seen ∨ id ∈ discussion.ids
      · rw [firstClash?_of_clash clash]
        grind
      · rw [firstClash?_of_quiet clash, ih]
        grind

/-- The first id that clashes repeats an earlier one, or is in use. -/
def FirstClash (discussion : Discussion) (incoming : List CommentId) (id : CommentId) : Prop :=
  ∃ before after, incoming = before ++ id :: after ∧ (id ∈ before ∨ id ∈ discussion.ids) ∧
    before.Nodup ∧ ∀ earlier ∈ before, earlier ∉ discussion.ids

theorem firstClash?_eq_some (found : discussion.firstClash? seen incoming = some id) :
    ∃ before after, incoming = before ++ id :: after ∧
      (id ∈ seen ∨ id ∈ before ∨ id ∈ discussion.ids) ∧ before.Nodup ∧
        ∀ earlier ∈ before, earlier ∉ seen ∧ earlier ∉ discussion.ids := by
  induction incoming generalizing seen with
  | nil => simp [firstClash?] at found
  | cons first rest ih =>
      by_cases clash : first ∈ seen ∨ first ∈ discussion.ids
      · rw [firstClash?_of_clash clash, Option.some.injEq] at found
        subst found
        exact ⟨[], rest, rfl, by simpa using clash, List.nodup_nil, by simp⟩
      · rw [firstClash?_of_quiet clash] at found
        obtain ⟨before, after, rfl, cause, distinct, fresh⟩ := ih found
        have passed : first ∉ before := fun again => (fresh first again).1 List.mem_cons_self
        refine ⟨first :: before, after, rfl, ?_, List.nodup_cons.mpr ⟨passed, distinct⟩, ?_⟩
        · grind
        · grind

theorem firstClash?_append (after : List CommentId)
    (cause : id ∈ seen ∨ id ∈ before ∨ id ∈ discussion.ids) (distinct : before.Nodup)
    (fresh : ∀ earlier ∈ before, earlier ∉ seen ∧ earlier ∉ discussion.ids) :
    discussion.firstClash? seen (before ++ id :: after) = some id := by
  induction before generalizing seen with
  | nil => exact firstClash?_of_clash (by simpa using cause) after
  | cons first rest ih =>
      obtain ⟨passed, distinct⟩ := List.nodup_cons.mp distinct
      obtain ⟨⟨unseen, unused⟩, fresh⟩ := List.forall_mem_cons.mp fresh
      have quiet : ¬(first ∈ seen ∨ first ∈ discussion.ids) := by simp [unseen, unused]
      rw [List.cons_append, firstClash?_of_quiet quiet]
      refine ih ?_ distinct fun earlier member => ?_
      · grind
      · grind

/-- The search for a clash finds the first one. -/
theorem firstClash?_eq_some_iff :
    discussion.firstClash? [] incoming = some id ↔ discussion.FirstClash incoming id := by
  constructor
  · intro found
    obtain ⟨before, after, split, cause, distinct, fresh⟩ := firstClash?_eq_some found
    exact ⟨before, after, split, by simpa using cause, distinct,
      fun earlier member => (fresh earlier member).2⟩
  · rintro ⟨before, after, rfl, cause, distinct, fresh⟩
    exact firstClash?_append after (.inr cause) distinct
      fun earlier member => ⟨by simp, fresh earlier member⟩

end

/-- An id is the first in a list to occur earlier in it. -/
def FirstRepeat (ids : List CommentId) (id : CommentId) : Prop :=
  ∃ before after, ids = before ++ id :: after ∧ id ∈ before ∧ before.Nodup

/-- A repeated id clashes where nothing is in use yet. -/
theorem firstClash_empty_iff {ids : List CommentId} {id : CommentId} :
    FirstClash {} ids id ↔ FirstRepeat ids id := by
  simp [FirstClash, FirstRepeat]

theorem firstRepeat?_eq_firstClash? (seen ids : List CommentId) :
    firstRepeat? seen ids = firstClash? {} seen ids := by
  induction ids generalizing seen with
  | nil => rfl
  | cons id rest ih =>
      have unused : contains {} id = false := by simp [← Bool.not_eq_true, contains_iff]
      simp [firstRepeat?, firstClash?, unused, ih]

/-- Threads are refused as a discussion exactly for the first id that repeats. -/
theorem ofThreads_eq_error_iff {threads : List Thread} {cause : DiscussionError} :
    ofThreads threads = .error cause ↔
      ∃ id, FirstRepeat (ids ⟨threads⟩) id ∧ cause = .idInUse id := by
  have searched : ofThreads threads = .error cause ↔
      ∃ id, firstRepeat? [] (ids ⟨threads⟩) = some id ∧ cause = .idInUse id := by
    rw [ofThreads]
    cases firstRepeat? [] (ids ⟨threads⟩) with
    | none => simp
    | some id => simp [eq_comm]
  simp only [searched, firstRepeat?_eq_firstClash?, firstClash?_eq_some_iff, firstClash_empty_iff]

/-- A reply clashes nowhere exactly if it repeats no id and has none that is in use. -/
theorem forall_not_firstClash_iff {discussion : Discussion} {incoming : List CommentId} :
    (∀ id, ¬discussion.FirstClash incoming id) ↔
      incoming.Nodup ∧ ∀ id ∈ incoming, id ∉ discussion.ids := by
  simp only [← firstClash?_eq_some_iff, ← Option.eq_none_iff_forall_ne_some,
    firstClash?_eq_none_iff, List.not_mem_nil, not_false_eq_true, true_and]

/-- Where some id occurs twice, one is the first to do so. -/
theorem exists_firstRepeat_iff {ids : List CommentId} :
    (∃ id, FirstRepeat ids id) ↔ ¬ids.Nodup := by
  have unused : ∀ id ∈ ids, id ∉ Discussion.ids {} := by simp
  rw [← not_iff_not, not_exists, not_not]
  simp only [← firstClash_empty_iff, forall_not_firstClash_iff]
  exact and_iff_left unused

/-- A reply that fits is put below the comment that is answered. -/
theorem grafted_of_fits {discussion : Discussion} {parent : CommentId} {reply : Thread}
    (placement : Placement) (fits : discussion.Fits parent reply) :
    ∃ grown, discussion.addReply parent reply placement = .ok grown ∧
      Thread.Grafted parent reply placement discussion.visits discussion.outline grown.outline := by
  obtain ⟨distinct, fresh, present⟩ := fits
  have unclashed : discussion.firstClash? [] reply.ids = none :=
    firstClash?_eq_none_iff.mpr ⟨distinct, fun id member => ⟨by simp, fresh id member⟩⟩
  cases inserted : Thread.insertAny? parent reply placement discussion.threads with
  | none =>
      have absent := (Thread.insertAny?_eq_none_iff parent reply placement _).mp inserted
      exact absurd present absent
  | some threads =>
      refine ⟨⟨threads⟩, by simp [addReply, unclashed, inserted], ?_⟩
      rw [visits_eq]
      exact Thread.grafted_of_insertAny? parent reply placement 0 none _ inserted

/-- A reply that fits makes the discussion grow. -/
theorem addReply_of_fits {discussion : Discussion} {parent : CommentId} {reply : Thread}
    (placement : Placement) (fits : discussion.Fits parent reply) :
    ∃ grown, discussion.addReply parent reply placement = .ok grown ∧
      Thread.Grown parent reply placement discussion.outline grown.outline := by
  obtain ⟨grown, accepted, grafted⟩ := grafted_of_fits placement fits
  exact ⟨grown, accepted, grafted.grown⟩

/-- A reply that does not fit is refused. -/
theorem addReply_of_not_fits {discussion : Discussion} {parent : CommentId} {reply : Thread}
    (placement : Placement) (misfit : ¬discussion.Fits parent reply) :
    ∃ cause, discussion.addReply parent reply placement = .error cause := by
  cases clash : discussion.firstClash? [] reply.ids with
  | some id => exact ⟨.idInUse id, by simp [addReply, clash]⟩
  | none =>
      obtain ⟨distinct, fresh⟩ := firstClash?_eq_none_iff.mp clash
      have absent : parent ∉ discussion.ids := fun present =>
        misfit ⟨distinct, fun id member => (fresh id member).2, present⟩
      have refused := (Thread.insertAny?_eq_none_iff parent reply placement _).mpr absent
      exact ⟨.noSuchParent parent, by simp [addReply, clash, refused]⟩

/-- A discussion that grows has the ids that it had, and those of the reply. -/
theorem ids_perm_of_grown {discussion grown : Discussion} {parent : CommentId} {reply : Thread}
    {placement : Placement}
    (growth : Thread.Grown parent reply placement discussion.outline grown.outline) :
    grown.ids.Perm (discussion.ids ++ reply.ids) := by
  obtain ⟨depth, -, added⟩ := growth.perm
  rw [ids_eq_outline, ids_eq_outline, reply.ids_eq_outline (depth + 1) (some parent),
    ← List.map_append]
  exact added.map Placed.id

/-- No id occurs twice after a reply that fits was put into the discussion. -/
theorem ids_nodup_of_grown {discussion grown : Discussion} {parent : CommentId} {reply : Thread}
    {placement : Placement} (distinct : discussion.ids.Nodup)
    (fits : discussion.Fits parent reply)
    (growth : Thread.Grown parent reply placement discussion.outline grown.outline) :
    grown.ids.Nodup := by
  rw [(ids_perm_of_grown growth).nodup_iff, List.nodup_append]
  refine ⟨distinct, fits.1, ?_⟩
  rintro id known _ incoming rfl
  exact fits.2.1 id incoming known

/-- The number of ancestors can be read off the outline. -/
theorem depth?_eq_outline (discussion : Discussion) (id : CommentId) :
    discussion.depth? id =
      (discussion.outline.find? fun placed => placed.id == id).map Placed.depth := by
  have walked : (discussion.walk.find? fun entry => entry.2.id == id).map Prod.fst =
      discussion.depth? id := by
    simp [walk, depth?, List.find?_map, Function.comp_def, Thread.id]
  rw [← walked, walk_eq_outline]
  simp [List.find?_map, Function.comp_def, Placed.id]

end Discussion

end Colloquy
