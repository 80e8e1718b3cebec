import Colloquy.Proofs.Listing.Entry

/-!
# What conversion keeps

The thread of an entry has the shape of the entry: one comment for each comment received, under the
same parent and between the same neighbours, and each restates what was received in its place. The
loop that converts the replies from a stack finds this thread, and it ends after a number of turns
that depends only on the number of comments.
-/

namespace Colloquy.Listing

variable (now : Instant)

/-! ## Comments -/

/-- The handle of an author, given bare or in a profile. -/
inductive HasHandle : Author → String → Prop where
  | bare (name : String) : HasHandle (.handle name) name
  | profile (username : String) : HasHandle (.profile username) username

/-- The label of a comment as seen from a moment: the label that was received; without one, the age
of the time of writing; and nothing if that is missing too or cannot be read. -/
inductive Labels (content : Content) : String → Prop where
  | received {label : String} (given : content.label = some label) : Labels content label
  | derived {written : String} {instant : Instant} (missing : content.label = none)
      (dated : content.createdAt = some written) (read : Timestamp.parse? written = some instant) :
      Labels content (Age.label instant now)
  | unknown (missing : content.label = none)
      (undated : ∀ written, content.createdAt = some written → Timestamp.parse? written = none) :
      Labels content ""

/-- A comment says what was received. -/
structure Restates (content : Content) (comment : Comment) : Prop where
  id : comment.id = content.id
  author : HasHandle content.author comment.author
  body : comment.body = content.body
  label : Labels now content comment.label
  score : comment.score = content.score
  byPostAuthor : comment.byPostAuthor = content.byPostAuthor

theorem hasHandle_iff {author : Author} {name : String} :
    HasHandle author name ↔ name = author.name := by
  constructor
  · intro named
    cases named with
    | bare name => rfl
    | profile username => rfl
  · intro same
    subst same
    cases author with
    | handle name => exact .bare name
    | profile username => exact .profile username

theorem labels_ageLabel (content : Content) : Labels now content (content.ageLabel now) := by
  rw [Content.ageLabel]
  split
  case h_1 given => exact .received given
  case h_2 written missing dated =>
      split
      case h_1 instant read => exact .derived missing dated read
      case h_2 unread =>
          apply Labels.unknown missing
          intro other same
          rw [dated, Option.some.injEq] at same
          rw [← same, unread]
  case h_3 missing undated =>
      apply Labels.unknown missing
      intro written dated
      rw [undated] at dated
      contradiction

/-- A comment has one label at a time. -/
theorem labels_iff {content : Content} {label : String} :
    Labels now content label ↔ label = content.ageLabel now := by
  constructor
  · intro labels
    cases labels with
    | received given => simp [Content.ageLabel, given]
    | derived missing dated read => simp [Content.ageLabel, missing, dated, read]
    | unknown missing undated =>
        cases dated : content.createdAt with
        | none => simp [Content.ageLabel, missing, dated]
        | some written => simp [Content.ageLabel, missing, dated, undated written dated]
  · intro same
    subst same
    exact labels_ageLabel now content

/-- What was received is restated by one comment only. -/
theorem restates_iff {content : Content} {comment : Comment} :
    Restates now content comment ↔ comment = content.comment now := by
  constructor
  · intro restates
    cases comment with
    | mk id author body label score byPostAuthor =>
        rw [Content.comment, Comment.mk.injEq]
        exact ⟨restates.id, hasHandle_iff.mp restates.author, restates.body,
          (labels_iff now).mp restates.label, restates.score, restates.byPostAuthor⟩
  · intro same
    subst same
    exact ⟨rfl, hasHandle_iff.mpr rfl, rfl, (labels_iff now).mpr rfl, rfl, rfl⟩

/-! ## Threads -/

mutual

/-- A thread restates an entry, comment by comment. -/
inductive Mirrors : Entry → Thread → Prop where
  | node {content : Content} {comment : Comment} {replies : List Entry} {threads : List Thread}
      (restates : Restates now content comment) (below : MirrorsAll replies threads) :
      Mirrors ⟨content, replies⟩ ⟨comment, threads⟩

/-- Threads restate as many entries in the same order. -/
inductive MirrorsAll : List Entry → List Thread → Prop where
  | nil : MirrorsAll [] []
  | cons {entry : Entry} {thread : Thread} {entries : List Entry} {threads : List Thread}
      (first : Mirrors entry thread) (others : MirrorsAll entries threads) :
      MirrorsAll (entry :: entries) (thread :: threads)

end

mutual

theorem mirrors_convert : (entry : Entry) → Mirrors now entry (entry.convert now)
  | ⟨_, replies⟩ => .node ((restates_iff now).mpr rfl) (mirrorsAll_convertAll replies)

theorem mirrorsAll_convertAll :
    (entries : List Entry) → MirrorsAll now entries (Entry.convertAll now entries)
  | [] => .nil
  | entry :: rest => .cons (mirrors_convert entry) (mirrorsAll_convertAll rest)

end

mutual

theorem Mirrors.eq_convert {entry : Entry} {thread : Thread} :
    Mirrors now entry thread → thread = entry.convert now
  | .node restates below => by
      rw [Entry.convert, (restates_iff now).mp restates, below.eq_convertAll]

theorem MirrorsAll.eq_convertAll {entries : List Entry} {threads : List Thread} :
    MirrorsAll now entries threads → threads = Entry.convertAll now entries
  | .nil => rfl
  | .cons first others => by
      rw [Entry.convertAll, first.eq_convert, others.eq_convertAll]

end

/-! ## Turns -/

namespace Entry

/-- The thread that conversion comes to within so many turns of its loop. In a turn it starts on the
next reply, or puts a finished thread below its parent, or is done. -/
def convertWithin : Nat → OpenThread → List OpenThread → Option Thread
  | 0, _, _ => none
  | turns + 1, ⟨comment, done, child :: rest⟩, ancestors =>
      convertWithin turns (start now child) (⟨comment, done, rest⟩ :: ancestors)
  | turns + 1, ⟨comment, done, []⟩, parent :: outer =>
      convertWithin turns (parent.resume ⟨comment, done.reverse⟩) outer
  | _ + 1, ⟨comment, done, []⟩, [] => some ⟨comment, done.reverse⟩

/-- The turns before the last one: two for each comment still to convert, one to start on it and one
to put it below its parent, and one for each thread that waits. -/
def turnsLeft (current : OpenThread) (ancestors : List OpenThread) : Nat :=
  2 * pendingSize (current :: ancestors) + ancestors.length

section Turns

variable (comment : Comment) (done : List Thread)

/-- A turn that starts on a reply leaves one turn less. -/
theorem turnsLeft_start (child : Entry) (rest : List Entry) (ancestors : List OpenThread) :
    turnsLeft ⟨comment, done, child :: rest⟩ ancestors =
      turnsLeft (start now child) (⟨comment, done, rest⟩ :: ancestors) + 1 := by
  cases child
  simp only [turnsLeft, pendingSize, start, sizeAll, size, List.length_cons]
  omega

/-- A turn that finishes a thread leaves one turn less. -/
theorem turnsLeft_resume (parent : OpenThread) (outer : List OpenThread) :
    turnsLeft ⟨comment, done, []⟩ (parent :: outer) =
      turnsLeft (parent.resume ⟨comment, done.reverse⟩) outer + 1 := by
  simp only [turnsLeft, pendingSize, OpenThread.resume, sizeAll, List.length_cons]
  omega

theorem convertOpen_start (child : Entry) (rest : List Entry) (ancestors : List OpenThread) :
    convertOpen now ⟨comment, done, child :: rest⟩ ancestors =
      convertOpen now (start now child) (⟨comment, done, rest⟩ :: ancestors) := by
  rw [convertOpen.eq_def]

theorem convertOpen_resume (parent : OpenThread) (outer : List OpenThread) :
    convertOpen now ⟨comment, done, []⟩ (parent :: outer) =
      convertOpen now (parent.resume ⟨comment, done.reverse⟩) outer := by
  rw [convertOpen]
  rfl

theorem convertOpen_done : convertOpen now ⟨comment, done, []⟩ [] = ⟨comment, done.reverse⟩ := by
  rw [convertOpen]
  rfl

end Turns

/-- The loop ends in its last turn, which the comments still to convert tell in advance. -/
theorem convertWithin_eq (turns : Nat) (current : OpenThread) (ancestors : List OpenThread) :
    convertWithin now turns current ancestors =
      if turnsLeft current ancestors < turns then some (convertOpen now current ancestors)
      else none := by
  induction turns generalizing current ancestors with
  | zero => rfl
  | succ turns ih =>
      obtain ⟨comment, done, pending⟩ := current
      cases pending with
      | cons child rest =>
          rw [convertWithin, ih, turnsLeft_start now, convertOpen_start]
          simp only [Nat.add_lt_add_iff_right]
      | nil =>
          cases ancestors with
          | cons parent outer =>
              rw [convertWithin, ih, turnsLeft_resume, convertOpen_resume]
              simp only [Nat.add_lt_add_iff_right]
          | nil =>
              rw [convertWithin, convertOpen_done]
              simp [turnsLeft, pendingSize, sizeAll]

/-- Whatever the depth and the width of an entry, its conversion ends, after a last turn that follows
two turns for each comment below the first; and it gives the one thread that restates the entry:
each comment on its own, with the replies in their order. -/
theorem toThread_mirrors (entry : Entry) :
    (∀ turns, convertWithin now turns (start now entry) [] =
      if 2 * entry.size ≤ turns + 1 then some (entry.toThread now) else none) ∧
    ∀ thread, entry.toThread now = thread ↔ Mirrors now entry thread := by
  constructor
  · intro turns
    have last : turnsLeft (start now entry) [] < turns ↔ 2 * entry.size ≤ turns + 1 := by
      cases entry
      simp only [turnsLeft, pendingSize, start, size, List.length_nil]
      omega
    rw [convertWithin_eq, toThread]
    simp only [last]
  · intro thread
    rw [toThread_eq]
    constructor
    · intro same
      exact same ▸ mirrors_convert now entry
    · intro mirrors
      exact mirrors.eq_convert.symm

end Entry

end Colloquy.Listing
