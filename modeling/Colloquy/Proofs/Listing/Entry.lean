import Colloquy.Listing.Entry

/-!
# Converting entries

Entries are converted from a stack of threads under way. What comes out is the same tree of
comments, in the same order, each comment converted on its own.
-/

namespace Colloquy.Listing.Entry

variable (now : Instant)

/-- The thread that a thread under way becomes when what is pending has been converted. -/
def OpenThread.finished (thread : OpenThread) : Thread :=
  ⟨thread.comment, thread.done.reverse ++ convertAll now thread.pending⟩

/-- A thread under way after its next reply is finished. -/
def OpenThread.resume (parent : OpenThread) (reply : Thread) : OpenThread :=
  { parent with done := reply :: parent.done }

theorem finished_start (entry : Entry) : (start now entry).finished now = entry.convert now := by
  obtain ⟨content, replies⟩ := entry
  simp [start, OpenThread.finished, convert]

theorem finished_of_done {thread : OpenThread} (done : thread.pending = []) :
    thread.finished now = thread.close := by
  simp [OpenThread.finished, OpenThread.close, done, convertAll]

/-- The next reply takes its place behind those that are done. -/
theorem finished_of_pending {thread : OpenThread} {reply : Entry} {rest : List Entry}
    (pending : thread.pending = reply :: rest) :
    (({ thread with pending := rest } : OpenThread).resume (reply.convert now)).finished now =
      thread.finished now := by
  simp [OpenThread.finished, OpenThread.resume, pending, convertAll]

/-- The innermost thread is finished first, then those around it from the inside outwards. -/
theorem convertOpen_eq (current : OpenThread) (ancestors : List OpenThread) :
    convertOpen now current ancestors =
      ancestors.foldl (fun reply parent => (parent.resume reply).finished now)
        (current.finished now) := by
  fun_induction convertOpen now current ancestors with
  | case1 current ancestors child rest pending ih =>
      rw [ih, List.foldl_cons, finished_start, finished_of_pending now pending]
  | case2 current pending parent outer ih =>
      rw [ih, List.foldl_cons, finished_of_done now pending]
      rfl
  | case3 current pending => exact (finished_of_done now pending).symm

/-- An entry becomes the thread of its comment and the threads of its replies. -/
theorem toThread_eq (entry : Entry) : entry.toThread now = entry.convert now := by
  rw [toThread, convertOpen_eq, finished_start]
  rfl

theorem map_toThread (entries : List Entry) :
    (entries.map fun entry => entry.toThread now) = convertAll now entries := by
  induction entries with
  | nil => rfl
  | cons entry rest ih => rw [List.map_cons, toThread_eq, ih, convertAll]

end Colloquy.Listing.Entry
