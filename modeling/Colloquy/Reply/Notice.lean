/-!
# Notices

Short notices of what succeeded and what failed. At most four are kept, the oldest giving way to a
new one, and each for a limited time.
-/

namespace Colloquy

/-- Whether a notice reports a success or a failure. -/
inductive NoticeLevel where
  | success
  | error
  deriving DecidableEq, Repr, Inhabited

/-- What a notice says, whenever it is given. -/
structure Announcement where
  level : NoticeLevel
  message : String
  deriving DecidableEq, Repr, Inhabited

/-- A notice, with the time at which it was given in nanoseconds. -/
structure Notice where
  level : NoticeLevel
  message : String
  created : Nat
  deriving DecidableEq, Repr, Inhabited

/-- The notices that are shown, oldest first, and how long each is shown in nanoseconds. -/
structure Notices where
  lifetime : Nat := 4000000000
  shown : List Notice := []
  deriving DecidableEq, Repr, Inhabited

/-- The notice that is given for an announcement. -/
def Announcement.notice (announcement : Announcement) (now : Nat) : Notice :=
  ⟨announcement.level, announcement.message, now⟩

namespace Notices

/-- The greatest number of notices shown. -/
def capacity : Nat := 4

/-- Add a notice; the oldest one goes if there are too many. -/
def push (queue : Notices) (notice : Notice) : Notices :=
  let kept := if queue.shown.length = capacity then queue.shown.drop 1 else queue.shown
  { queue with shown := kept ++ [notice] }

/-- Give the notices for what is announced, one after the other. -/
def announce (queue : Notices) (made : List Announcement) (now : Nat) : Notices :=
  made.foldl (fun given announcement => given.push (announcement.notice now)) queue

/-- Whether a notice is still shown. One from the future has no age. -/
def isFresh (queue : Notices) (now : Nat) (notice : Notice) : Bool :=
  now - notice.created < queue.lifetime

/-- Drop the notices that have been shown long enough; tells whether there were any. -/
def dropExpired (queue : Notices) (now : Nat) : Notices × Bool :=
  let kept := queue.shown.filter (queue.isFresh now)
  ({ queue with shown := kept }, kept.length ≠ queue.shown.length)

/-- The newest notice. -/
def latest? (queue : Notices) : Option Notice :=
  queue.shown.getLast?

end Notices

end Colloquy
