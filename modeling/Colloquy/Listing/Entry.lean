import Colloquy.Calendar.Age
import Colloquy.Calendar.Timestamp
import Colloquy.Discussion.Walk

/-!
# Entries of a listing

A comment as the backend describes it. The names of its fields are not settled, so most have
aliases; an author is a handle or a profile that holds one. The label that tells the age is taken as
it comes, or else derived from the time of writing.
-/

namespace Colloquy.Listing

/-- Who wrote a comment: a bare handle, or a profile with the handle in it. -/
inductive Author where
  | handle (name : String)
  | profile (username : String)
  deriving DecidableEq, Repr, Inhabited

/-- The handle of an author. -/
def Author.name : Author → String
  | handle name => name
  | profile username => username

/-- A comment as received, without its replies. -/
structure Content where
  id : CommentId
  author : Author
  body : String
  label : Option String
  createdAt : Option String
  score : Int64
  byPostAuthor : Bool
  deriving DecidableEq, Repr, Inhabited

/-- A comment as received, with its replies. -/
structure Entry where
  content : Content
  replies : List Entry
  deriving Repr, Inhabited

/-- The label of a comment: the one received, or the age of its time of writing if that can be
read. -/
def Content.ageLabel (content : Content) (now : Instant) : String :=
  match content.label, content.createdAt with
  | some label, _ => label
  | none, some written =>
      match Timestamp.parse? written with
      | some instant => Age.label instant now
      | none => ""
  | none, none => ""

/-- The comment that a received one stands for. -/
def Content.comment (content : Content) (now : Instant) : Comment where
  id := content.id
  author := content.author.name
  body := content.body
  label := content.ageLabel now
  score := content.score
  byPostAuthor := content.byPostAuthor

namespace Entry

mutual

/-- Number of comments in an entry. -/
def size : Entry → Nat
  | ⟨_, replies⟩ => 1 + sizeAll replies

/-- Number of comments in several entries. -/
def sizeAll : List Entry → Nat
  | [] => 0
  | entry :: rest => entry.size + sizeAll rest

end

mutual

/-- The thread of an entry, each comment converted on its own. -/
def convert (now : Instant) : Entry → Thread
  | ⟨content, replies⟩ => ⟨content.comment now, convertAll now replies⟩

/-- The threads of several entries. -/
def convertAll (now : Instant) : List Entry → List Thread
  | [] => []
  | entry :: rest => entry.convert now :: convertAll now rest

end

/-- A thread under way: its comment, the finished threads of its replies with the last one first,
and the replies still to convert. -/
structure OpenThread where
  comment : Comment
  done : List Thread
  pending : List Entry

/-- Start on an entry. -/
def start (now : Instant) (entry : Entry) : OpenThread :=
  ⟨entry.content.comment now, [], entry.replies⟩

/-- The finished thread. -/
def OpenThread.close (thread : OpenThread) : Thread :=
  ⟨thread.comment, thread.done.reverse⟩

/-- Number of comments still to convert in threads under way. -/
def pendingSize : List OpenThread → Nat
  | [] => 0
  | thread :: rest => sizeAll thread.pending + pendingSize rest

/-- Convert what is pending, from the innermost thread outwards. The ancestors of the current
thread wait on a stack, the innermost first. -/
def convertOpen (now : Instant) (current : OpenThread) (ancestors : List OpenThread) : Thread :=
  match _pending : current.pending with
  | child :: rest =>
      convertOpen now (start now child) ({ current with pending := rest } :: ancestors)
  | [] =>
      match ancestors with
      | parent :: outer =>
          convertOpen now { parent with done := current.close :: parent.done } outer
      | [] => current.close
  termination_by 2 * pendingSize (current :: ancestors) + ancestors.length
  decreasing_by
    · cases child
      simp only [pendingSize, start, _pending, sizeAll, size, List.length_cons]
      omega
    · simp only [pendingSize, _pending, sizeAll, List.length_cons]
      omega

/-- The thread of an entry, converted without recursion into the replies. -/
def toThread (entry : Entry) (now : Instant) : Thread :=
  convertOpen now (entry.start now) []

end Entry

end Colloquy.Listing
