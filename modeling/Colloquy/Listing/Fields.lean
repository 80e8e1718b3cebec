import Colloquy.Listing.Entry
import Colloquy.Listing.Mismatch

/-!
# Fields

The fields of a comment as they are met, and the values that stand in them.
-/

namespace Colloquy.Listing

/-- The id that a number is. -/
def identifier (number : JsonNumber) : Decoded CommentId :=
  match number with
  | .natural value => .ok value
  | .negative _ => refuse (.outOfRange (.ofNumber number) .identifier)
  | .float _ => refuse (.wrongType (.ofNumber number) .identifier)

/-- The score that a number is. -/
def score (number : JsonNumber) : Decoded Int64 :=
  match number with
  | .natural value =>
      if value < 0x8000000000000000 then .ok (Int64.ofInt value.toNat)
      else refuse (.outOfRange (.ofNumber number) .score)
  | .negative value => .ok value
  | .float _ => refuse (.wrongType (.ofNumber number) .score)

/-- The handle in the members of a profile: exactly one username, which is a string. -/
def profile? (members : List (String × Json)) : Option Author :=
  match members.filter fun member => member.1 == "username" with
  | [(_, .string username)] => some (.profile username)
  | _ => none

/-- The author that a value is. -/
def author (value : Json) : Decoded Author :=
  match value with
  | .string handle => .ok (.handle handle)
  | .object members =>
      match profile? members with
      | some author => .ok author
      | none => refuse .unknownAuthor
  | _ => refuse .unknownAuthor

/-- The fields of a comment that have been met. -/
structure Fields where
  id : Option CommentId := none
  author : Option Author := none
  body : Option String := none
  label : Option (Option String) := none
  createdAt : Option (Option String) := none
  score : Option Int64 := none
  byPostAuthor : Option Bool := none
  replies : Option (List Entry) := none

namespace Fields

/-- Whether a field has been met. -/
def has (fields : Fields) : Field → Bool
  | .id => fields.id.isSome
  | .author => fields.author.isSome
  | .body => fields.body.isSome
  | .label => fields.label.isSome
  | .createdAt => fields.createdAt.isSome
  | .score => fields.score.isSome
  | .byPostAuthor => fields.byPostAuthor.isSome
  | .replies => fields.replies.isSome

/-- A field that must have been met. -/
def require (field : Field) : Option α → Decoded α
  | some value => .ok value
  | none => refuse (.missingField field)

/-- The comment that the fields make; id, author and body must be there. -/
def entry (fields : Fields) : Decoded Entry := do
  let id ← require .id fields.id
  let author ← require .author fields.author
  let body ← require .body fields.body
  .ok
    { content :=
        { id, author, body
          label := fields.label.getD none
          createdAt := fields.createdAt.getD none
          score := fields.score.getD 0
          byPostAuthor := fields.byPostAuthor.getD false }
      replies := fields.replies.getD [] }

end Fields

end Colloquy.Listing
