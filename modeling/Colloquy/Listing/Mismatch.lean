import Colloquy.Json.Reading
import Colloquy.Text.Debug

/-!
# Mismatches

The fields of a comment by name, and what can be wrong with JSON that should be a comment. The first
thing wrong in the order of reading is reported.
-/

namespace Colloquy.Listing

/-- The fields of a comment, in the order in which they are declared. -/
inductive Field where
  | id
  | author
  | body
  | label
  | createdAt
  | score
  | byPostAuthor
  | replies
  deriving DecidableEq, Repr, Inhabited

namespace Field

/-- The name of a field. -/
def name : Field → String
  | id => "id"
  | author => "authorHandle"
  | body => "bodyText"
  | label => "createdAtLabel"
  | createdAt => "createdAt"
  | score => "score"
  | byPostAuthor => "isOriginalPoster"
  | replies => "children"

/-- Other names of a field. -/
def aliases : Field → List String
  | id => []
  | author => ["author"]
  | body => ["content", "text"]
  | label => ["timeAgo"]
  | createdAt => []
  | score => ["votes"]
  | byPostAuthor => ["isOp"]
  | replies => ["replies"]

/-- Every field in the order of declaration. -/
def all : List Field :=
  [id, author, body, label, createdAt, score, byPostAuthor, replies]

/-- Whether every comment must have the field. -/
def isRequired : Field → Bool
  | id | author | body => true
  | label | createdAt | score | byPostAuthor | replies => false

/-- The field that a key names. -/
def ofKey? (key : String) : Option Field :=
  all.find? fun field => field.name == key || field.aliases.contains key

end Field

/-- What is found in place of something else. -/
inductive Found where
  | null
  | bool (value : Bool)
  | integer (value : Int)
  | float (value : Float)
  | string (value : String)
  | sequence
  | map

/-- The words for what is found. -/
def Found.describe : Found → String
  | null => "null"
  | bool value => "boolean `" ++ toString value ++ "`"
  | integer value => "integer `" ++ toString value ++ "`"
  | float value => "floating point `" ++ JsonNumber.floatText value ++ "`"
  | string value => "string " ++ Text.quoted value
  | sequence => "sequence"
  | map => "map"

/-- What is found where a number stands. -/
def Found.ofNumber : JsonNumber → Found
  | .natural value => .integer value.toNat
  | .negative value => .integer value.toInt
  | .float value => .float value

/-- What is wanted in a place. -/
inductive Wanted where
  | identifier
  | score
  | text
  | flag
  | sequence
  | comment
  deriving DecidableEq, Repr

/-- The words for what is wanted. -/
def Wanted.describe : Wanted → String
  | identifier => "u64"
  | score => "i64"
  | text => "a string"
  | flag => "a boolean"
  | sequence => "a sequence"
  | comment => "struct WireComment"

/-- What is wrong with a value that is JSON but no comment. -/
inductive Mismatch where
  | wrongType (found : Found) (wanted : Wanted)
  | outOfRange (found : Found) (wanted : Wanted)
  | duplicateField (field : Field)
  | missingField (field : Field)
  /-- Neither a handle nor a profile. -/
  | unknownAuthor
  /-- A comment written as an array that ends before a field it must have. -/
  | tooFewItems (count : Nat)
  /-- An array with items to spare. -/
  | tooManyItems (count : Nat)

/-- The text of a mismatch. -/
def Mismatch.message : Mismatch → String
  | wrongType found wanted => "invalid type: " ++ found.describe ++ ", expected " ++ wanted.describe
  | outOfRange found wanted =>
      "invalid value: " ++ found.describe ++ ", expected " ++ wanted.describe
  | duplicateField field => "duplicate field `" ++ field.name ++ "`"
  | missingField field => "missing field `" ++ field.name ++ "`"
  | unknownAuthor => "data did not match any variant of untagged enum WireAuthor"
  | tooFewItems count =>
      "invalid length " ++ toString count ++ ", expected struct WireComment with 8 elements"
  | tooManyItems count =>
      "invalid length " ++ toString count ++ ", expected fewer elements in array"

/-- Why comments cannot be decoded: their text is no JSON, or it is and means something else. -/
inductive DecodeError where
  | unreadable (fault : JsonFault)
  | mismatch (cause : Mismatch)

/-- The result of decoding. -/
abbrev Decoded := Except DecodeError

/-- Refuse a value for what it means. -/
def refuse (cause : Mismatch) : Decoded α := .error (.mismatch cause)

end Colloquy.Listing
