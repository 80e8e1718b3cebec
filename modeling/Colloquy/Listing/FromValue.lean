import Colloquy.Listing.Fields

/-!
# Comments from JSON values

A comment decoded from a JSON value that has been read in full. The members of an object are taken
in the order of their keys. A comment may also be an array of its fields in the order of
declaration, in which trailing fields that have a default may be left out.
-/

namespace Colloquy.Listing

/-- What a value is found to be. -/
def Found.ofJson : Json → Found
  | .null => .null
  | .bool value => .bool value
  | .number value => .ofNumber value
  | .string value => .string value
  | .array _ => .sequence
  | .object _ => .map

/-- The text that a value is. -/
def textOfJson (value : Json) : Decoded String :=
  match value with
  | .string text => .ok text
  | _ => refuse (.wrongType (.ofJson value) .text)

/-- The text that a value is, unless it is null. -/
def optionalTextOfJson (value : Json) : Decoded (Option String) :=
  match value with
  | .null => .ok none
  | _ => (textOfJson value).map some

/-- The id that a value is. -/
def identifierOfJson (value : Json) : Decoded CommentId :=
  match value with
  | .number number => identifier number
  | _ => refuse (.wrongType (.ofJson value) .identifier)

/-- The score that a value is. -/
def scoreOfJson (value : Json) : Decoded Int64 :=
  match value with
  | .number number => score number
  | _ => refuse (.wrongType (.ofJson value) .score)

/-- The flag that a value is. -/
def flagOfJson (value : Json) : Decoded Bool :=
  match value with
  | .bool flag => .ok flag
  | _ => refuse (.wrongType (.ofJson value) .flag)

/-- Take the value of a field that holds no comments. -/
def Fields.takeJson (fields : Fields) (field : Field) (value : Json) : Decoded Fields :=
  match field with
  | .id => (identifierOfJson value).map fun id => { fields with id := some id }
  | .author => (Listing.author value).map fun author => { fields with author := some author }
  | .body => (textOfJson value).map fun body => { fields with body := some body }
  | .label => (optionalTextOfJson value).map fun label => { fields with label := some label }
  | .createdAt =>
      (optionalTextOfJson value).map fun createdAt => { fields with createdAt := some createdAt }
  | .score => (scoreOfJson value).map fun score => { fields with score := some score }
  | .byPostAuthor =>
      (flagOfJson value).map fun flag => { fields with byPostAuthor := some flag }
  | .replies => refuse (.wrongType (.ofJson value) .sequence)

mutual

/-- The comment that a value is. -/
def entryOfJson : Json → Decoded Entry
  | .object members => do (← fieldsOfMembers {} members).entry
  | .array items => do (← fieldsOfItems items.length Field.all {} 0 items).entry
  | .null => refuse (.wrongType .null .comment)
  | .bool value => refuse (.wrongType (.bool value) .comment)
  | .number value => refuse (.wrongType (.ofNumber value) .comment)
  | .string value => refuse (.wrongType (.string value) .comment)

/-- Take the value of a field. -/
def fieldOfJson (field : Field) (fields : Fields) : Json → Decoded Fields
  | .array items =>
      if field = .replies then do
        let replies ← entriesOfJson items
        .ok { fields with replies := some replies }
      else fields.takeJson field (.array items)
  | .object members => fields.takeJson field (.object members)
  | .null => fields.takeJson field .null
  | .bool value => fields.takeJson field (.bool value)
  | .number value => fields.takeJson field (.number value)
  | .string value => fields.takeJson field (.string value)

/-- The comments that values are. -/
def entriesOfJson : List Json → Decoded (List Entry)
  | [] => .ok []
  | value :: rest => do
      let entry ← entryOfJson value
      let entries ← entriesOfJson rest
      .ok (entry :: entries)

/-- Take the members of an object. Unknown keys are passed over, and no field may come twice. -/
def fieldsOfMembers (fields : Fields) : List (String × Json) → Decoded Fields
  | [] => .ok fields
  | (key, value) :: rest =>
      match Field.ofKey? key with
      | none => fieldsOfMembers fields rest
      | some field =>
          if fields.has field then refuse (.duplicateField field)
          else do
            let fields ← fieldOfJson field fields value
            fieldsOfMembers fields rest

/-- Take the items of an array for the given fields, after so many of them. -/
def fieldsOfItems (length : Nat) : List Field → Fields → Nat → List Json → Decoded Fields
  | [], fields, _, items => if items.isEmpty then .ok fields else refuse (.tooManyItems length)
  | field :: _, fields, count, [] =>
      if field.isRequired then refuse (.tooFewItems count) else .ok fields
  | field :: wanted, fields, count, value :: rest => do
      let fields ← fieldOfJson field fields value
      fieldsOfItems length wanted fields (count + 1) rest

end

end Colloquy.Listing
