import Colloquy.Listing.Fields

/-!
# Comments from text

A listing decoded while its text is read from left to right: the first thing wrong, in the text or
in its meaning, is reported. Values under unknown keys are passed over and only have to be JSON.
-/

namespace Colloquy.Listing

/-- A fault of the text as an error of decoding. -/
def readable (result : Except JsonFault α) : Decoded α :=
  match result with
  | .ok value => .ok value
  | .error fault => .error (.unreadable fault)

/-- Refuse what is met for being of the wrong type. Text and numbers are read first, for the message
shows them. -/
def refuseReading (wanted : Wanted) : Reading → Decoded α
  | .null => refuse (.wrongType .null wanted)
  | .bool value => refuse (.wrongType (.bool value) wanted)
  | .number numeral => do
      let number ← readable numeral.value
      refuse (.wrongType (.ofNumber number) wanted)
  | .string pieces => do
      let text ← readable pieces.text
      refuse (.wrongType (.string text) wanted)
  | .array _ => refuse (.wrongType .sequence wanted)
  | .object _ => refuse (.wrongType .map wanted)
  | .torn reading _ => .error (.unreadable reading)

/-- Read text. -/
def readText : Reading → Decoded String
  | .string pieces => readable pieces.text
  | other => refuseReading .text other

/-- Read text or null. -/
def readOptionalText : Reading → Decoded (Option String)
  | .null => .ok none
  | other => (readText other).map some

/-- Read an id. -/
def readIdentifier : Reading → Decoded CommentId
  | .number numeral => do identifier (← readable numeral.value)
  | other => refuseReading .identifier other

/-- Read a score. -/
def readScore : Reading → Decoded Int64
  | .number numeral => do score (← readable numeral.value)
  | other => refuseReading .score other

/-- Read a flag. -/
def readFlag : Reading → Decoded Bool
  | .bool value => .ok value
  | other => refuseReading .flag other

/-- Read an author. The whole value is read before it is looked at. -/
def readAuthor : Reading → Decoded Author
  | .string pieces => (readable pieces.text).map .handle
  | .object members => do
      match profile? (← readable members.json) with
      | some author => .ok author
      | none => refuse .unknownAuthor
  | other => do
      let _ ← readable other.json
      refuse .unknownAuthor

/-- Read the value of a field that holds no comments. -/
def Fields.takeReading (fields : Fields) (field : Field) (reading : Reading) : Decoded Fields :=
  match field with
  | .id => (readIdentifier reading).map fun id => { fields with id := some id }
  | .author => (readAuthor reading).map fun author => { fields with author := some author }
  | .body => (readText reading).map fun body => { fields with body := some body }
  | .label => (readOptionalText reading).map fun label => { fields with label := some label }
  | .createdAt =>
      (readOptionalText reading).map fun createdAt => { fields with createdAt := some createdAt }
  | .score => (readScore reading).map fun score => { fields with score := some score }
  | .byPostAuthor =>
      (readFlag reading).map fun flag => { fields with byPostAuthor := some flag }
  | .replies => refuseReading .sequence reading

mutual

/-- Read a comment. -/
def readEntry : Reading → Decoded Entry
  | .object members => do (← readMembers {} members).entry
  | .array items => do (← readPositions Field.all {} 0 items).entry
  | .null => refuseReading .comment .null
  | .bool value => refuseReading .comment (.bool value)
  | .number numeral => refuseReading .comment (.number numeral)
  | .string pieces => refuseReading .comment (.string pieces)
  | .torn reading skipping => refuseReading .comment (.torn reading skipping)

/-- Read the value of a field. -/
def readField (field : Field) (fields : Fields) : Reading → Decoded Fields
  | .array items =>
      if field = .replies then do
        let replies ← readEntries items
        .ok { fields with replies := some replies }
      else fields.takeReading field (.array items)
  | .object members => fields.takeReading field (.object members)
  | .null => fields.takeReading field .null
  | .bool value => fields.takeReading field (.bool value)
  | .number numeral => fields.takeReading field (.number numeral)
  | .string pieces => fields.takeReading field (.string pieces)
  | .torn reading skipping => fields.takeReading field (.torn reading skipping)

/-- Read the comments in an array. -/
def readEntries : ReadingItems → Decoded (List Entry)
  | .close => .ok []
  | .stop fault => .error (.unreadable fault)
  | .item value rest => do
      let entry ← readEntry value
      let entries ← readEntries rest
      .ok (entry :: entries)

/-- Read the members of an object. Unknown keys are passed over, and no field may come twice. -/
def readMembers (fields : Fields) : ReadingMembers → Decoded Fields
  | .close => .ok fields
  | .stop reading _ => .error (.unreadable reading)
  | .member key value rest => do
      match Field.ofKey? (← readable key.text) with
      | none =>
          readable value.skip
          readMembers fields rest
      | some field =>
          if fields.has field then refuse (.duplicateField field)
          else
            let fields ← readField field fields value
            readMembers fields rest

/-- Read the items of an array for the given fields, after so many of them. Items to spare are a
fault of the text. -/
def readPositions : List Field → Fields → Nat → ReadingItems → Decoded Fields
  | [], fields, _, .close => .ok fields
  | field :: _, fields, count, .close =>
      if field.isRequired then refuse (.tooFewItems count) else .ok fields
  | _, _, _, .stop fault => .error (.unreadable fault)
  | [], _, _, .item _ _ => .error (.unreadable .malformed)
  | field :: wanted, fields, count, .item value rest => do
      let fields ← readField field fields value
      readPositions wanted fields (count + 1) rest

end

/-- Read the comments of a listing, which is an array and nothing else. -/
def readDocument (document : Document) : Decoded (List Entry) := do
  let entries ←
    match document.value with
    | .array items => readEntries items
    | other => refuseReading .sequence other
  match document.trailing with
  | none => .ok entries
  | some fault => .error (.unreadable fault)

/-- Decode the text of a listing. -/
def ofBytes (bytes : List UInt8) : Decoded (List Entry) :=
  readDocument (Document.ofBytes bytes)

end Colloquy.Listing
