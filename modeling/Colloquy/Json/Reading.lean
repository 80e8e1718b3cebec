import Colloquy.Json.Lexer

/-!
# Readings

What is met when JSON text is read from left to right: the value as far as it goes, and the fault
at which the text breaks off. Decoding walks a reading in the order of the text, so that the first
thing wrong, in the text or in its meaning, is the one reported.

A reading is built from tokens by a machine with a stack of open arrays and objects, so that any
depth of nesting is read.
-/

namespace Colloquy

mutual

/-- A value as met from left to right. -/
inductive Reading where
  | null
  | bool (value : Bool)
  | number (numeral : Numeral)
  | string (pieces : Quoted)
  | array (items : ReadingItems)
  | object (members : ReadingMembers)
  /-- Text that breaks off where a value should be, with what a reader and what a skipper meets. -/
  | torn (reading skipping : JsonFault)

/-- The items of an array up to its bracket, or up to the fault at which it breaks off. -/
inductive ReadingItems where
  | close
  | stop (fault : JsonFault)
  | item (value : Reading) (rest : ReadingItems)

/-- The members of an object up to its brace, or up to the fault at which it breaks off. -/
inductive ReadingMembers where
  | close
  | stop (reading skipping : JsonFault)
  | member (key : Quoted) (value : Reading) (rest : ReadingMembers)

end

namespace ReadingItems

/-- Put items, last one first, in front of an ending. -/
def ofReversed : List Reading → ReadingItems → ReadingItems
  | [], ending => ending
  | last :: before, ending => ofReversed before (.item last ending)

end ReadingItems

namespace ReadingMembers

/-- Put members, last one first, in front of an ending. -/
def ofReversed : List (Quoted × Reading) → ReadingMembers → ReadingMembers
  | [], ending => ending
  | (key, value) :: before, ending => ofReversed before (.member key value ending)

end ReadingMembers

/-- A text as read: its value, and a fault if the value is not all there is. -/
structure Document where
  value : Reading
  trailing : Option JsonFault

namespace JsonBuilder

/-- An open array with its items, or an open object with its members and the key whose value is
being read; the newest first. -/
inductive Frame where
  | items (before : List Reading)
  | member (before : List (Quoted × Reading)) (key : Quoted)

/-- What the machine waits for. -/
inductive State where
  /-- A value. -/
  | value (stack : List Frame)
  /-- The first item of an array, or its bracket. -/
  | firstItem (stack : List Frame)
  /-- The first key of an object, or its brace. -/
  | firstKey (stack : List Frame)
  /-- A key. -/
  | key (before : List (Quoted × Reading)) (stack : List Frame)
  /-- The colon after a key. -/
  | colon (before : List (Quoted × Reading)) (key : Quoted) (stack : List Frame)
  /-- A comma or the bracket of an array. -/
  | afterItem (items : List Reading) (stack : List Frame)
  /-- A comma or the brace of an object. -/
  | afterMember (members : List (Quoted × Reading)) (stack : List Frame)
  /-- The end of the text. -/
  | complete (value : Reading)
  /-- Nothing: the text is wrong after its value. -/
  | trailing (value : Reading)
  /-- Nothing: the text broke off. -/
  | broken (value : Reading)

/-- Close every open array and object around a value at which the text broke off. -/
def unwind : Reading → List Frame → Reading
  | value, [] => value
  | value, .items before :: stack =>
      unwind (.array (.ofReversed before (.item value (.stop .malformed)))) stack
  | value, .member before key :: stack =>
      unwind (.object (.ofReversed before (.member key value (.stop .malformed .malformed)))) stack

/-- Put a finished value where it belongs. -/
def place : Reading → List Frame → State
  | value, [] => .complete value
  | value, .items before :: stack => .afterItem (value :: before) stack
  | value, .member before key :: stack => .afterMember ((key, value) :: before) stack

/-- The text breaks off where a value should be. -/
def breakValue (reading skipping : JsonFault) (stack : List Frame) : State :=
  .broken (unwind (.torn reading skipping) stack)

/-- The text breaks off between the items of an array. -/
def breakItems (items : List Reading) (fault : JsonFault) (stack : List Frame) : State :=
  .broken (unwind (.array (.ofReversed items (.stop fault))) stack)

/-- The text breaks off between the members of an object. -/
def breakMembers (members : List (Quoted × Reading)) (reading skipping : JsonFault)
    (stack : List Frame) : State :=
  .broken (unwind (.object (.ofReversed members (.stop reading skipping))) stack)

/-- Start or finish the value that a token begins. -/
def takeValue (stack : List Frame) : JsonToken → State
  | .null => place .null stack
  | .bool value => place (.bool value) stack
  | .number numeral => place (.number numeral) stack
  | .string pieces => place (.string pieces) stack
  | .openArray => .firstItem stack
  | .openObject => .firstKey stack
  | .torn _ reading skipping => breakValue reading skipping stack
  | .closeArray | .closeObject | .comma | .colon => breakValue .malformed .malformed stack

/-- Take the token where a key should be. -/
def takeKey (before : List (Quoted × Reading)) (stack : List Frame) : JsonToken → State
  | .string pieces => .colon before pieces stack
  | .torn true reading skipping => breakMembers before reading skipping stack
  | _ => breakMembers before .malformed .malformed stack

/-- Take one token. -/
def step : State → JsonToken → State
  | .value stack, token => takeValue stack token
  | .firstItem stack, .closeArray => place (.array .close) stack
  | .firstItem stack, token => takeValue (.items [] :: stack) token
  | .firstKey stack, .closeObject => place (.object .close) stack
  | .firstKey stack, token => takeKey [] stack token
  | .key before stack, token => takeKey before stack token
  | .colon before key stack, .colon => .value (.member before key :: stack)
  | .colon before key stack, _ => breakValue .malformed .malformed (.member before key :: stack)
  | .afterItem items stack, .closeArray => place (.array (.ofReversed items .close)) stack
  | .afterItem items stack, .comma => .value (.items items :: stack)
  | .afterItem items stack, _ => breakItems items .malformed stack
  | .afterMember members stack, .closeObject => place (.object (.ofReversed members .close)) stack
  | .afterMember members stack, .comma => .key members stack
  | .afterMember members stack, _ => breakMembers members .malformed .malformed stack
  | .complete value, _ => .trailing value
  | .trailing value, _ => .trailing value
  | .broken value, _ => .broken value

/-- The reading when the text ends. -/
def finish : State → Document
  | .value stack => ⟨unwind (.torn .truncated .truncated) stack, none⟩
  | .firstItem stack => ⟨unwind (.array (.stop .truncated)) stack, none⟩
  | .firstKey stack => ⟨unwind (.object (.stop .truncated .truncated)) stack, none⟩
  | .key before stack =>
      ⟨unwind (.object (.ofReversed before (.stop .truncated .truncated))) stack, none⟩
  | .colon before key stack =>
      ⟨unwind (.torn .truncated .truncated) (.member before key :: stack), none⟩
  | .afterItem items stack => ⟨unwind (.array (.ofReversed items (.stop .truncated))) stack, none⟩
  | .afterMember members stack =>
      ⟨unwind (.object (.ofReversed members (.stop .truncated .truncated))) stack, none⟩
  | .complete value => ⟨value, none⟩
  | .trailing value => ⟨value, some .malformed⟩
  | .broken value => ⟨value, none⟩

end JsonBuilder

/-- The two machines at work on a text: the lexer, and the builder that takes its tokens. -/
structure JsonReader where
  lexer : JsonLexer.State
  builder : JsonBuilder.State

namespace JsonReader

/-- Before the first byte. -/
def start : JsonReader := ⟨.between, .value []⟩

/-- Hand tokens to the builder. -/
def build (builder : JsonBuilder.State) (tokens : List JsonToken) : JsonBuilder.State :=
  tokens.foldl JsonBuilder.step builder

/-- Take one byte. -/
def feed (reader : JsonReader) (byte : UInt8) : JsonReader :=
  let (lexer, tokens) := JsonLexer.step reader.lexer byte
  ⟨lexer, build reader.builder tokens⟩

/-- Take several bytes. -/
def feedAll (reader : JsonReader) (bytes : List UInt8) : JsonReader :=
  bytes.foldl feed reader

/-- The reading when the text ends. -/
def document (reader : JsonReader) : Document :=
  JsonBuilder.finish (build reader.builder (JsonLexer.finish reader.lexer))

end JsonReader

/-- The reading of a text. -/
def Document.ofBytes (bytes : List UInt8) : Document :=
  (JsonReader.start.feedAll bytes).document

mutual

/-- Pass over a value: its text must be JSON, whatever it says. -/
def Reading.skip : Reading → Except JsonFault Unit
  | .null | .bool _ | .number _ | .string _ => .ok ()
  | .array items => items.skip
  | .object members => members.skip
  | .torn _ skipping => .error skipping

/-- Pass over the items of an array. -/
def ReadingItems.skip : ReadingItems → Except JsonFault Unit
  | .close => .ok ()
  | .stop fault => .error fault
  | .item value rest =>
      match value.skip with
      | .error fault => .error fault
      | .ok () => rest.skip

/-- Pass over the members of an object. -/
def ReadingMembers.skip : ReadingMembers → Except JsonFault Unit
  | .close => .ok ()
  | .stop _ skipping => .error skipping
  | .member _ value rest =>
      match value.skip with
      | .error fault => .error fault
      | .ok () => rest.skip

end

/-- The text of a string literal. -/
def Quoted.text (pieces : Quoted) : Except JsonFault String :=
  match pieces.text? with
  | some text => .ok text
  | none => .error .malformed

mutual

/-- The value that was read. -/
def Reading.json : Reading → Except JsonFault Json
  | .null => .ok .null
  | .bool value => .ok (.bool value)
  | .number numeral => numeral.value.map .number
  | .string pieces => pieces.text.map .string
  | .array items => items.json.map .array
  | .object members => members.json.map Json.ofMembers
  | .torn reading _ => .error reading

/-- The items of an array that was read. -/
def ReadingItems.json : ReadingItems → Except JsonFault (List Json)
  | .close => .ok []
  | .stop fault => .error fault
  | .item value rest => do
      let item ← value.json
      let items ← rest.json
      .ok (item :: items)

/-- The members of an object that was read, as they stand. -/
def ReadingMembers.json : ReadingMembers → Except JsonFault (List (String × Json))
  | .close => .ok []
  | .stop reading _ => .error reading
  | .member key value rest => do
      let name ← key.text
      let item ← value.json
      let members ← rest.json
      .ok ((name, item) :: members)

end

namespace Json

/-- The value of a whole text. -/
def ofBytes (bytes : List UInt8) : Except JsonFault Json :=
  let document := Document.ofBytes bytes
  match document.value.json with
  | .error fault => .error fault
  | .ok value =>
      match document.trailing with
      | some fault => .error fault
      | none => .ok value

end Json

end Colloquy
