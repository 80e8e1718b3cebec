import Colloquy.Toml.Number
import Colloquy.Toml.Table

/-!
# TOML documents

Reading a document: keys, values and headers, line by line, and the table they build. A document is
read in full or refused. Values may be nested less than eighty deep, and a dotted key has fewer than
eighty parts.
-/

namespace Colloquy.Toml

/-- The greatest number of parts of a key, and one more than the levels of nested values. -/
def depthLimit : Nat := 80

/-- A character of a key that is not quoted. -/
def isBareKey (character : Char) : Bool :=
  character.isAlphanum || character = '_' || character = '-'

/-- One part of a key. -/
def keyPart? (text : List Char) : Option (String × List Char) :=
  match text with
  | [] => none
  | first :: _ =>
      if first = '"' || first = '\'' then do
        let (read, rest) ← lineString? text
        return (String.ofList read, rest)
      else
        let bare := text.takeWhile isBareKey
        if bare.isEmpty then none else some (String.ofList bare, text.dropWhile isBareKey)

/-- The parts of a key, with blanks around them and points between them; the steps bound their
number. -/
def keyParts? : Nat → Scan (List String)
  | 0, _ => none
  | steps + 1, text => do
      let (part, rest) ← keyPart? (skipBlanks text)
      match skipBlanks rest with
      | '.' :: rest => do
          let (parts, rest) ← keyParts? steps rest
          return (part :: parts, rest)
      | rest => return ([part], rest)

/-- A key: the path to a table, and a name in it. -/
def key? (text : List Char) : Option ((List String × String) × List Char) := do
  let (parts, rest) ← keyParts? (depthLimit - 1) text
  return ((parts.dropLast, ← parts.getLast?), rest)

/-- The value of a word. -/
def word? (word : String) (value : Toml) (text : List Char) : Option (Toml × List Char) :=
  if word.toList.isPrefixOf text then some (value, text.drop word.length) else none

/-- A number, a date or a time. -/
def numberOrMoment? (text : List Char) : Option (Toml × List Char) :=
  if startsMoment text then (moment? text).map fun rest => (.moment, rest)
  else
    let unsigned := (sign text).2
    let isFloat :=
      unsigned.head? = some 'i' || unsigned.head? = some 'n' ||
        (decimal? unsigned).any fun read => startsFraction read.2
    if isFloat then (float? text).map fun rest => (.float, rest)
    else (integer? text).map fun read => (.integer read.1, read.2)

/-- The items of an array behind its bracket; the steps bound their number. -/
def items? (value : Scan Toml) : Nat → Scan (List Toml)
  | 0, _ => none
  | steps + 1, text => do
      let text ← skipGaps false text
      match text with
      | ']' :: rest => return ([], rest)
      | text => do
          let (item, rest) ← value text
          let rest ← skipGaps false rest
          match rest with
          | ',' :: rest => do
              let (items, rest) ← items? value steps rest
              return (item :: items, rest)
          | ']' :: rest => return ([item], rest)
          | _ => none

/-- A key with its value. -/
def member? (value : Scan Toml) (text : List Char) :
    Option ((List String × String × Toml) × List Char) := do
  let ((path, key), rest) ← key? text
  let rest ← expect '=' rest
  let (value, rest) ← value (skipBlanks rest)
  return ((path, key, value), rest)

/-- The members of a table in braces, behind the brace or a comma; the steps bound their number.
Those read so far are given. -/
def membersFrom? (value : Scan Toml) : Nat → Members → Scan Members
  | 0, _, _ => none
  | steps + 1, members, text => do
      let ((path, key, item), rest) ← member? value text
      let members ← assign? path key item .header members
      match skipBlanks rest with
      | ',' :: rest => membersFrom? value steps members rest
      | '\x7d' :: rest => return (members, rest)
      | _ => none

/-- The members of a table in braces, behind the brace. -/
def members? (value : Scan Toml) (text : List Char) : Option (Members × List Char) :=
  match skipBlanks text with
  | '\x7d' :: rest => some ([], rest)
  | text => membersFrom? value (text.length + 1) [] text

/-- A value with at most so many levels of arrays and tables in it. -/
def value? : Nat → Scan Toml
  | _, [] => none
  | levels, '[' :: rest =>
      match levels with
      | 0 => none
      | levels + 1 => do
          let (items, rest) ← items? (value? levels) (rest.length + 1) rest
          return (.array items, rest)
  | levels, '\x7b' :: rest =>
      match levels with
      | 0 => none
      | levels + 1 => do
          let (members, rest) ← members? (value? levels) rest
          return (.table .braces members, rest)
  | _, first :: rest =>
      let text := first :: rest
      if first = '"' || first = '\'' then (string? text).map fun read => (.string read.1, read.2)
      else if first = 't' then word? "true" (.boolean true) text
      else if first = 'f' then word? "false" (.boolean false) text
      else numberOrMoment? text

/-- A document under construction: the whole of it, and the path of the table that values go
into. -/
structure Draft where
  root : Members := []
  path : List String := []

namespace Draft

/-- Give a value to a key in the current table. -/
def assign? (draft : Draft) (path : List String) (key : String) (value : Toml) : Option Draft := do
  let root ← changeAt? false (Toml.assign? path key value) draft.path .header draft.root
  return { draft with root }

/-- Start a table, or one more table of a name. -/
def open? (draft : Draft) (repeated : Bool) (path : List String) (key : String) :
    Option Draft := do
  let change := if repeated then openElement? key else openTable? key
  return ⟨← changeAt? false change path .header draft.root, path ++ [key]⟩

end Draft

/-- The end of a header. -/
def headerEnd? (draft : Draft) (repeated : Bool) (text : List Char) :
    Option (Draft × List Char) := do
  let ((path, key), rest) ← key? text
  let rest ← expect ']' rest
  let rest ← if repeated then expect ']' rest else some rest
  return (← draft.open? repeated path key, ← lineEnd? rest)

/-- Read a line of a document. -/
def line? (draft : Draft) (text : List Char) : Option (Draft × List Char) :=
  match text with
  | '[' :: '[' :: rest => headerEnd? draft true rest
  | '[' :: rest => headerEnd? draft false rest
  | '#' :: _ => (lineEnd? text).map fun rest => (draft, rest)
  | '\n' :: rest => some (draft, rest)
  | '\r' :: rest => (skipNewline? ('\r' :: rest)).map fun rest => (draft, rest)
  | text => do
      let ((path, key, value), rest) ← member? (value? (depthLimit - 1)) text
      return (← draft.assign? path key value, ← lineEnd? rest)

/-- Read lines until the text ends; the steps bound their number. -/
def lines? : Nat → Draft → List Char → Option Members
  | 0, _, _ => none
  | steps + 1, draft, text =>
      match skipBlanks text with
      | [] => some draft.root
      | text => do
          let (draft, rest) ← line? draft text
          lines? steps draft rest

/-- The text without the mark of its byte order. -/
def dropMark : List Char → List Char
  | '\ufeff' :: rest => rest
  | text => text

/-- The members of a document. -/
def parse? (text : String) : Option Members :=
  let text := dropMark text.toList
  lines? (text.length + 1) {} text

end Colloquy.Toml
