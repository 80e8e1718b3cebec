import Colloquy.Toml.Scan

/-!
# TOML strings

Strings on one line and on several, with escapes between double quotes and without between single
ones. In a string on several lines the line feed after the opening quotes is dropped, a carriage
return before a line feed too, and a backslash at the end of a line drops the line feed with all
blanks and line feeds that follow. Such a string ends at its first three quotes, but up to two more
that follow still belong to it.
-/

namespace Colloquy.Toml

/-- The value of a hexadecimal digit. -/
def hexDigit? (character : Char) : Option Nat :=
  if '0' ≤ character ∧ character ≤ '9' then some (character.toNat - '0'.toNat)
  else if 'a' ≤ character ∧ character ≤ 'f' then some (character.toNat - 'a'.toNat + 10)
  else if 'A' ≤ character ∧ character ≤ 'F' then some (character.toNat - 'A'.toNat + 10)
  else none

/-- The number written by hexadecimal digits. -/
def hexNumber? (digits : List Char) : Option Nat :=
  digits.foldlM (fun value digit => (hexDigit? digit).map fun digit => value * 16 + digit) 0

/-- The character with a code, unless it is no character. -/
def characterOf? (code : Nat) : Option Char :=
  if code.isValidChar then some (Char.ofNat code) else none

/-- The character written by so many hexadecimal digits. -/
def hexEscape? (count : Nat) (text : List Char) : Option (Char × List Char) := do
  let digits := text.take count
  if digits.length < count then none
  else return (← characterOf? (← hexNumber? digits), text.drop count)

/-- The character that is written behind a backslash. -/
def escaped? : Scan Char
  | 'b' :: rest => some ('\x08', rest)
  | 't' :: rest => some ('\t', rest)
  | 'n' :: rest => some ('\n', rest)
  | 'f' :: rest => some ('\x0c', rest)
  | 'r' :: rest => some ('\r', rest)
  | '"' :: rest => some ('"', rest)
  | '\\' :: rest => some ('\\', rest)
  | 'u' :: rest => hexEscape? 4 rest
  | 'U' :: rest => hexEscape? 8 rest
  | _ => none

/-- The rest of a string on one line between double quotes; the steps bound its characters. The
characters read so far come last one first. -/
def basicFrom : Nat → List Char → Scan (List Char)
  | 0, _, _ => none
  | _ + 1, _, [] => none
  | steps + 1, read, character :: rest =>
      if character = '"' then some (read.reverse, rest)
      else if character = '\\' then do
        let (value, rest) ← escaped? rest
        basicFrom steps (value :: read) rest
      else if isPrintable character then basicFrom steps (character :: read) rest
      else none

/-- The rest of a string on one line between single quotes. -/
def literalFrom : List Char → Scan (List Char)
  | _, [] => none
  | read, character :: rest =>
      if character = '\'' then some (read.reverse, rest)
      else if isPrintable character then literalFrom (character :: read) rest
      else none

/-- The text behind a backslash that ends a line, without the blanks and line feeds that follow. -/
def lineContinuation? (text : List Char) : Option (List Char) := do
  let rest ← skipNewline? (skipBlanks text)
  return skipLayout rest
where
  /-- The text behind blanks and line feeds. -/
  skipLayout : List Char → List Char
    | '\n' :: rest => skipLayout rest
    | '\r' :: '\n' :: rest => skipLayout rest
    | character :: rest => if isBlankCharacter character then skipLayout rest else character :: rest
    | [] => []

/-- The quotes that belong to a string on several lines where it ends, and the text behind, if it
ends here. -/
def closing? (quote : Char) (text : List Char) : Option (List Char × List Char) :=
  let count := (text.takeWhile (· = quote)).length
  if count < 3 then none
  else some (List.replicate (min (count - 3) 2) quote, text.drop (min count 5))

/-- The rest of a string on several lines; the steps bound its characters. -/
def multilineFrom (quote : Char) : Nat → List Char → Scan (List Char)
  | 0, _, _ => none
  | steps + 1, read, text =>
      match closing? quote text with
      | some (quotes, rest) => some (read.reverse ++ quotes, rest)
      | none =>
          match skipNewline? text with
          | some rest => multilineFrom quote steps ('\n' :: read) rest
          | none =>
              match text with
              | [] => none
              | character :: rest =>
                  if character = '\\' && quote = '"' then
                    match lineContinuation? rest with
                    | some rest => multilineFrom quote steps read rest
                    | none => do
                        let (value, rest) ← escaped? rest
                        multilineFrom quote steps (value :: read) rest
                  else if isPrintable character then
                    multilineFrom quote steps (character :: read) rest
                  else none

/-- A string on one line; keys are written like this too. -/
def lineString? : Scan (List Char)
  | '"' :: rest => basicFrom (rest.length + 1) [] rest
  | '\'' :: rest => literalFrom [] rest
  | _ => none

/-- The characters of a string. -/
def stringCharacters? : Scan (List Char)
  | '"' :: '"' :: '"' :: rest => multilineFrom '"' (rest.length + 1) [] (skipNewline rest)
  | '\'' :: '\'' :: '\'' :: rest => multilineFrom '\'' (rest.length + 1) [] (skipNewline rest)
  | text => lineString? text

/-- A string. -/
def string? (text : List Char) : Option (String × List Char) := do
  let (characters, rest) ← stringCharacters? text
  return (String.ofList characters, rest)

end Colloquy.Toml
