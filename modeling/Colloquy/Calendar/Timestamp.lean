import Colloquy.Calendar.Date
import Colloquy.Text.Blank

/-!
# Written timestamps

Two written forms of an instant. The zoned form is strict: four digits of the year, two of every
other field, and an offset from universal time. The plain form has no offset, is read as universal
time, and allows fewer digits, blanks before a number and signed years. A leap second, `:60`, is
the second before it with a nanosecond count above a thousand million.
-/

namespace Colloquy.Timestamp

/-- The fields of a date and a time of day as they are written. -/
structure Fields where
  year : Int
  month : Nat
  day : Nat
  hour : Nat
  minute : Nat
  second : Nat
  nanoseconds : Nat
  deriving DecidableEq, Repr

/-- The first and last year that dates are kept for. -/
def yearRange : Int × Int := (-262143, 262142)

/-- The instant of fields read as universal time, if they name a date and a time of day. -/
def Fields.instant? (fields : Fields) : Option Instant :=
  let date : Date := ⟨fields.year, fields.month, fields.day⟩
  if date.isValid ∧ yearRange.1 ≤ fields.year ∧ fields.year ≤ yearRange.2 ∧
      fields.hour ≤ 23 ∧ fields.minute ≤ 59 ∧ fields.second ≤ 60 then
    let second := min fields.second 59
    let leap := if fields.second = 60 then Instant.nanosecondsPerSecond else 0
    some ⟨date.toDays * Instant.secondsPerDay +
        (fields.hour * 3600 + fields.minute * 60 + second : Nat), fields.nanoseconds + leap⟩
  else none

/-- The value of a decimal digit. -/
def digit? (character : Char) : Option Nat :=
  if '0' ≤ character ∧ character ≤ '9' then some (character.toNat - 48) else none

/-- The digits at the start of the text, at most as many as given, and what follows them. -/
def takeDigits : Nat → List Char → List Nat × List Char
  | 0, text => ([], text)
  | _, [] => ([], [])
  | count + 1, character :: rest =>
      match digit? character with
      | some digit =>
          let (digits, left) := takeDigits count rest
          (digit :: digits, left)
      | none => ([], character :: rest)

/-- The number written by decimal digits. -/
def ofDigits (digits : List Nat) : Nat :=
  digits.foldl (fun value digit => value * 10 + digit) 0

/-- Read a number of at least and at most so many digits. -/
def number? (least most : Nat) (text : List Char) : Option (Nat × List Char) :=
  let (digits, rest) := takeDigits most text
  if least ≤ digits.length then some (ofDigits digits, rest) else none

/-- Read one given character. -/
def char? (character : Char) : List Char → Option (List Char)
  | [] => none
  | first :: rest => if first = character then some rest else none

/-- Read the digits of a fraction of a second as nanoseconds. Digits after the ninth are
dropped. -/
def fraction? (text : List Char) : Option (Nat × List Char) :=
  let (digits, rest) := takeDigits 9 text
  if digits = [] then none
  else
    some (ofDigits digits * Nat.pow 10 (9 - digits.length),
      rest.dropWhile fun character => (digit? character).isSome)

/-- Read a fraction of a second if there is a point. -/
def optionalFraction? : List Char → Option (Nat × List Char)
  | '.' :: rest => fraction? rest
  | text => some (0, text)

/-- Read an offset of hours and minutes as seconds. -/
def offsetMinutes? (text : List Char) : Option (Int × List Char) := do
  let (hours, text) ← number? 2 2 text
  let text ← char? ':' text
  let (minutes, text) ← number? 2 2 text
  if minutes ≤ 59 ∧ hours ≤ 23 then some ((hours * 3600 + minutes * 60 : Nat), text) else none

/-- Read an offset from universal time in seconds. -/
def offset? : List Char → Option (Int × List Char)
  | 'Z' :: rest | 'z' :: rest => some (0, rest)
  | '+' :: rest => offsetMinutes? rest
  | '-' :: rest | '\u2212' :: rest =>
      (offsetMinutes? rest).map fun found => (-found.1, found.2)
  | _ => none

/-- Read the mark between date and time of the zoned form. -/
def separator? : List Char → Option (List Char)
  | 'T' :: rest | 't' :: rest | ' ' :: rest => some rest
  | _ => none

/-- Read the zoned form. -/
def zoned? (text : List Char) : Option Instant := do
  let (year, text) ← number? 4 4 text
  let text ← char? '-' text
  let (month, text) ← number? 2 2 text
  let text ← char? '-' text
  let (day, text) ← number? 2 2 text
  let text ← separator? text
  let (hour, text) ← number? 2 2 text
  let text ← char? ':' text
  let (minute, text) ← number? 2 2 text
  let text ← char? ':' text
  let (second, text) ← number? 2 2 text
  let (nanoseconds, text) ← optionalFraction? text
  let (offset, text) ← offset? text
  if text = [] then
    let fields : Fields := ⟨year, month, day, hour, minute, second, nanoseconds⟩
    let instant ← fields.instant?
    some { instant with seconds := instant.seconds - offset }
  else none

/-- Read a number of the plain form, with blanks before it. -/
def plainNumber? (text : List Char) : Option (Nat × List Char) :=
  number? 1 2 (text.dropWhile Text.isBlank)

/-- Read a year of the plain form: up to four digits, or any number after a sign. -/
def plainYear? (text : List Char) : Option (Int × List Char) :=
  match text.dropWhile Text.isBlank with
  | '-' :: rest => (number? 1 rest.length rest).map fun found => (-(found.1 : Int), found.2)
  | '+' :: rest => (number? 1 rest.length rest).map fun found => ((found.1 : Int), found.2)
  | rest => (number? 1 4 rest).map fun found => ((found.1 : Int), found.2)

/-- Read the plain form. -/
def plain? (text : List Char) : Option Instant := do
  let (year, text) ← plainYear? text
  let text ← char? '-' text
  let (month, text) ← plainNumber? text
  let text ← char? '-' text
  let (day, text) ← plainNumber? text
  let text ← char? 'T' text
  let (hour, text) ← plainNumber? text
  let text ← char? ':' text
  let (minute, text) ← plainNumber? text
  let text ← char? ':' text
  let (second, text) ← plainNumber? text
  let (nanoseconds, text) ← optionalFraction? text
  if text = [] then
    let fields : Fields := ⟨year, month, day, hour, minute, second, nanoseconds⟩
    fields.instant?
  else none

/-- Read a timestamp in either form, the zoned one first. -/
def parse? (text : String) : Option Instant :=
  (zoned? text.toList).orElse fun _ => plain? text.toList

end Colloquy.Timestamp
