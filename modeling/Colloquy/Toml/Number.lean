import Colloquy.Toml.Text

/-!
# TOML numbers, dates and times

Whole numbers in four bases, which must fit 64 bits, other numbers, dates and times. Only whole
numbers have a value here: nothing asks for the others, but a document in which one is written
wrongly is refused.
-/

namespace Colloquy.Toml

/-- Digits, with single underscores between them. The digits read so far come last one first. -/
def digitsFrom (isDigit : Char → Bool) : List Char → Scan (List Char)
  | read, '_' :: digit :: rest =>
      if isDigit digit then digitsFrom isDigit (digit :: read) rest else none
  | _, ['_'] => none
  | read, character :: rest =>
      if isDigit character then digitsFrom isDigit (character :: read) rest
      else some (read.reverse, character :: rest)
  | read, [] => some (read.reverse, [])

/-- At least one digit. -/
def digits? (isDigit : Char → Bool) : Scan (List Char)
  | [] => none
  | character :: rest =>
      if isDigit character then digitsFrom isDigit [character] rest else none

/-- A decimal digit. -/
def isDecimal (character : Char) : Bool := '0' ≤ character && character ≤ '9'

/-- A digit of a base up to sixteen. -/
def isDigitOf (base : Nat) (character : Char) : Bool :=
  (hexDigit? character).any (· < base)

/-- The number written by digits of a base. -/
def numberOf (base : Nat) (digits : List Char) : Nat :=
  digits.foldl (fun value digit => value * base + (hexDigit? digit).getD 0) 0

/-- A sign that may come next: whether it is a minus. -/
def sign : List Char → Bool × List Char
  | '-' :: rest => (true, rest)
  | '+' :: rest => (false, rest)
  | text => (false, text)

/-- The digits of a whole decimal number: a zero stands alone. -/
def decimal? : Scan (List Char)
  | '0' :: rest => some (['0'], rest)
  | text => digits? isDecimal text

/-- A whole number, if 64 bits hold it. -/
def wordOf? (value : Int) : Option Int :=
  if -0x8000000000000000 ≤ value ∧ value < 0x8000000000000000 then some value else none

/-- A whole number. -/
def integer? : Scan Int
  | '0' :: 'x' :: rest => based 16 rest
  | '0' :: 'o' :: rest => based 8 rest
  | '0' :: 'b' :: rest => based 2 rest
  | text => do
      let (negative, rest) := sign text
      let (digits, rest) ← decimal? rest
      let size : Int := numberOf 10 digits
      return (← wordOf? (if negative then -size else size), rest)
where
  /-- The digits of a whole number behind the mark of its base. -/
  based (base : Nat) (text : List Char) : Option (Int × List Char) := do
    let (digits, rest) ← digits? (isDigitOf base) text
    return (← wordOf? (numberOf base digits), rest)

/-- Whether a decimal number is too large for a double: at least halfway from the greatest one to
the next power of two. -/
def exceedsDouble (whole fraction : List Char) (exponent : Int) : Bool :=
  let digits := (whole ++ fraction).dropWhile (· = '0')
  let point := (digits.length : Int) - fraction.length + exponent
  if digits.isEmpty || point < 300 then false
  else if 320 < point then true
  else
    let scale := exponent - fraction.length
    let limit := Nat.pow 2 1024 - Nat.pow 2 970
    limit * Nat.pow 10 (-scale).toNat ≤ numberOf 10 digits * Nat.pow 10 scale.toNat

/-- What follows the digits of a number with a point or an exponent: the digits of the fraction and
the exponent. -/
def fractionAndExponent? (text : List Char) : Option ((List Char × Int) × List Char) := do
  let (fraction, rest) ←
    match text with
    | '.' :: rest => digits? isDecimal rest
    | text => some ([], text)
  match rest with
  | mark :: rest' =>
      if mark = 'e' || mark = 'E' then
        let (down, rest) := sign rest'
        let (digits, rest) ← digits? isDecimal rest
        let size : Int := numberOf 10 digits
        return ((fraction, if down then -size else size), rest)
      else if text.head? = some '.' then return ((fraction, 0), rest)
      else none
  | [] => if text.head? = some '.' then return ((fraction, 0), []) else none

/-- Whether text starts with a point or with the mark of an exponent. -/
def startsFraction (text : List Char) : Bool :=
  text.head?.any fun character => character = '.' || character = 'e' || character = 'E'

/-- The text behind a number with a point or an exponent, or behind a number that is infinite or
none at all. One that is too large for a double is refused. -/
def float? (text : List Char) : Option (List Char) := do
  let (negative, rest) := sign text
  match rest with
  | 'i' :: 'n' :: 'f' :: rest => return rest
  | 'n' :: 'a' :: 'n' :: rest => return rest
  | _ =>
      let (whole, rest) ← decimal? rest
      let ((fraction, exponent), rest) ← fractionAndExponent? rest
      if !negative && exceedsDouble whole fraction exponent then none else return rest

/-- A number of exactly so many digits between two bounds, both included. -/
def field? (count low high : Nat) (text : List Char) : Option (Nat × List Char) :=
  let digits := text.take count
  if digits.length = count && digits.all isDecimal then
    let value := numberOf 10 digits
    if low ≤ value && value ≤ high then some (value, text.drop count) else none
  else none

/-- The number of days of a month. -/
def daysIn (year month : Nat) : Nat :=
  if month = 2 then
    if year % 4 = 0 && (year % 100 ≠ 0 || year % 400 = 0) then 29 else 28
  else if month = 4 || month = 6 || month = 9 || month = 11 then 30
  else 31

/-- The text behind a time of day. -/
def time? (text : List Char) : Option (List Char) := do
  let (_, rest) ← field? 2 0 23 text
  let rest ← expect ':' rest
  let (_, rest) ← field? 2 0 59 rest
  let rest ← expect ':' rest
  let (_, rest) ← field? 2 0 60 rest
  match rest with
  | '.' :: rest => if rest.head?.any isDecimal then return rest.dropWhile isDecimal else none
  | rest => return rest

/-- The text behind a distance from universal time, if one comes next. -/
def offset? : List Char → Option (List Char)
  | 'Z' :: rest => some rest
  | 'z' :: rest => some rest
  | mark :: rest =>
      if mark = '+' || mark = '-' then do
        let (_, rest) ← field? 2 0 23 rest
        let rest ← expect ':' rest
        let (_, rest) ← field? 2 0 59 rest
        return rest
      else some (mark :: rest)
  | [] => some []

/-- The text behind a date. -/
def date? (text : List Char) : Option (List Char) := do
  let (year, rest) ← field? 4 0 9999 text
  let rest ← expect '-' rest
  let (month, rest) ← field? 2 1 12 rest
  let rest ← expect '-' rest
  let (day, rest) ← field? 2 1 31 rest
  if day ≤ daysIn year month then return rest else none

/-- Whether text starts with the hour of a time of day. -/
def startsTime (text : List Char) : Bool :=
  (field? 2 0 23 text).any fun read => read.2.head? = some ':'

/-- The text behind a date, a time, or both. A date may be followed by a space without a time. -/
def moment? (text : List Char) : Option (List Char) :=
  if startsTime text then time? text
  else do
    let rest ← date? text
    match rest with
    | mark :: after =>
        if (mark = 'T' || mark = 't' || mark = ' ') && startsTime after then
          offset? (← time? after)
        else return rest
    | [] => return []

/-- Whether text starts like a date or a time. -/
def startsMoment (text : List Char) : Bool :=
  startsTime text || ((text.take 4).length = 4 && (text.take 4).all isDecimal &&
    (text.drop 4).head? = some '-')

end Colloquy.Toml
