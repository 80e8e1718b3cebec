import Colloquy.Decimal.Shortest

/-!
# JSON values

Values as they travel between the program and the comment backend. A number is a whole number
that fits 64 bits, or else a double; an object's members are kept sorted by key, each key once.
-/

namespace Colloquy

/-- A JSON number. A literal without fraction and exponent is a whole number when 64 bits hold
it; every other literal, and `-0`, is a double. -/
inductive JsonNumber where
  | natural (value : UInt64)
  | negative (value : Int64)
  | float (value : Float)

/-- A JSON value. -/
inductive Json where
  | null
  | bool (value : Bool)
  | number (value : JsonNumber)
  | string (value : String)
  | array (items : List Json)
  | object (members : List (String × Json))

namespace JsonNumber

/-- The text of a finite double: positional for decimal exponents from -5 to 15, with a point in
any case; otherwise with an exponent that carries its sign. -/
def floatText (value : Float) : String :=
  let sign := if 0x8000000000000000 ≤ value.toBits then "-" else ""
  let magnitude := value.abs
  if magnitude == 0 then sign ++ "0.0"
  else
    let decimal := Decimal.shortest (Decimal.Binary.ofBits magnitude.toBits)
    let digits := toString decimal.digits
    let count : Int := digits.length
    let exponent := decimal.exponent + count - 1
    let body :=
      if 0 ≤ decimal.exponent && exponent ≤ 15 then
        digits ++ String.ofList (List.replicate decimal.exponent.toNat '0') ++ ".0"
      else if 0 ≤ exponent && exponent ≤ 15 then
        let whole := (exponent + 1).toNat
        String.ofList (digits.toList.take whole) ++ "." ++ String.ofList (digits.toList.drop whole)
      else if -5 ≤ exponent && exponent < 0 then
        "0." ++ String.ofList (List.replicate (-exponent - 1).toNat '0') ++ digits
      else
        let first := String.ofList (digits.toList.take 1)
        let rest := String.ofList (digits.toList.drop 1)
        let mantissa := if rest.isEmpty then first else first ++ "." ++ rest
        mantissa ++ (if exponent < 0 then "e-" else "e+") ++ toString exponent.natAbs
    sign ++ body

/-- The literal of a number. -/
def text : JsonNumber → String
  | natural value => toString value.toNat
  | negative value => toString value.toInt
  | float value => floatText value

end JsonNumber

namespace Json

/-- Add a member to sorted members. A member with the same key is replaced. -/
def insertMember (key : String) (value : Json) : List (String × Json) → List (String × Json)
  | [] => [(key, value)]
  | (other, held) :: rest =>
      if key = other then (key, value) :: rest
      else if key < other then (key, value) :: (other, held) :: rest
      else (other, held) :: insertMember key value rest

/-- An object with the given members; of members with equal keys the last one counts. -/
def ofMembers (members : List (String × Json)) : Json :=
  .object (members.foldl (fun kept member => insertMember member.1 member.2 kept) [])

/-- The hexadecimal digit of a number below sixteen. -/
def hexDigit (value : Nat) : Char :=
  if value < 10 then Char.ofNat (48 + value) else Char.ofNat (87 + value)

/-- How a character is written inside a string: quote, backslash and control characters are
escaped, everything else stands for itself. -/
def escapeChar (character : Char) : List Char :=
  if character = '"' then ['\\', '"']
  else if character = '\\' then ['\\', '\\']
  else if character = '\n' then ['\\', 'n']
  else if character = '\r' then ['\\', 'r']
  else if character = '\t' then ['\\', 't']
  else if character.toNat = 8 then ['\\', 'b']
  else if character.toNat = 12 then ['\\', 'f']
  else if character.toNat < 32 then
    ['\\', 'u', '0', '0', hexDigit (character.toNat / 16), hexDigit (character.toNat % 16)]
  else [character]

/-- A string literal. -/
def quoteText (value : String) : String :=
  "\"" ++ String.ofList (value.toList.flatMap escapeChar) ++ "\""

mutual

/-- The compact text of a value, without any white space. -/
def render : Json → String
  | .null => "null"
  | .bool value => if value then "true" else "false"
  | .number value => value.text
  | .string value => quoteText value
  | .array items => "[" ++ ",".intercalate (renderItems items) ++ "]"
  | .object members => "\x7b" ++ ",".intercalate (renderMembers members) ++ "\x7d"

/-- The texts of an array's items. -/
def renderItems : List Json → List String
  | [] => []
  | item :: rest => item.render :: renderItems rest

/-- The texts of an object's members. -/
def renderMembers : List (String × Json) → List String
  | [] => []
  | (key, value) :: rest => (quoteText key ++ ":" ++ value.render) :: renderMembers rest

end

mutual

/-- The greatest number of arrays and objects that stand inside one another. -/
def nesting : Json → Nat
  | .array items => itemsNesting items + 1
  | .object members => membersNesting members + 1
  | _ => 0

/-- The greatest nesting of an array's items. -/
def itemsNesting : List Json → Nat
  | [] => 0
  | item :: rest => max item.nesting (itemsNesting rest)

/-- The greatest nesting of an object's values. -/
def membersNesting : List (String × Json) → Nat
  | [] => 0
  | member :: rest => max member.2.nesting (membersNesting rest)

end

end Json

end Colloquy
