import Colloquy.Json.Numeral

/-!
# JSON tokens

Bytes are cut into tokens by a machine that takes one byte at a time. A string keeps its pieces as
written and is decoded when it is read; a string that is skipped is not decoded at all. A token
that breaks off is the last one and says what a reader finds wrong with it, and what a skipper
does.
-/

namespace Colloquy

/-- A piece of a string literal: a byte that stands for itself, or a UTF-16 unit written in
hexadecimal. -/
inductive QuotedPiece where
  | byte (value : UInt8)
  | unit (value : Nat)
  deriving DecidableEq, Repr

/-- The pieces between the quotes of a string literal. -/
abbrev Quoted := List QuotedPiece

namespace Quoted

/-- The first half of a surrogate pair. -/
def isHigh (unit : Nat) : Bool := 0xD800 ≤ unit && unit ≤ 0xDBFF

/-- The second half of a surrogate pair. -/
def isLow (unit : Nat) : Bool := 0xDC00 ≤ unit && unit ≤ 0xDFFF

/-- The character of a surrogate pair. -/
def pair (high low : Nat) : Char :=
  Char.ofNat (0x10000 + (high - 0xD800) * 0x400 + (low - 0xDC00))

/-- The UTF-8 bytes that the pieces stand for, after those already found, which are kept last one
first. A surrogate without its other half is refused. -/
def bytesOnto : List UInt8 → Quoted → Option (List UInt8)
  | done, [] => some done.reverse
  | done, .byte value :: rest => bytesOnto (value :: done) rest
  | done, .unit value :: rest =>
      if isLow value then none
      else if isHigh value then
        match rest with
        | .unit low :: rest =>
            if isLow low then
              bytesOnto ((String.utf8EncodeChar (pair value low)).reverse ++ done) rest
            else none
        | _ => none
      else bytesOnto ((String.utf8EncodeChar (Char.ofNat value)).reverse ++ done) rest

/-- The text that the pieces stand for, if the surrogates are paired and the bytes are UTF-8. -/
def text? (pieces : Quoted) : Option String :=
  (bytesOnto [] pieces).bind fun bytes => String.fromUTF8? bytes.toByteArray

/-- A surrogate that stays without its other half, whatever may follow the pieces. -/
def hasStray : Quoted → Bool
  | [] => false
  | .byte _ :: rest => hasStray rest
  | .unit value :: rest =>
      if isLow value then true
      else if isHigh value then
        match rest with
        | [] => false
        | .unit low :: rest => if isLow low then hasStray rest else true
        | .byte _ :: _ => true
      else hasStray rest

end Quoted

/-- A token of JSON text. -/
inductive JsonToken where
  | openArray
  | closeArray
  | openObject
  | closeObject
  | comma
  | colon
  | null
  | bool (value : Bool)
  | number (numeral : Numeral)
  | string (pieces : Quoted)
  /-- Text that breaks off inside a token, with what a reader and what a skipper meets. -/
  | torn (quoted : Bool) (reading skipping : JsonFault)
  deriving DecidableEq, Repr

namespace JsonLexer

/-- How far into a number literal the machine is. -/
inductive NumeralPart where
  | minus
  | zero
  | whole
  | point
  | fraction
  | mark
  | exponentSign
  | exponent
  deriving DecidableEq, Repr

/-- A number literal under way; its digits are kept last one first. -/
structure OpenNumeral where
  part : NumeralPart
  negative : Bool := false
  whole : List (Fin 10) := []
  fraction : List (Fin 10) := []
  exponentNegative : Bool := false
  exponent : List (Fin 10) := []
  deriving DecidableEq, Repr

/-- Whether the literal may end here. -/
def OpenNumeral.isComplete (numeral : OpenNumeral) : Bool :=
  match numeral.part with
  | .zero | .whole | .fraction | .exponent => true
  | .minus | .point | .mark | .exponentSign => false

/-- The literal as it ends here. -/
def OpenNumeral.close (numeral : OpenNumeral) : Numeral where
  negative := numeral.negative
  whole := numeral.whole.reverse
  fraction := numeral.fraction.reverse
  exponent :=
    if numeral.part = .exponent then some (numeral.exponentNegative, numeral.exponent.reverse)
    else none

/-- Where the machine stands between two bytes. Pieces of a string are kept last one first. -/
inductive State where
  /-- Between tokens. -/
  | between
  /-- Inside a string. -/
  | quoted (pieces : Quoted)
  /-- After a backslash. -/
  | escaped (pieces : Quoted)
  /-- Among the four bytes after a backslash and `u`. -/
  | hexadecimal (pieces : Quoted) (seen : List UInt8)
  /-- Inside a number. -/
  | numeral (numeral : OpenNumeral)
  /-- Inside a word, with the bytes still owed and the token it makes. -/
  | word (owed : List UInt8) (token : JsonToken)
  /-- After a torn token: nothing more is looked at. -/
  | stuck
  deriving DecidableEq, Repr

/-- The byte of an ASCII character. -/
def ascii (character : Char) : UInt8 := character.toNat.toUInt8

/-- The bytes JSON allows between tokens. -/
def isSpace (byte : UInt8) : Bool :=
  byte == 0x20 || byte == 0x0A || byte == 0x09 || byte == 0x0D

/-- The value of a decimal digit. -/
def digit? (byte : UInt8) : Option (Fin 10) :=
  if 0x30 ≤ byte.toNat ∧ byte.toNat ≤ 0x39 then some (Fin.ofNat 10 (byte.toNat - 0x30)) else none

/-- The value of a hexadecimal digit of either case. -/
def hexDigit? (byte : UInt8) : Option Nat :=
  let code := byte.toNat
  if 0x30 ≤ code ∧ code ≤ 0x39 then some (code - 0x30)
  else if 0x41 ≤ code ∧ code ≤ 0x46 then some (code - 0x37)
  else if 0x61 ≤ code ∧ code ≤ 0x66 then some (code - 0x57)
  else none

/-- The number written by hexadecimal digits. -/
def hexNumber? (bytes : List UInt8) : Option Nat :=
  bytes.foldlM (fun value byte => (hexDigit? byte).map (value * 16 + ·)) 0

/-- The byte that a one-letter escape stands for. -/
def escape? (byte : UInt8) : Option UInt8 :=
  if byte = ascii '"' ∨ byte = ascii '\\' ∨ byte = ascii '/' then some byte
  else if byte = ascii 'b' then some 8
  else if byte = ascii 'f' then some 12
  else if byte = ascii 'n' then some 10
  else if byte = ascii 'r' then some 13
  else if byte = ascii 't' then some 9
  else none

/-- A string that breaks off after the given pieces. A reader that has already met a lone
surrogate stops there. -/
def tornString (pieces : Quoted) (fault : JsonFault) : State × List JsonToken :=
  let reading := if Quoted.hasStray pieces.reverse then .malformed else fault
  (.stuck, [.torn true reading fault])

/-- A token that cannot go on with the byte at hand. -/
def tornToken : State × List JsonToken :=
  (.stuck, [.torn false .malformed .malformed])

/-- The step between tokens. -/
def begin (byte : UInt8) : State × List JsonToken :=
  if isSpace byte then (.between, [])
  else if byte = ascii '[' then (.between, [.openArray])
  else if byte = ascii ']' then (.between, [.closeArray])
  else if byte = 0x7B then (.between, [.openObject])
  else if byte = 0x7D then (.between, [.closeObject])
  else if byte = ascii ',' then (.between, [.comma])
  else if byte = ascii ':' then (.between, [.colon])
  else if byte = ascii '"' then (.quoted [], [])
  else if byte = ascii '-' then (.numeral ⟨.minus, true, [], [], false, []⟩, [])
  else if byte = ascii 'n' then (.word [ascii 'u', ascii 'l', ascii 'l'] .null, [])
  else if byte = ascii 't' then (.word [ascii 'r', ascii 'u', ascii 'e'] (.bool true), [])
  else if byte = ascii 'f' then
    (.word [ascii 'a', ascii 'l', ascii 's', ascii 'e'] (.bool false), [])
  else
    match digit? byte with
    | some digit =>
        (.numeral ⟨if digit = 0 then .zero else .whole, false, [digit], [], false, []⟩, [])
    | none => tornToken

/-- How a literal goes on with a byte: it may take it, refuse it, or be over. -/
inductive NumeralStep where
  | more (numeral : OpenNumeral)
  | ended
  | refused

/-- The step inside a number. -/
def OpenNumeral.step (numeral : OpenNumeral) (byte : UInt8) : NumeralStep :=
  let isPoint := byte = ascii '.'
  let isMark := byte = ascii 'e' ∨ byte = ascii 'E'
  match numeral.part, digit? byte with
  | .minus, some digit =>
      .more { numeral with part := if digit = 0 then .zero else .whole, whole := [digit] }
  | .minus, none => .refused
  | .zero, some _ => .refused
  | .whole, some digit => .more { numeral with whole := digit :: numeral.whole }
  | .zero, none | .whole, none =>
      if isPoint then .more { numeral with part := .point }
      else if isMark then .more { numeral with part := .mark }
      else .ended
  | .point, some digit | .fraction, some digit =>
      .more { numeral with part := .fraction, fraction := digit :: numeral.fraction }
  | .point, none => .refused
  | .fraction, none => if isMark then .more { numeral with part := .mark } else .ended
  | .mark, some digit | .exponentSign, some digit | .exponent, some digit =>
      .more { numeral with part := .exponent, exponent := digit :: numeral.exponent }
  | .mark, none =>
      if byte = ascii '+' then .more { numeral with part := .exponentSign }
      else if byte = ascii '-' then
        .more { numeral with part := .exponentSign, exponentNegative := true }
      else .refused
  | .exponentSign, none => .refused
  | .exponent, none => .ended

/-- Take one byte: the next state, and the tokens that are finished. -/
def step : State → UInt8 → State × List JsonToken
  | .between, byte => begin byte
  | .quoted pieces, byte =>
      if byte = ascii '"' then (.between, [.string pieces.reverse])
      else if byte = ascii '\\' then (.escaped pieces, [])
      else if byte.toNat < 0x20 then tornString pieces .malformed
      else (.quoted (.byte byte :: pieces), [])
  | .escaped pieces, byte =>
      if byte = ascii 'u' then (.hexadecimal pieces [], [])
      else
        match escape? byte with
        | some value => (.quoted (.byte value :: pieces), [])
        | none => tornString pieces .malformed
  | .hexadecimal pieces seen, byte =>
      if seen.length < 3 then (.hexadecimal pieces (byte :: seen), [])
      else
        match hexNumber? (byte :: seen).reverse with
        | some value => (.quoted (.unit value :: pieces), [])
        | none => tornString pieces .malformed
  | .numeral numeral, byte =>
      match numeral.step byte with
      | .more numeral => (.numeral numeral, [])
      | .refused => tornToken
      | .ended => ((begin byte).1, .number numeral.close :: (begin byte).2)
  | .word owed token, byte =>
      match owed with
      | [] => tornToken
      | [last] => if byte = last then (.between, [token]) else tornToken
      | next :: rest => if byte = next then (.word rest token, []) else tornToken
  | .stuck, _ => (.stuck, [])

/-- What the end of the text makes of an unfinished token. -/
def finish : State → List JsonToken
  | .between | .stuck => []
  | .quoted pieces | .escaped pieces | .hexadecimal pieces _ => (tornString pieces .truncated).2
  | .numeral numeral =>
      if numeral.isComplete then [.number numeral.close]
      else [.torn false .truncated .malformed]
  | .word _ _ => [.torn false .truncated .truncated]

end JsonLexer

end Colloquy
