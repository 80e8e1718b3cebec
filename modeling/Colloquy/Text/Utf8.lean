/-!
# Damaged UTF-8

Reading bytes as UTF-8 when some of them may be wrong. Every longest run of bytes that begins a
character but does not complete it, and every byte that cannot begin one, is replaced by one
replacement character.
-/

namespace Colloquy.Text

/-- What stands for bytes that are no character. -/
def replacement : Char := '\ufffd'

/-- What a first byte announces: the number of bytes that follow, the bits it contributes, and the
bounds of the second byte. -/
def leadByte? (byte : UInt8) : Option (Nat × Nat × UInt8 × UInt8) :=
  if byte < 0x80 then some (0, byte.toNat, 0x80, 0xbf)
  else if 0xc2 ≤ byte ∧ byte ≤ 0xdf then some (1, byte.toNat % 0x20, 0x80, 0xbf)
  else if byte = 0xe0 then some (2, 0, 0xa0, 0xbf)
  else if byte = 0xed then some (2, 0x0d, 0x80, 0x9f)
  else if 0xe1 ≤ byte ∧ byte ≤ 0xef then some (2, byte.toNat % 0x10, 0x80, 0xbf)
  else if byte = 0xf0 then some (3, 0, 0x90, 0xbf)
  else if 0xf1 ≤ byte ∧ byte ≤ 0xf3 then some (3, byte.toNat % 0x08, 0x80, 0xbf)
  else if byte = 0xf4 then some (3, 4, 0x80, 0x8f)
  else none

/-- A character under way: the bytes that are still to come, the code so far, and the bounds of the
next byte. -/
structure OpenCharacter where
  missing : Nat
  code : Nat
  low : UInt8 := 0x80
  high : UInt8 := 0xbf

/-- Read a first byte: the characters that it completes, and the one it begins. -/
def beginCharacter (byte : UInt8) : List Char × Option OpenCharacter :=
  match leadByte? byte with
  | none => ([replacement], none)
  | some (0, code, _, _) => ([Char.ofNat code], none)
  | some (missing, code, low, high) => ([], some ⟨missing, code, low, high⟩)

/-- Read one byte: the characters that it completes, and the one that is under way after it. -/
def readByte (state : Option OpenCharacter) (byte : UInt8) : List Char × Option OpenCharacter :=
  match state with
  | none => beginCharacter byte
  | some begun =>
      if begun.low ≤ byte ∧ byte ≤ begun.high then
        let code := begun.code * 0x40 + byte.toNat % 0x40
        if begun.missing ≤ 1 then ([Char.ofNat code], none)
        else ([], some { missing := begun.missing - 1, code })
      else
        let (characters, next) := beginCharacter byte
        (replacement :: characters, next)

/-- Read bytes, with a character under way before them. -/
def decodeFrom : Option OpenCharacter → List UInt8 → List Char
  | state, [] => if state.isSome then [replacement] else []
  | state, byte :: rest =>
      let (characters, next) := readByte state byte
      characters ++ decodeFrom next rest

/-- The text of bytes, without the mark of their order at the start. -/
def decodeLossy (bytes : List UInt8) : String :=
  match decodeFrom none bytes with
  | '\ufeff' :: rest => String.ofList rest
  | characters => String.ofList characters

end Colloquy.Text
