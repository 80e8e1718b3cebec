import Colloquy.Json.Lexer

/-!
# Spellings

How JSON values are written, byte by byte. White space may stand between any two tokens, a character
of a string may be escaped in any of the ways there are, the members of an object come in any order,
and a double may be written by any literal that stands for it. A whole number of 64 bits is written
plainly, by its decimal digits, after a minus sign if it is below zero.

This is the syntax of JSON as such. Nothing here depends on how a text is cut into tokens or read.
-/

namespace Colloquy.Json

open JsonLexer (ascii)

/-- White space that means nothing. -/
def Blank (bytes : List UInt8) : Prop :=
  ∀ byte ∈ bytes, byte ∈ [ascii ' ', ascii '\t', ascii '\n', ascii '\r']

theorem Blank.nil : Blank [] :=
  nofun

/-! ## Strings -/

/-- A hexadecimal digit of either case. -/
inductive HexDigit : Nat → UInt8 → Prop where
  | decimal (value : Nat) (small : value < 10) : HexDigit value (ascii '0' + value.toUInt8)
  | lower (value : Nat) (small : value < 6) : HexDigit (10 + value) (ascii 'a' + value.toUInt8)
  | upper (value : Nat) (small : value < 6) : HexDigit (10 + value) (ascii 'A' + value.toUInt8)

/-- A UTF-16 unit by its four hexadecimal digits. -/
inductive SpelledUnit : Nat → List UInt8 → Prop where
  | escape {a b c d : Nat} {first second third fourth : UInt8} (thousands : HexDigit a first)
      (hundreds : HexDigit b second) (tens : HexDigit c third) (ones : HexDigit d fourth) :
      SpelledUnit (((a * 16 + b) * 16 + c) * 16 + d)
        [ascii '\\', ascii 'u', first, second, third, fourth]

/-- Characters that one letter stands for after a backslash. -/
def shortEscapes : List (Char × Char) :=
  [('"', '"'), ('\\', '\\'), ('/', '/'), ('\x08', 'b'), ('\x0c', 'f'), ('\n', 'n'), ('\r', 'r'),
    ('\t', 't')]

/-- A character inside a string. -/
inductive SpelledChar : Char → List UInt8 → Prop where
  /-- It stands for itself. -/
  | plain (character : Char) (visible : 0x20 ≤ character.toNat) (unquoted : character ≠ '"')
      (unescaped : character ≠ '\\') : SpelledChar character (String.utf8EncodeChar character)
  | short {character letter : Char} (listed : (character, letter) ∈ shortEscapes) :
      SpelledChar character [ascii '\\', ascii letter]
  | unit {character : Char} {bytes : List UInt8} (unit : SpelledUnit character.toNat bytes) :
      SpelledChar character bytes
  /-- Two surrogates stand for a character beyond the 65536 that one unit can be. -/
  | pair {character : Char} {high low : Nat} {first second : List UInt8}
      (leading : 0xD800 ≤ high ∧ high ≤ 0xDBFF) (trailing : 0xDC00 ≤ low ∧ low ≤ 0xDFFF)
      (code : character.toNat = 0x10000 + (high - 0xD800) * 0x400 + (low - 0xDC00))
      (spelledHigh : SpelledUnit high first) (spelledLow : SpelledUnit low second) :
      SpelledChar character (first ++ second)

/-- What stands between the quotes of a string. -/
inductive SpelledChars : List Char → List UInt8 → Prop where
  | nil : SpelledChars [] []
  | cons {character : Char} {rest : List Char} {bytes more : List UInt8}
      (first : SpelledChar character bytes) (following : SpelledChars rest more) :
      SpelledChars (character :: rest) (bytes ++ more)

/-- A string between its quotes. -/
inductive SpelledString : String → List UInt8 → Prop where
  | quoted {text : String} {bytes : List UInt8} (spelled : SpelledChars text.toList bytes) :
      SpelledString text ([ascii '"'] ++ bytes ++ [ascii '"'])

/-- Whether a character may stand for itself in a string. -/
def isPlain (character : Char) : Bool :=
  0x20 ≤ character.toNat && character != '"' && character != '\\'

theorem spelledChars_of_plain {characters : List Char} (plain : characters.all isPlain = true) :
    SpelledChars characters (characters.flatMap String.utf8EncodeChar) := by
  induction characters with
  | nil => exact .nil
  | cons character rest ih =>
      simp only [List.all_cons, isPlain, Bool.and_eq_true, decide_eq_true_eq, bne_iff_ne] at plain
      obtain ⟨⟨⟨visible, unquoted⟩, unescaped⟩, others⟩ := plain
      exact .cons (.plain character visible unquoted unescaped) (ih others)

/-- Text without quotes, backslashes and control characters is written as it is. -/
theorem spelledString_of_plain {text : String} (plain : text.toList.all isPlain = true) :
    SpelledString text
      ([ascii '"'] ++ text.toList.flatMap String.utf8EncodeChar ++ [ascii '"']) :=
  .quoted (spelledChars_of_plain plain)

/-! ## Numbers -/

/-- A decimal digit. -/
def digitByte (digit : Fin 10) : UInt8 :=
  ascii '0' + digit.val.toUInt8

/-- Decimal digits. -/
def digitBytes (digits : List (Fin 10)) : List UInt8 :=
  digits.map digitByte

/-- The digits before the point: a single zero, or no zero in front. -/
inductive Whole : List (Fin 10) → Prop where
  | zero : Whole [0]
  | leading (first : Fin 10) (rest : List (Fin 10)) (positive : first ≠ 0) : Whole (first :: rest)

/-- The point and the digits after it, if there are any. -/
inductive SpelledFraction : List (Fin 10) → List UInt8 → Prop where
  | none : SpelledFraction [] []
  | some (first : Fin 10) (rest : List (Fin 10)) :
      SpelledFraction (first :: rest) (ascii '.' :: digitBytes (first :: rest))

/-- The exponent, if there is one. -/
inductive SpelledExponent : Option (Bool × List (Fin 10)) → List UInt8 → Prop where
  | none : SpelledExponent none []
  | some {mark : UInt8} (marked : mark ∈ [ascii 'e', ascii 'E']) {down : Bool} {sign : List UInt8}
      (signed : (down, sign) ∈ [(false, []), (false, [ascii '+']), (true, [ascii '-'])])
      (first : Fin 10) (rest : List (Fin 10)) :
      SpelledExponent (some (down, first :: rest)) (mark :: (sign ++ digitBytes (first :: rest)))

/-- A number literal by its parts. -/
inductive SpelledNumeral : Numeral → List UInt8 → Prop where
  | literal (negative : Bool) {whole fraction : List (Fin 10)}
      {exponent : Option (Bool × List (Fin 10))} {afterPoint afterMark : List UInt8}
      (unpadded : Whole whole) (spelledFraction : SpelledFraction fraction afterPoint)
      (spelledExponent : SpelledExponent exponent afterMark) :
      SpelledNumeral ⟨negative, whole, fraction, exponent⟩
        ((if negative then [ascii '-'] else []) ++ digitBytes whole ++ afterPoint ++ afterMark)

/-- A number by a literal that stands for it. -/
inductive SpelledNumber : JsonNumber → List UInt8 → Prop where
  | natural {value : UInt64} {whole : List (Fin 10)} {bytes : List UInt8}
      (size : Numeral.ofDigits whole = value.toNat)
      (spelled : SpelledNumeral ⟨false, whole, [], none⟩ bytes) :
      SpelledNumber (.natural value) bytes
  | negative {value : Int64} {whole : List (Fin 10)} {bytes : List UInt8} (below : value.toInt < 0)
      (size : (Numeral.ofDigits whole : Int) = -value.toInt)
      (spelled : SpelledNumeral ⟨true, whole, [], none⟩ bytes) :
      SpelledNumber (.negative value) bytes
  | float {value : Float} {numeral : Numeral} {bytes : List UInt8}
      (stands : numeral.value = .ok (.float value)) (spelled : SpelledNumeral numeral bytes) :
      SpelledNumber (.float value) bytes

/-! ## Values -/

mutual

/-- A value without white space around it. -/
inductive Spelled : Json → List UInt8 → Prop where
  | null : Spelled .null [ascii 'n', ascii 'u', ascii 'l', ascii 'l']
  | true : Spelled (.bool true) [ascii 't', ascii 'r', ascii 'u', ascii 'e']
  | false : Spelled (.bool false) [ascii 'f', ascii 'a', ascii 'l', ascii 's', ascii 'e']
  | number {number : JsonNumber} {bytes : List UInt8} (spelled : SpelledNumber number bytes) :
      Spelled (.number number) bytes
  | string {text : String} {bytes : List UInt8} (spelled : SpelledString text bytes) :
      Spelled (.string text) bytes
  | emptyArray {inside : List UInt8} (blank : Blank inside) :
      Spelled (.array []) ([ascii '['] ++ inside ++ [ascii ']'])
  | array {items : List Json} {inside : List UInt8} (spelled : SpelledItems items inside) :
      Spelled (.array items) ([ascii '['] ++ inside ++ [ascii ']'])
  | emptyObject {inside : List UInt8} (blank : Blank inside) :
      Spelled (.object []) ([0x7B] ++ inside ++ [0x7D])
  /-- The members come in any order. -/
  | object {written members : List (String × Json)} {inside : List UInt8}
      (spelled : SpelledMembers written inside) (order : written.Perm members) :
      Spelled (.object members) ([0x7B] ++ inside ++ [0x7D])

/-- The items of an array. -/
inductive SpelledItems : List Json → List UInt8 → Prop where
  | last {item : Json} {before bytes after : List UInt8} (blankBefore : Blank before)
      (spelled : Spelled item bytes) (blankAfter : Blank after) :
      SpelledItems [item] (before ++ bytes ++ after)
  | more {item : Json} {rest : List Json} {before bytes after following : List UInt8}
      (blankBefore : Blank before) (spelled : Spelled item bytes) (blankAfter : Blank after)
      (others : SpelledItems rest following) :
      SpelledItems (item :: rest) (before ++ bytes ++ after ++ [ascii ','] ++ following)

/-- The members of an object. -/
inductive SpelledMembers : List (String × Json) → List UInt8 → Prop where
  | last {key : String} {value : Json} {before name afterName beforeValue bytes after : List UInt8}
      (blankBefore : Blank before) (spelledKey : SpelledString key name)
      (blankAfterName : Blank afterName) (blankBeforeValue : Blank beforeValue)
      (spelled : Spelled value bytes) (blankAfter : Blank after) :
      SpelledMembers [(key, value)]
        (before ++ name ++ afterName ++ [ascii ':'] ++ beforeValue ++ bytes ++ after)
  | more {key : String} {value : Json} {rest : List (String × Json)}
      {before name afterName beforeValue bytes after following : List UInt8}
      (blankBefore : Blank before) (spelledKey : SpelledString key name)
      (blankAfterName : Blank afterName) (blankBeforeValue : Blank beforeValue)
      (spelled : Spelled value bytes) (blankAfter : Blank after)
      (others : SpelledMembers rest following) :
      SpelledMembers ((key, value) :: rest)
        (before ++ name ++ afterName ++ [ascii ':'] ++ beforeValue ++ bytes ++ after ++
          [ascii ','] ++ following)

end

/-- A whole text: one value, with white space around it. -/
inductive SpelledText : Json → List UInt8 → Prop where
  | text {value : Json} {before bytes after : List UInt8} (blankBefore : Blank before)
      (spelled : Spelled value bytes) (blankAfter : Blank after) :
      SpelledText value (before ++ bytes ++ after)

end Colloquy.Json
