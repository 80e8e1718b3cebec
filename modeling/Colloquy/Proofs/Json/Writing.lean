import Mathlib.Data.List.Basic
import Colloquy.Json.Basic
import Colloquy.Proofs.Json.Spelling

/-!
# What is written is spelled

The texts that are written for strings and for whole numbers are spellings of them.
-/

namespace Colloquy

namespace Text

/-- The bytes of a text. -/
def utf8 (text : String) : List UInt8 :=
  text.toUTF8.data.toList

@[simp]
theorem utf8_ofList (characters : List Char) :
    utf8 (String.ofList characters) = characters.flatMap String.utf8EncodeChar := by
  rw [utf8, String.toUTF8_eq_toByteArray, String.toByteArray_ofList, List.utf8Encode,
    List.toList_data_toByteArray]

@[simp]
theorem utf8_append (left right : String) : utf8 (left ++ right) = utf8 left ++ utf8 right := by
  simp [utf8, String.toByteArray_append]

end Text

namespace Json

open JsonLexer (ascii)
open Text (utf8)

/-! ## Whole numbers -/

theorem ofDigits_append_digit (digits : List (Fin 10)) (last : Fin 10) :
    Numeral.ofDigits (digits ++ [last]) = Numeral.ofDigits digits * 10 + last.val := by
  rw [Numeral.ofDigits, List.foldl_append]
  rfl

theorem Whole.append_digit {digits : List (Fin 10)} (whole : Whole digits)
    (positive : 0 < Numeral.ofDigits digits) (last : Fin 10) : Whole (digits ++ [last]) := by
  cases whole with
  | zero => contradiction
  | leading first rest nonzero => exact .leading first (rest ++ [last]) nonzero

theorem whole_singleton (digit : Fin 10) : Whole [digit] := by
  by_cases zero : digit = 0
  · exact zero ▸ .zero
  · exact .leading digit [] zero

theorem utf8EncodeChar_digitChar (digit : Fin 10) :
    String.utf8EncodeChar (Nat.digitChar digit.val) = [digitByte digit] := by
  decide +revert

/-- The decimal digits of a number are those that stand for it, without a zero in front. -/
theorem exists_digits (value : Nat) :
    ∃ digits, Whole digits ∧ Numeral.ofDigits digits = value ∧
      (Nat.toDigits 10 value).flatMap String.utf8EncodeChar = digitBytes digits := by
  induction value using Nat.strongRecOn with
  | ind value ih =>
      by_cases single : value < 10
      · refine ⟨[⟨value, single⟩], whole_singleton _, by simp [Numeral.ofDigits], ?_⟩
        rw [Nat.toDigits_of_lt_base single]
        simpa [digitBytes] using utf8EncodeChar_digitChar ⟨value, single⟩
      · obtain ⟨digits, whole, size, written⟩ := ih (value / 10) (by omega)
        have last : value % 10 < 10 := by omega
        refine ⟨digits ++ [⟨value % 10, last⟩], ?_, ?_, ?_⟩
        · exact whole.append_digit (by omega) _
        · rw [ofDigits_append_digit, size]
          exact Nat.div_add_mod' value 10
        · rw [Nat.toDigits_eq_if (by decide), if_neg single, List.flatMap_append, written]
          simpa [digitBytes] using utf8EncodeChar_digitChar ⟨value % 10, last⟩

theorem spelledNumber_natural (value : UInt64) :
    SpelledNumber (.natural value) (utf8 (toString value.toNat)) := by
  obtain ⟨digits, whole, size, written⟩ := exists_digits value.toNat
  have literal := SpelledNumeral.literal false whole .none .none
  rw [Nat.toString_eq_ofList_toDigits, Text.utf8_ofList, written]
  apply SpelledNumber.natural size
  simpa using literal

/-! ## Strings -/

theorem exists_hexDigit {value : Nat} (small : value < 16) :
    ∃ byte, String.utf8EncodeChar (hexDigit value) = [byte] ∧ HexDigit value byte := by
  have decimal : ∀ value < 10,
      String.utf8EncodeChar (hexDigit value) = [ascii '0' + value.toUInt8] := by decide
  have lower : ∀ value < 6,
      String.utf8EncodeChar (hexDigit (10 + value)) = [ascii 'a' + value.toUInt8] := by decide
  by_cases below : value < 10
  · exact ⟨_, decimal value below, .decimal value below⟩
  · obtain ⟨rest, rfl⟩ := Nat.exists_eq_add_of_le (Nat.le_of_not_lt below)
    have few : rest < 6 := by omega
    exact ⟨_, lower rest few, .lower rest few⟩

theorem spelledChar_short {character letter : Char} (listed : (character, letter) ∈ shortEscapes) :
    SpelledChar character (['\\', letter].flatMap String.utf8EncodeChar) := by
  have table : ∀ escape ∈ shortEscapes,
      ['\\', escape.2].flatMap String.utf8EncodeChar = [ascii '\\', ascii escape.2] := by decide
  rw [table _ listed]
  exact .short listed

/-- A control character is written by the four digits of its code. -/
theorem spelledChar_control {character : Char} (control : character.toNat < 32) :
    SpelledChar character
      (['\\', 'u', '0', '0', hexDigit (character.toNat / 16), hexDigit (character.toNat % 16)].flatMap
        String.utf8EncodeChar) := by
  obtain ⟨sixteens, writtenSixteens, high⟩ : ∃ byte, _ ∧ HexDigit (character.toNat / 16) byte :=
    exists_hexDigit (by omega)
  obtain ⟨ones, writtenOnes, low⟩ : ∃ byte, _ ∧ HexDigit (character.toNat % 16) byte :=
    exists_hexDigit (by omega)
  have zero : HexDigit 0 (ascii '0') := .decimal 0 (by decide)
  have unit := SpelledUnit.escape zero zero high low
  have code : ((0 * 16 + 0) * 16 + character.toNat / 16) * 16 + character.toNat % 16 =
      character.toNat := by omega
  have front : ['\\', 'u', '0', '0'].flatMap String.utf8EncodeChar =
      [ascii '\\', ascii 'u', ascii '0', ascii '0'] := by decide
  have written : (['\\', 'u', '0', '0'] ++ [hexDigit (character.toNat / 16),
      hexDigit (character.toNat % 16)]).flatMap String.utf8EncodeChar =
        [ascii '\\', ascii 'u', ascii '0', ascii '0', sixteens, ones] := by
    rw [List.flatMap_append, front]
    simp [writtenSixteens, writtenOnes]
  rw [code] at unit
  exact written ▸ .unit unit

theorem spelledChar_escapeChar (character : Char) :
    SpelledChar character ((escapeChar character).flatMap String.utf8EncodeChar) := by
  fun_cases escapeChar character with
  | case1 same | case2 _ same | case3 _ _ same | case4 _ _ _ same | case5 _ _ _ _ same =>
      subst same
      exact spelledChar_short (by decide)
  | case6 _ _ _ _ _ code =>
      have same : character = '\x08' := Char.toNat_inj.mp code
      subst same
      exact spelledChar_short (by decide)
  | case7 _ _ _ _ _ _ code =>
      have same : character = '\x0c' := Char.toNat_inj.mp code
      subst same
      exact spelledChar_short (by decide)
  | case8 _ _ _ _ _ _ _ control => exact spelledChar_control control
  | case9 unquoted unescaped _ _ _ _ _ visible =>
      rw [List.flatMap_singleton]
      exact .plain character (Nat.le_of_not_lt visible) unquoted unescaped

theorem spelledChars_flatMap_escapeChar (characters : List Char) :
    SpelledChars characters ((characters.flatMap escapeChar).flatMap String.utf8EncodeChar) := by
  induction characters with
  | nil => exact .nil
  | cons character rest ih =>
      rw [List.flatMap_cons, List.flatMap_append]
      exact .cons (spelledChar_escapeChar character) ih

/-- A string literal is a spelling of its text. -/
theorem spelledString_quoteText (text : String) : SpelledString text (utf8 (quoteText text)) := by
  have mark : utf8 "\"" = [ascii '"'] := by decide
  rw [quoteText, Text.utf8_append, Text.utf8_append, mark, Text.utf8_ofList]
  exact .quoted (spelledChars_flatMap_escapeChar text.toList)

end Json

end Colloquy
