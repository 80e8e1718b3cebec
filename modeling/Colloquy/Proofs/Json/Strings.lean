import Colloquy.Json.Reading
import Colloquy.Proofs.Json.Spelling

/-!
# Reading strings

However a string is spelled, the reader finds the text again. Inside the quotes every character
leaves pieces behind that stand for its bytes in UTF-8.
-/

namespace Colloquy

open JsonLexer (ascii)

namespace JsonReader

theorem feedAll_append (reader : JsonReader) (first second : List UInt8) :
    reader.feedAll (first ++ second) = (reader.feedAll first).feedAll second :=
  List.foldl_append

@[simp]
theorem feedAll_nil (reader : JsonReader) : reader.feedAll [] = reader :=
  rfl

@[simp]
theorem feedAll_cons (reader : JsonReader) (byte : UInt8) (rest : List UInt8) :
    reader.feedAll (byte :: rest) = (reader.feed byte).feedAll rest :=
  rfl

variable (before : Quoted) (builder : JsonBuilder.State)

/-- A byte that stands for itself inside a string. -/
def Literal (byte : UInt8) : Prop :=
  byte ≠ ascii '"' ∧ byte ≠ ascii '\\' ∧ 0x20 ≤ byte.toNat

theorem feed_quoted_of_literal {byte : UInt8} (literal : Literal byte) :
    feed ⟨.quoted before, builder⟩ byte = ⟨.quoted (.byte byte :: before), builder⟩ := by
  obtain ⟨unquoted, unescaped, visible⟩ := literal
  simp [feed, JsonLexer.step, unquoted, unescaped, Nat.not_lt.mpr visible, build]

theorem feedAll_quoted_of_literal {bytes : List UInt8} (literal : ∀ byte ∈ bytes, Literal byte) :
    feedAll ⟨.quoted before, builder⟩ bytes =
      ⟨.quoted ((bytes.map QuotedPiece.byte).reverse ++ before), builder⟩ := by
  induction bytes generalizing before with
  | nil => rfl
  | cons byte rest ih =>
      rw [feedAll_cons, feed_quoted_of_literal before builder (literal byte List.mem_cons_self),
        ih _ fun other member => literal other (List.mem_cons_of_mem byte member)]
      simp

end JsonReader

/-! ## Characters -/

namespace Quoted

/-- The pieces stand for bytes, whatever stands around them. -/
def Denote (pieces : Quoted) (bytes : List UInt8) : Prop :=
  ∀ done rest, bytesOnto done (pieces ++ rest) = bytesOnto (bytes.reverse ++ done) rest

theorem denote_append {first second : Quoted} {bytes more : List UInt8}
    (denotes : first.Denote bytes) (others : second.Denote more) :
    (first ++ second).Denote (bytes ++ more) := by
  intro done rest
  rw [List.append_assoc, denotes, others, List.reverse_append, List.append_assoc]

theorem denote_bytes (bytes : List UInt8) : Denote (bytes.map QuotedPiece.byte) bytes := by
  induction bytes with
  | nil => exact fun done rest => rfl
  | cons byte others ih =>
      intro done rest
      rw [List.map_cons, List.cons_append, bytesOnto, ih]
      simp

/-- Surrogates are no characters. -/
theorem not_surrogate (character : Char) :
    isLow character.toNat = false ∧ isHigh character.toNat = false := by
  have valid : character.toNat < 0xD800 ∨ 0xDFFF < character.toNat ∧ character.toNat < 0x110000 :=
    character.valid
  simp only [isLow, isHigh, Bool.and_eq_false_iff, decide_eq_false_iff_not]
  omega

theorem denote_unit (character : Char) :
    Denote [.unit character.toNat] (String.utf8EncodeChar character) := by
  intro done rest
  obtain ⟨low, high⟩ := not_surrogate character
  rw [List.singleton_append, bytesOnto.eq_def]
  simp [low, high]

theorem denote_pair {character : Char} {high low : Nat} (leading : 0xD800 ≤ high ∧ high ≤ 0xDBFF)
    (trailing : 0xDC00 ≤ low ∧ low ≤ 0xDFFF)
    (code : character.toNat = 0x10000 + (high - 0xD800) * 0x400 + (low - 0xDC00)) :
    Denote [.unit high, .unit low] (String.utf8EncodeChar character) := by
  intro done rest
  have isHigh : isHigh high = true := by simpa [isHigh] using leading
  have isLow : isLow low = true := by simpa [isLow] using trailing
  have other : Quoted.isLow high = false := by
    simp only [Quoted.isLow, Bool.and_eq_false_iff, decide_eq_false_iff_not]
    omega
  have same : pair high low = character := by
    rw [pair, ← code, Char.ofNat_toNat]
  simp [bytesOnto, isHigh, isLow, other, same]

end Quoted

namespace Json

/-- A byte of a longer code stands for itself. -/
theorem literal_of_large {code : Nat} (large : 0x80 ≤ code) (small : code < 0x100) :
    JsonReader.Literal (UInt8.ofNat code) := by
  have value : (UInt8.ofNat code).toNat = code := UInt8.toNat_ofNat_of_lt' small
  refine ⟨?_, ?_, by omega⟩
  · rintro same
    rw [same] at value
    have quote : (ascii '"').toNat = 0x22 := rfl
    omega
  · rintro same
    rw [same] at value
    have backslash : (ascii '\\').toNat = 0x5C := rfl
    omega

/-- The bytes of a character that needs no escape stand for themselves. -/
theorem literal_utf8EncodeChar {character : Char} (visible : 0x20 ≤ character.toNat)
    (unquoted : character ≠ '"') (unescaped : character ≠ '\\') :
    ∀ byte ∈ String.utf8EncodeChar character, JsonReader.Literal byte := by
  fun_cases String.utf8EncodeChar character with
  | case1 code short =>
      have value : (UInt8.ofNat code).toNat = character.toNat :=
        UInt8.toNat_ofNat_of_lt' (Nat.lt_of_le_of_lt short (by decide))
      have told {other : Char} (plain : (ascii other).toNat = other.toNat)
          (same : UInt8.ofNat code = ascii other) : character = other :=
        Char.toNat_inj.mp (value.symm.trans ((congrArg UInt8.toNat same).trans plain))
      intro byte member
      obtain rfl := List.mem_singleton.mp member
      exact ⟨fun same => unquoted (told rfl same), fun same => unescaped (told rfl same),
        value ▸ visible⟩
  | case2 code =>
      simp only [List.mem_cons, List.not_mem_nil, or_false, forall_eq_or_imp, forall_eq]
      exact ⟨literal_of_large (by omega) (by omega), literal_of_large (by omega) (by omega)⟩
  | case3 code =>
      simp only [List.mem_cons, List.not_mem_nil, or_false, forall_eq_or_imp, forall_eq]
      exact ⟨literal_of_large (by omega) (by omega), literal_of_large (by omega) (by omega),
        literal_of_large (by omega) (by omega)⟩
  | case4 code =>
      simp only [List.mem_cons, List.not_mem_nil, or_false, forall_eq_or_imp, forall_eq]
      exact ⟨literal_of_large (by omega) (by omega), literal_of_large (by omega) (by omega),
        literal_of_large (by omega) (by omega), literal_of_large (by omega) (by omega)⟩

theorem HexDigit.hexDigit? {value : Nat} {byte : UInt8} (digit : HexDigit value byte) :
    JsonLexer.hexDigit? byte = some value := by
  have decimal : ∀ value < 10, JsonLexer.hexDigit? (ascii '0' + value.toUInt8) = some value := by
    decide
  have lower : ∀ value < 6,
      JsonLexer.hexDigit? (ascii 'a' + value.toUInt8) = some (10 + value) := by
    decide
  have upper : ∀ value < 6,
      JsonLexer.hexDigit? (ascii 'A' + value.toUInt8) = some (10 + value) := by
    decide
  cases digit with
  | decimal value small => exact decimal value small
  | lower value small => exact lower value small
  | upper value small => exact upper value small

theorem SpelledUnit.feedAll {value : Nat} {bytes : List UInt8} (spelled : SpelledUnit value bytes)
    (before : Quoted) (builder : JsonBuilder.State) :
    JsonReader.feedAll ⟨.quoted before, builder⟩ bytes =
      ⟨.quoted (.unit value :: before), builder⟩ := by
  cases spelled with
  | @escape a b c d first second third fourth thousands hundreds tens ones =>
      have number : JsonLexer.hexNumber? [first, second, third, fourth] =
          some (((a * 16 + b) * 16 + c) * 16 + d) := by
        simp [JsonLexer.hexNumber?, thousands.hexDigit?, hundreds.hexDigit?, tens.hexDigit?,
          ones.hexDigit?]
      simp [JsonReader.feed, JsonLexer.step, JsonReader.build, number,
        show ascii '\\' ≠ ascii '"' by decide]

/-- A character leaves pieces behind that stand for it. -/
theorem SpelledChar.feedAll {character : Char} {bytes : List UInt8}
    (spelled : SpelledChar character bytes) :
    ∃ pieces : Quoted, pieces.Denote (String.utf8EncodeChar character) ∧
      ∀ before builder, JsonReader.feedAll ⟨.quoted before, builder⟩ bytes =
        ⟨.quoted (pieces.reverse ++ before), builder⟩ := by
  cases spelled with
  | plain visible unquoted unescaped =>
      exact ⟨_, Quoted.denote_bytes _, fun before builder =>
        JsonReader.feedAll_quoted_of_literal before builder
          (literal_utf8EncodeChar visible unquoted unescaped)⟩
  | @short letter listed =>
      have table : ∀ escape ∈ shortEscapes, ascii escape.2 ≠ ascii 'u' ∧
          JsonLexer.escape? (ascii escape.2) = some (ascii escape.1) ∧
          String.utf8EncodeChar escape.1 = [ascii escape.1] := by decide
      obtain ⟨letterless, escaped, encoded⟩ := table _ listed
      refine ⟨[.byte (ascii character)], encoded ▸ Quoted.denote_bytes [_], ?_⟩
      intro before builder
      simp [JsonReader.feed, JsonLexer.step, JsonReader.build, letterless, escaped,
        show ascii '\\' ≠ ascii '"' by decide]
  | unit unit =>
      exact ⟨_, Quoted.denote_unit character, fun before builder => unit.feedAll before builder⟩
  | pair leading trailing code spelledHigh spelledLow =>
      refine ⟨_, Quoted.denote_pair leading trailing code, ?_⟩
      intro before builder
      rw [JsonReader.feedAll_append, spelledHigh.feedAll, spelledLow.feedAll]
      rfl

theorem SpelledChars.feedAll {characters : List Char} {bytes : List UInt8}
    (spelled : SpelledChars characters bytes) :
    ∃ pieces : Quoted, pieces.Denote (characters.flatMap String.utf8EncodeChar) ∧
      ∀ before builder, JsonReader.feedAll ⟨.quoted before, builder⟩ bytes =
        ⟨.quoted (pieces.reverse ++ before), builder⟩ := by
  induction spelled with
  | nil => exact ⟨[], fun done rest => rfl, fun before builder => rfl⟩
  | cons first following ih =>
      obtain ⟨pieces, denotes, reads⟩ := first.feedAll
      obtain ⟨more, others, continues⟩ := ih
      refine ⟨pieces ++ more, Quoted.denote_append denotes others, ?_⟩
      intro before builder
      rw [JsonReader.feedAll_append, reads, continues, List.reverse_append, List.append_assoc]

end Json

/-- Pieces that stand for the bytes of a text are that text. -/
theorem Quoted.text_of_denote {pieces : Quoted} {characters : List Char}
    (denotes : pieces.Denote (characters.flatMap String.utf8EncodeChar)) :
    pieces.text = .ok (String.ofList characters) := by
  have bytes : pieces.bytesOnto [] = some (characters.flatMap String.utf8EncodeChar) := by
    simpa [bytesOnto] using denotes [] []
  have encoded : (characters.flatMap String.utf8EncodeChar).toByteArray =
      (String.ofList characters).toByteArray := String.toByteArray_ofList.symm
  have valid := (String.ofList characters).isValidUTF8
  have found : pieces.text? = some (String.ofList characters) := by
    rw [text?, bytes, Option.bind_some, encoded, String.fromUTF8?, dif_pos valid]
    rfl
  rw [text, found]

/-- However a string is spelled, its token is the text. -/
theorem Json.SpelledString.feedAll {text : String} {bytes : List UInt8}
    (spelled : SpelledString text bytes) :
    ∃ pieces : Quoted, pieces.text = .ok text ∧ ∀ builder,
      JsonReader.feedAll ⟨.between, builder⟩ bytes =
        ⟨.between, JsonBuilder.step builder (.string pieces)⟩ := by
  cases spelled with
  | quoted spelled =>
      obtain ⟨pieces, denotes, reads⟩ := spelled.feedAll
      refine ⟨pieces, by simpa using Quoted.text_of_denote denotes, ?_⟩
      intro builder
      have opened : JsonReader.feedAll ⟨.between, builder⟩ [ascii '"'] =
          ⟨.quoted [], builder⟩ := rfl
      have closed (found : Quoted) : JsonReader.feedAll ⟨.quoted found, builder⟩ [ascii '"'] =
          ⟨.between, JsonBuilder.step builder (.string found.reverse)⟩ := rfl
      rw [JsonReader.feedAll_append, JsonReader.feedAll_append, opened, reads, closed]
      simp

end Colloquy
