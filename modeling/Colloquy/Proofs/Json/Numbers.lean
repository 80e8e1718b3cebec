import Colloquy.Proofs.Json.Strings

/-!
# Reading numbers

However a number is spelled, the reader finds a literal that stands for it. A literal ends only at
the byte after it, so what is found at its last byte is a literal that may end there.
-/

namespace Colloquy

open JsonLexer (ascii OpenNumeral NumeralPart)

/-! ## Literals -/

namespace JsonReader

variable (builder : JsonBuilder.State)

theorem feed_numeral_of_more {numeral next : OpenNumeral} {byte : UInt8}
    (more : numeral.step byte = .more next) :
    feed ⟨.numeral numeral, builder⟩ byte = ⟨.numeral next, builder⟩ := by
  simp [feed, JsonLexer.step, more, build]

theorem digit?_digitByte : ∀ digit, JsonLexer.digit? (Json.digitByte digit) = some digit := by
  decide

/-- A run of digits, whichever part of a literal they are put in. -/
theorem feedAll_digits {grown : List (Fin 10) → OpenNumeral}
    (grows : ∀ run digit, (grown run).step (Json.digitByte digit) = .more (grown (digit :: run)))
    (run digits : List (Fin 10)) :
    feedAll ⟨.numeral (grown run), builder⟩ (Json.digitBytes digits) =
      ⟨.numeral (grown (digits.reverse ++ run)), builder⟩ := by
  induction digits generalizing run with
  | nil => rfl
  | cons digit rest ih =>
      rw [Json.digitBytes, List.map_cons, feedAll_cons,
        feed_numeral_of_more builder (grows run digit)]
      simpa [Json.digitBytes] using ih (digit :: run)

/-- The first digit of a literal. -/
theorem feed_leading (negative : Bool) (digit : Fin 10) :
    feedAll ⟨.between, builder⟩ ((if negative then [ascii '-'] else []) ++ [Json.digitByte digit]) =
      ⟨.numeral ⟨if digit = 0 then .zero else .whole, negative, [digit], [], false, []⟩,
        builder⟩ := by
  have unsigned : ∀ digit, JsonLexer.begin (Json.digitByte digit) =
      (.numeral ⟨if digit = 0 then .zero else .whole, false, [digit], [], false, []⟩, []) := by
    decide
  cases negative with
  | false => simp [feed, JsonLexer.step, unsigned, build]
  | true =>
      have minus : JsonLexer.begin (ascii '-') = (.numeral ⟨.minus, true, [], [], false, []⟩, []) :=
        rfl
      simp [feed, JsonLexer.step, minus, OpenNumeral.step, digit?_digitByte, build]

/-- The digits before the point. -/
theorem feedAll_whole (negative : Bool) {whole : List (Fin 10)} (unpadded : Json.Whole whole) :
    ∃ part ∈ [NumeralPart.zero, .whole],
      feedAll ⟨.between, builder⟩ ((if negative then [ascii '-'] else []) ++ Json.digitBytes whole) =
        ⟨.numeral ⟨part, negative, whole.reverse, [], false, []⟩, builder⟩ := by
  cases unpadded with
  | zero => exact ⟨.zero, by simp, feed_leading builder negative 0⟩
  | leading first rest positive =>
      refine ⟨.whole, by simp, ?_⟩
      have split : Json.digitBytes (first :: rest) =
          [Json.digitByte first] ++ Json.digitBytes rest := rfl
      rw [split, ← List.append_assoc, feedAll_append, feed_leading, if_neg positive]
      have grows (run : List (Fin 10)) (digit : Fin 10) :
          (⟨.whole, negative, run, [], false, []⟩ : OpenNumeral).step (Json.digitByte digit) =
            .more ⟨.whole, negative, digit :: run, [], false, []⟩ := by
        simp [OpenNumeral.step, digit?_digitByte]
      rw [feedAll_digits builder grows, List.reverse_cons]

/-- The point and the digits after it. -/
theorem feedAll_fraction {part : NumeralPart} (ends : part ∈ [NumeralPart.zero, .whole])
    (negative : Bool) (whole : List (Fin 10)) {fraction : List (Fin 10)} {bytes : List UInt8}
    (spelled : Json.SpelledFraction fraction bytes) :
    ∃ next ∈ [NumeralPart.zero, .whole, .fraction],
      feedAll ⟨.numeral ⟨part, negative, whole, [], false, []⟩, builder⟩ bytes =
        ⟨.numeral ⟨next, negative, whole, fraction.reverse, false, []⟩, builder⟩ := by
  have parts : part = .zero ∨ part = .whole := by simpa using ends
  cases spelled with
  | none =>
      refine ⟨part, ?_, rfl⟩
      obtain rfl | rfl := parts
      all_goals simp
  | some first rest =>
      have grows (run : List (Fin 10)) (digit : Fin 10) :
          (⟨.fraction, negative, whole, run, false, []⟩ : OpenNumeral).step
            (Json.digitByte digit) = .more ⟨.fraction, negative, whole, digit :: run, false, []⟩ := by
        simp [OpenNumeral.step, digit?_digitByte]
      have point : (⟨part, negative, whole, [], false, []⟩ : OpenNumeral).step (ascii '.') =
          .more ⟨.point, negative, whole, [], false, []⟩ := by
        obtain rfl | rfl := parts
        all_goals rfl
      have begun : (⟨.point, negative, whole, [], false, []⟩ : OpenNumeral).step
          (Json.digitByte first) = .more ⟨.fraction, negative, whole, [first], false, []⟩ := by
        simp [OpenNumeral.step, digit?_digitByte]
      refine ⟨.fraction, by simp, ?_⟩
      rw [feedAll_cons, feed_numeral_of_more builder point, Json.digitBytes, List.map_cons,
        feedAll_cons, feed_numeral_of_more builder begun, ← Json.digitBytes,
        feedAll_digits builder grows, List.reverse_cons]

/-- The sign of the exponent, if there is one, and its first digit. -/
theorem feedAll_exponentStart (negative : Bool) (whole fraction : List (Fin 10)) {down : Bool}
    {sign : List UInt8}
    (signed : (down, sign) ∈ [(false, []), (false, [ascii '+']), (true, [ascii '-'])])
    (first : Fin 10) :
    feedAll ⟨.numeral ⟨.mark, negative, whole, fraction, false, []⟩, builder⟩
        (sign ++ [Json.digitByte first]) =
      ⟨.numeral ⟨.exponent, negative, whole, fraction, down, [first]⟩, builder⟩ := by
  have plus : (⟨.mark, negative, whole, fraction, false, []⟩ : OpenNumeral).step (ascii '+') =
      .more ⟨.exponentSign, negative, whole, fraction, false, []⟩ := rfl
  have minus : (⟨.mark, negative, whole, fraction, false, []⟩ : OpenNumeral).step (ascii '-') =
      .more ⟨.exponentSign, negative, whole, fraction, true, []⟩ := rfl
  have digit (part : NumeralPart) (marked : part = .mark ∨ part = .exponentSign) :
      (⟨part, negative, whole, fraction, down, []⟩ : OpenNumeral).step (Json.digitByte first) =
        .more ⟨.exponent, negative, whole, fraction, down, [first]⟩ := by
    obtain rfl | rfl := marked
    all_goals simp [OpenNumeral.step, digit?_digitByte]
  simp only [List.mem_cons, Prod.mk.injEq, List.not_mem_nil, or_false] at signed
  obtain ⟨rfl, rfl⟩ | ⟨rfl, rfl⟩ | ⟨rfl, rfl⟩ := signed
  · rw [List.nil_append, feedAll_cons, feed_numeral_of_more builder (digit .mark (.inl rfl))]
    rfl
  · rw [List.singleton_append, feedAll_cons, feed_numeral_of_more builder plus, feedAll_cons,
      feed_numeral_of_more builder (digit .exponentSign (.inr rfl))]
    rfl
  · rw [List.singleton_append, feedAll_cons, feed_numeral_of_more builder minus, feedAll_cons,
      feed_numeral_of_more builder (digit .exponentSign (.inr rfl))]
    rfl

/-- The mark of the exponent and what follows it. -/
theorem feedAll_exponent {part : NumeralPart} (ends : part ∈ [NumeralPart.zero, .whole, .fraction])
    (negative : Bool) (whole fraction : List (Fin 10)) {exponent : Option (Bool × List (Fin 10))}
    {bytes : List UInt8} (spelled : Json.SpelledExponent exponent bytes) :
    ∃ numeral : OpenNumeral, numeral.isComplete = true ∧
      numeral.close = ⟨negative, whole.reverse, fraction.reverse, exponent⟩ ∧
      feedAll ⟨.numeral ⟨part, negative, whole, fraction, false, []⟩, builder⟩ bytes =
        ⟨.numeral numeral, builder⟩ := by
  have parts : part = .zero ∨ part = .whole ∨ part = .fraction := by simpa using ends
  cases spelled with
  | none =>
      refine ⟨_, ?_, ?_, rfl⟩
      · obtain rfl | rfl | rfl := parts
        all_goals rfl
      · obtain rfl | rfl | rfl := parts
        all_goals simp [OpenNumeral.close]
  | @some mark marked down sign signed first rest =>
      have opened : (⟨part, negative, whole, fraction, false, []⟩ : OpenNumeral).step mark =
          .more ⟨.mark, negative, whole, fraction, false, []⟩ := by
        obtain rfl | rfl : mark = ascii 'e' ∨ mark = ascii 'E' := by simpa using marked
        all_goals obtain rfl | rfl | rfl := parts
        all_goals rfl
      have grows (run : List (Fin 10)) (digit : Fin 10) :
          (⟨.exponent, negative, whole, fraction, down, run⟩ : OpenNumeral).step
            (Json.digitByte digit) =
              .more ⟨.exponent, negative, whole, fraction, down, digit :: run⟩ := by
        simp [OpenNumeral.step, digit?_digitByte]
      have split : sign ++ Json.digitBytes (first :: rest) =
          sign ++ [Json.digitByte first] ++ Json.digitBytes rest := by
        simp [Json.digitBytes]
      refine ⟨⟨.exponent, negative, whole, fraction, down, (first :: rest).reverse⟩, rfl, ?_, ?_⟩
      · simp [OpenNumeral.close]
      · rw [feedAll_cons, feed_numeral_of_more builder opened, split, feedAll_append,
          feedAll_exponentStart builder negative whole fraction signed first,
          feedAll_digits builder grows, List.reverse_cons]

end JsonReader

/-- However a literal is spelled, the reader has it at its last byte. -/
theorem Json.SpelledNumeral.feedAll {numeral : Numeral} {bytes : List UInt8}
    (spelled : SpelledNumeral numeral bytes) (builder : JsonBuilder.State) :
    ∃ found : OpenNumeral, found.isComplete = true ∧ found.close = numeral ∧
      JsonReader.feedAll ⟨.between, builder⟩ bytes = ⟨.numeral found, builder⟩ := by
  cases spelled with
  | @literal negative whole fraction _ _ _ unpadded spelledFraction spelledExponent =>
      obtain ⟨part, ends, first⟩ := JsonReader.feedAll_whole builder negative unpadded
      obtain ⟨next, ends, second⟩ :=
        JsonReader.feedAll_fraction builder ends negative whole.reverse spelledFraction
      obtain ⟨found, complete, close, third⟩ := JsonReader.feedAll_exponent builder ends negative
        whole.reverse fraction.reverse spelledExponent
      refine ⟨found, complete, ?_, ?_⟩
      · rw [close, List.reverse_reverse, List.reverse_reverse]
      · rw [JsonReader.feedAll_append, JsonReader.feedAll_append, first, second, third]

/-! ## Values -/

namespace Numeral

/-- Reading on makes a number no smaller. -/
theorem le_foldl_digits (value : Nat) (digits : List (Fin 10)) :
    value ≤ digits.foldl (fun (value : Nat) (digit : Fin 10) => value * 10 + digit.val) value := by
  induction digits generalizing value with
  | nil => exact Nat.le_refl value
  | cons digit rest ih => exact Nat.le_trans (by omega) (ih (value * 10 + digit.val))

/-- Digits of a number that 64 bits hold are all taken. -/
theorem absorb_eq {value : Nat} {digits : List (Fin 10)}
    (fits : digits.foldl (fun (value : Nat) (digit : Fin 10) => value * 10 + digit.val) value ≤
      largestWord) :
    absorb value digits =
      (digits.foldl (fun (value : Nat) (digit : Fin 10) => value * 10 + digit.val) value, []) := by
  induction digits generalizing value with
  | nil => rfl
  | cons digit rest ih =>
      have room : value * 10 + digit.val ≤ largestWord := Nat.le_trans (le_foldl_digits _ rest) fits
      rw [absorb, if_pos room]
      exact ih fits

end Numeral

/-- However a number is spelled, its literal stands for it. -/
theorem Json.SpelledNumber.numeral {number : JsonNumber} {bytes : List UInt8}
    (spelled : SpelledNumber number bytes) :
    ∃ numeral : Numeral, numeral.value = .ok number ∧ SpelledNumeral numeral bytes := by
  cases spelled with
  | float stands spelled => exact ⟨_, stands, spelled⟩
  | @natural value whole _ size spelled =>
      have fits : Numeral.ofDigits whole ≤ Numeral.largestWord := by
        have bound := value.toNat_lt
        rw [Numeral.largestWord]
        omega
      have absorbed : Numeral.absorb 0 whole = (value.toNat, []) := size ▸ Numeral.absorb_eq fits
      refine ⟨_, ?_, spelled⟩
      simp [Numeral.value, absorbed]
  | @negative value whole _ below size spelled =>
      have least : -0x8000000000000000 ≤ value.toInt := value.minValue_le_toInt
      have positive : 0 < Numeral.ofDigits whole := by omega
      have small : Numeral.ofDigits whole ≤ 0x8000000000000000 := by omega
      have absorbed : Numeral.absorb 0 whole = (Numeral.ofDigits whole, []) :=
        Numeral.absorb_eq (Nat.le_trans small (by decide))
      refine ⟨_, ?_, spelled⟩
      simp [Numeral.value, absorbed, positive, small, size]

end Colloquy
