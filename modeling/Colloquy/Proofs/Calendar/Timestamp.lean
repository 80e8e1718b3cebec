import Mathlib.Data.List.TakeWhile
import Mathlib.Tactic.ByContra
import Colloquy.Calendar.Timestamp

/-!
# Both forms of a timestamp

A timestamp with every field in full can be read in the plain form as it stands, and in the zoned form
once an offset follows. Both readings name the same instant, moved by the offset, or both name none.
-/

namespace Colloquy

/-- The instant so many seconds later. -/
def Instant.moved (instant : Instant) (seconds : Int) : Instant :=
  { instant with seconds := instant.seconds + seconds }

namespace Timestamp

/-! ## Digits -/

/-- Whether a character is a decimal digit. -/
def IsDigit (character : Char) : Prop := (digit? character).isSome

instance : DecidablePred IsDigit :=
  fun character => inferInstanceAs (Decidable ((digit? character).isSome = true))

/-- So many decimal digits. -/
structure Digits (count : Nat) where
  text : List Char
  length : text.length = count
  digits : ∀ character ∈ text, IsDigit character

/-- The values of the digits of a text. -/
def values (text : List Char) : List Nat :=
  text.filterMap digit?

/-- The number that digits write. -/
def Digits.value {count : Nat} (digits : Digits count) : Nat :=
  ofDigits (values digits.text)

theorem isDigit_iff {character : Char} :
    IsDigit character ↔ '0' ≤ character ∧ character ≤ '9' := by
  unfold IsDigit digit?
  split
  next inside => simpa using inside
  next outside => simpa using outside

/-- A digit is neither blank nor one of the signs that stand between numbers. -/
theorem IsDigit.not_blank {character : Char} (digit : IsDigit character) :
    Text.isBlank character = false ∧ character ≠ '-' ∧ character ≠ '+' := by
  have range := isDigit_iff.mp digit
  have low : 48 ≤ character.toNat := range.1
  have high : character.toNat ≤ 57 := range.2
  refine ⟨?_, ?_, ?_⟩
  · simp [Text.isBlank]
    omega
  · rintro rfl
    exact absurd low (by decide)
  · rintro rfl
    exact absurd low (by decide)

/-- No further digit and no point follows. -/
def EndsNumber (rest : List Char) : Prop :=
  ∀ character ∈ rest.head?, ¬IsDigit character ∧ character ≠ '.'

/-- Digits are taken until there are enough of them, or no more. -/
theorem takeDigits_append {digits : List Char} (all : ∀ character ∈ digits, IsDigit character)
    {most : Nat} {rest : List Char}
    (stop : most ≤ digits.length ∨ EndsNumber rest) :
    takeDigits most (digits ++ rest) =
      (values (digits.take most), digits.drop most ++ rest) := by
  induction digits generalizing most with
  | nil =>
      cases most with
      | zero => simp [takeDigits, values]
      | succ most =>
          have ends : EndsNumber rest := stop.resolve_left (by simp)
          cases rest with
          | nil => rfl
          | cons first others =>
              have none : digit? first = none := by simpa [IsDigit] using (ends first rfl).1
              simp [takeDigits, none, values]
  | cons first others ih =>
      obtain ⟨firstDigit, others⟩ := List.forall_mem_cons.mp all
      cases most with
      | zero => simp [takeDigits, values]
      | succ most =>
          obtain ⟨value, read⟩ := Option.isSome_iff_exists.mp firstDigit
          have more := ih others (stop.imp_left Nat.le_of_succ_le_succ)
          simp [takeDigits, read, more, values]

theorem length_values {text : List Char} (all : ∀ character ∈ text, IsDigit character) :
    (values text).length = text.length := by
  induction text with
  | nil => rfl
  | cons first others ih =>
      obtain ⟨firstDigit, others⟩ := List.forall_mem_cons.mp all
      obtain ⟨value, read⟩ := Option.isSome_iff_exists.mp firstDigit
      have rest := ih others
      simp only [values] at rest ⊢
      simp [read, rest]

/-- A number has no more places than digits. -/
theorem Digits.value_lt {count : Nat} (digits : Digits count) :
    digits.value < Nat.pow 10 count := by
  have small : ∀ digit ∈ values digits.text, digit ≤ 9 := by
    intro digit among
    obtain ⟨character, -, read⟩ := List.mem_filterMap.mp among
    unfold digit? at read
    split at read
    next range =>
      obtain rfl := Option.some.inj read
      have high : character.toNat ≤ 57 := range.2
      omega
    next => contradiction
  have bounded : ∀ (digits : List Nat) (start : Nat), (∀ digit ∈ digits, digit ≤ 9) →
      digits.foldl (fun value digit => value * 10 + digit) start <
        (start + 1) * Nat.pow 10 digits.length := by
    intro digits
    induction digits with
    | nil => simp
    | cons digit rest ih =>
        intro start small
        obtain ⟨digitSmall, small⟩ := List.forall_mem_cons.mp small
        calc
          (digit :: rest).foldl (fun value digit => value * 10 + digit) start
            < (start * 10 + digit + 1) * Nat.pow 10 rest.length := ih _ small
          _ ≤ ((start + 1) * 10) * Nat.pow 10 rest.length := Nat.mul_le_mul_right _ (by omega)
          _ = (start + 1) * (Nat.pow 10 rest.length * 10) := by rw [Nat.mul_assoc, Nat.mul_comm 10]
  have whole := bounded (values digits.text) 0 small
  rwa [length_values digits.digits, digits.length, Nat.zero_add, Nat.one_mul] at whole

section

variable {count least : Nat} (digits : Digits count) (rest : List Char)

/-- A number in all its digits is read whatever follows. -/
theorem number?_digits (enough : least ≤ count) :
    number? least count (digits.text ++ rest) = some (digits.value, rest) := by
  have taken : takeDigits count (digits.text ++ rest) =
      (values (digits.text.take count), digits.text.drop count ++ rest) :=
    takeDigits_append digits.digits (.inl (Nat.le_of_eq digits.length.symm))
  have whole : digits.text.take count = digits.text :=
    List.take_of_length_le (Nat.le_of_eq digits.length)
  have nothing : digits.text.drop count = [] :=
    List.drop_of_length_le (Nat.le_of_eq digits.length)
  rw [whole, nothing, List.nil_append] at taken
  simp only [number?, taken, length_values digits.digits, digits.length]
  rw [if_pos enough]
  rfl

theorem Digits.exists_text (positive : 0 < count) :
    ∃ first others, digits.text = first :: others ∧ IsDigit first := by
  cases same : digits.text with
  | nil =>
      have length := digits.length
      rw [same] at length
      exact absurd length (Nat.ne_of_lt positive)
  | cons first others => exact ⟨first, others, rfl, digits.digits first (by simp [same])⟩

/-- There are no blanks to skip in front of a digit. -/
theorem Digits.dropWhile_isBlank (positive : 0 < count) :
    (digits.text ++ rest).dropWhile Text.isBlank = digits.text ++ rest := by
  obtain ⟨first, others, same, digit⟩ := digits.exists_text positive
  rw [same, List.cons_append, List.dropWhile_cons, digit.not_blank.1]
  rfl

end

theorem plainNumber?_digits (digits : Digits 2) (rest : List Char) :
    plainNumber? (digits.text ++ rest) = some (digits.value, rest) := by
  rw [plainNumber?, digits.dropWhile_isBlank rest (by decide),
    number?_digits digits rest (by decide)]

theorem plainYear?_digits (digits : Digits 4) (rest : List Char) :
    plainYear? (digits.text ++ rest) = some ((digits.value : Int), rest) := by
  obtain ⟨first, others, same, digit⟩ := digits.exists_text (by decide)
  rw [plainYear?, digits.dropWhile_isBlank rest (by decide)]
  have unsigned : number? 1 4 (digits.text ++ rest) = some (digits.value, rest) :=
    number?_digits digits rest (by decide)
  rw [same, List.cons_append] at unsigned ⊢
  split
  next signed => exact absurd (List.cons.inj signed).1 digit.not_blank.2.1
  next signed => exact absurd (List.cons.inj signed).1 digit.not_blank.2.2
  next => rw [unsigned]; rfl

theorem some_bind {α β : Type} (value : α) (next : α → Option β) :
    (some value >>= next) = next value := rfl

theorem char?_cons (character : Char) (rest : List Char) :
    char? character (character :: rest) = some rest :=
  if_pos rfl

/-! ## Timestamps in full -/

/-- A timestamp with every field in full: `dddd-dd-ddTdd:dd:dd`, and after a point any number of
digits of a fraction of a second. The point stands there only if there are any. -/
structure Stamp where
  year : Digits 4
  month : Digits 2
  day : Digits 2
  hour : Digits 2
  minute : Digits 2
  second : Digits 2
  fraction : List Char
  fraction_digits : ∀ character ∈ fraction, IsDigit character

namespace Stamp

variable (stamp : Stamp)

/-- The point and the digits of the fraction. -/
def fractionText : List Char :=
  if stamp.fraction = [] then [] else '.' :: stamp.fraction

/-- The fraction in nanoseconds: nine digits, filled up with zeros if there are fewer. -/
def nanoseconds : Nat :=
  ofDigits (values (stamp.fraction.take 9)) * Nat.pow 10 (9 - min 9 stamp.fraction.length)

/-- What the timestamp says. -/
def fields : Fields :=
  ⟨stamp.year.value, stamp.month.value, stamp.day.value, stamp.hour.value, stamp.minute.value,
    stamp.second.value, stamp.nanoseconds⟩

/-- There is such a date, and the day has such a time. -/
def IsReal : Prop :=
  (⟨stamp.year.value, stamp.month.value, stamp.day.value⟩ : Date).isValid = true ∧
    stamp.hour.value ≤ 23 ∧ stamp.minute.value ≤ 59 ∧ stamp.second.value ≤ 60

/-- The characters of the timestamp and of what follows it. -/
def followedBy (rest : List Char) : List Char :=
  stamp.year.text ++ '-' :: (stamp.month.text ++ '-' :: (stamp.day.text ++ 'T' ::
    (stamp.hour.text ++ ':' :: (stamp.minute.text ++ ':' :: (stamp.second.text ++
      (stamp.fractionText ++ rest))))))

/-- The timestamp as text. -/
def text : String :=
  String.ofList (stamp.followedBy [])

theorem toList_text_append (rest : String) :
    (stamp.text ++ rest).toList = stamp.followedBy rest.toList := by
  simp [text, followedBy]

theorem optionalFraction?_text {rest : List Char} (ends : EndsNumber rest) :
    optionalFraction? (stamp.fractionText ++ rest) = some (stamp.nanoseconds, rest) := by
  unfold fractionText nanoseconds
  split
  next none =>
    rw [none, List.nil_append]
    unfold optionalFraction?
    split
    next point => exact absurd rfl (ends '.' rfl).2
    next => rfl
  next some =>
    have taken := @takeDigits_append _ stamp.fraction_digits 9 _ (.inr ends)
    have all := fun character among =>
      stamp.fraction_digits character (List.mem_of_mem_take (i := 9) among)
    have length := length_values all
    have more : values (stamp.fraction.take 9) ≠ [] := by
      rw [← List.length_pos_iff, length, List.length_take]
      have positive := List.length_pos_iff.mpr some
      omega
    have left : (stamp.fraction.drop 9 ++ rest).dropWhile
        (fun character => (digit? character).isSome) = rest := by
      rw [List.dropWhile_append_of_pos fun character among =>
        stamp.fraction_digits character (List.mem_of_mem_drop among)]
      cases rest with
      | nil => rfl
      | cons first others => exact List.dropWhile_cons_of_neg (ends first rfl).1
    rw [List.cons_append, optionalFraction?, fraction?]
    simp only [taken, more, if_false, left, length, List.length_take]

/-- The zoned form needs an offset behind the timestamp, and nothing more. -/
theorem zoned?_followedBy {zone : List Char} (ends : EndsNumber zone) :
    zoned? (stamp.followedBy zone) = (offset? zone).bind fun found =>
      if found.2 = [] then stamp.fields.instant?.map fun instant => instant.moved (-found.1)
      else none := by
  have separated (rest : List Char) : separator? ('T' :: rest) = some rest := rfl
  simp only [zoned?, followedBy, number?_digits _ _ Nat.le.refl, char?_cons, separated,
    stamp.optionalFraction?_text ends, some_bind]
  refine congrArg _ (funext fun found => ?_)
  split
  · rw [Option.map_eq_bind]
    rfl
  · rfl

/-- The plain form is the timestamp alone. -/
theorem plain?_followedBy {zone : List Char} (ends : EndsNumber zone) :
    plain? (stamp.followedBy zone) = if zone = [] then stamp.fields.instant? else none := by
  simp only [plain?, followedBy, plainYear?_digits, plainNumber?_digits, char?_cons,
    stamp.optionalFraction?_text ends, some_bind]
  rfl

end Stamp

/-- Hours and minutes are an offset if there is such a time of day. -/
theorem offsetMinutes?_digits {hours minutes : Digits 2} (hoursFit : hours.value ≤ 23)
    (minutesFit : minutes.value ≤ 59) :
    offsetMinutes? (hours.text ++ ':' :: minutes.text) =
      some (((hours.value * 3600 + minutes.value * 60 : Nat) : Int), []) := by
  have whole : number? 2 2 (minutes.text ++ []) = some (minutes.value, []) :=
    number?_digits minutes [] Nat.le.refl
  rw [List.append_nil] at whole
  simp only [offsetMinutes?, number?_digits _ _ Nat.le.refl, char?_cons, whole,
    some_bind]
  rw [if_pos ⟨minutesFit, hoursFit⟩]

/-- What a timestamp says is an instant if there is such a date and time. -/
theorem Stamp.instant?_eq_none_iff (stamp : Stamp) :
    stamp.fields.instant? = none ↔ ¬stamp.IsReal := by
  have years : stamp.year.value < 10000 := stamp.year.value_lt
  have inRange : yearRange.1 ≤ (stamp.year.value : Int) ∧
      (stamp.year.value : Int) ≤ yearRange.2 := by
    simp only [yearRange]
    omega
  simp only [Fields.instant?, Stamp.fields, IsReal, inRange, true_and, ite_eq_right_iff,
    reduceCtorEq, imp_false]

/-- A timestamp in full is read alike in both forms: alone and with the offset `Z` it names the same
instant, or none if there is no such date or time. With an offset of hours and minutes it names that
instant moved back, or forward for a negative offset; the nanoseconds are the same. -/
theorem parse?_stamp (stamp : Stamp) :
    parse? stamp.text = stamp.fields.instant? ∧
    parse? (stamp.text ++ "Z") = parse? stamp.text ∧
    (parse? stamp.text = none ↔ ¬stamp.IsReal) ∧
    ∀ hours minutes : Digits 2, hours.value ≤ 23 → minutes.value ≤ 59 →
      let offset := String.ofList (hours.text ++ ':' :: minutes.text)
      let seconds : Int := hours.value * 3600 + minutes.value * 60
      parse? (stamp.text ++ ("+" ++ offset)) =
          (parse? stamp.text).map (fun instant => instant.moved (-seconds)) ∧
        parse? (stamp.text ++ ("-" ++ offset)) =
          (parse? stamp.text).map fun instant => instant.moved seconds := by
  have reading : ∀ zone : String, EndsNumber zone.toList →
      parse? (stamp.text ++ zone) = ((offset? zone.toList).bind fun found =>
        if found.2 = [] then stamp.fields.instant?.map fun instant => instant.moved (-found.1)
        else none).orElse fun _ => if zone.toList = [] then stamp.fields.instant? else none := by
    intro zone ends
    rw [parse?, stamp.toList_text_append, stamp.zoned?_followedBy ends,
      stamp.plain?_followedBy ends]
  have alone : parse? stamp.text = stamp.fields.instant? := by
    have read := reading "" (by simp [EndsNumber])
    rw [String.append_empty] at read
    exact read
  have zoned : ∀ (zone : String) (offset : Int), EndsNumber zone.toList → zone.toList ≠ [] →
      offset? zone.toList = some (offset, []) →
        parse? (stamp.text ++ zone) = (parse? stamp.text).map fun instant =>
          instant.moved (-offset) := by
    intro zone offset ends some read
    rw [reading zone ends, read, alone, Option.bind_some, if_pos rfl, if_neg some]
    cases stamp.fields.instant? <;> rfl
  refine ⟨alone, ?_, by rw [alone, stamp.instant?_eq_none_iff], ?_⟩
  · rw [zoned "Z" 0 (by simp [EndsNumber, IsDigit, digit?]) (by simp) rfl]
    simp [Instant.moved]
  · intro hours minutes hoursFit minutesFit offset seconds
    have digits := offsetMinutes?_digits hoursFit minutesFit
    constructor
    · have read : offset? ("+" ++ offset).toList = some (seconds, []) := by
        simpa [offset, offset?, seconds] using digits
      exact zoned _ seconds (by simp [EndsNumber, IsDigit, digit?]) (by simp) read
    · have read : offset? ("-" ++ offset).toList = some (-seconds, []) := by
        simp [offset, offset?, seconds, digits]
      rw [zoned _ (-seconds) (by simp [EndsNumber, IsDigit, digit?]) (by simp) read, Int.neg_neg]

/-- The leap second at the start of the year 0, with more digits of a fraction than are kept. -/
def leapStamp : Stamp where
  year := ⟨['0', '0', '0', '0'], rfl, by simp [IsDigit, digit?]⟩
  month := ⟨['0', '1'], rfl, by simp [IsDigit, digit?]⟩
  day := ⟨['0', '1'], rfl, by simp [IsDigit, digit?]⟩
  hour := ⟨['0', '0'], rfl, by simp [IsDigit, digit?]⟩
  minute := ⟨['0', '0'], rfl, by simp [IsDigit, digit?]⟩
  second := ⟨['6', '0'], rfl, by simp [IsDigit, digit?]⟩
  fraction := ['1', '2', '3', '4', '5', '6', '7', '8', '9', '0', '1']
  fraction_digits := by simp [IsDigit, digit?]

/-- An offset moves it to the year before. -/
theorem parse?_leapStamp :
    leapStamp.IsReal ∧
    parse? "0000-01-01T00:00:60.12345678901Z" = some ⟨-62167219141, 1123456789⟩ ∧
    parse? "0000-01-01T00:00:60.12345678901+23:59" = some ⟨-62167305481, 1123456789⟩ := by
  obtain ⟨instant, zoned, real, moved⟩ := parse?_stamp leapStamp
  have back := (moved ⟨['2', '3'], rfl, by simp [IsDigit, digit?]⟩
    ⟨['5', '9'], rfl, by simp [IsDigit, digit?]⟩ (by decide) (by decide)).1
  have read : parse? leapStamp.text = some ⟨-62167219141, 1123456789⟩ :=
    instant.trans (by decide)
  refine ⟨?_, zoned.trans read, back.trans ?_⟩
  · by_contra unreal
    rw [real.mpr unreal] at read
    contradiction
  · rw [read]
    decide

end Timestamp

end Colloquy
