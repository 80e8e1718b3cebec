import Mathlib.Data.List.Basic
import Colloquy.Calendar.Age
import Colloquy.Calendar.Timestamp
import Colloquy.Proofs.Calendar.Days

/-!
# What an age in words says

An age is worded as "just now" below a minute, as an amount of the coarsest unit that has passed
below thirty days, and then as the date of what was written. The words name an age that can be read
off them, and while time goes on that age never falls; once it is a date, it stays one. Leap seconds
are the exception: an instant in one is counted as a second later than it is at some times of day
only, so that an age may be taken back by a second.
-/

namespace Colloquy

/-! ## Elapsed seconds -/

namespace Instant

variable {earlier now later : Instant}

/-- The seconds that leap seconds may shift the time between two instants by. -/
def leaps (earlier later : Instant) : Nat :=
  earlier.inLeapSecond.toNat + later.inLeapSecond.toNat

theorem leapCorrection_le (later earlier : Instant) :
    later.leapCorrection earlier ≤ earlier.inLeapSecond.toNat := by
  unfold leapCorrection
  split
  next leap => simp [leap.2]
  next =>
    split
    · omega
    · omega

theorem neg_le_leapCorrection (later earlier : Instant) :
    -(later.inLeapSecond.toNat : Int) ≤ later.leapCorrection earlier := by
  unfold leapCorrection
  split
  · omega
  · split
    next leap => simp [leap.2]
    next => omega

/-- Seconds go on with time, if time goes on by a second for each leap second, which makes up for
what the corrections can take. -/
theorem secondsSince_mono
    (step : now.count + leaps earlier later * nanosecondsPerSecond ≤ later.count) :
    now.secondsSince earlier ≤ later.secondsSince earlier := by
  have gained := now.leapCorrection_le earlier
  have lost := later.neg_le_leapCorrection earlier
  refine Int.tdiv_le_tdiv (by decide) ?_
  simp only [leaps, nanosecondsPerSecond] at step ⊢
  omega

/-- Between instants outside leap seconds, the seconds are those between their counts. -/
theorem secondsSince_of_ordinary (before : earlier.inLeapSecond = false)
    (after : later.inLeapSecond = false) :
    later.secondsSince earlier = (later.count - earlier.count).tdiv nanosecondsPerSecond := by
  simp [secondsSince, leapCorrection, before, after]

/-- Nothing later is a minute old. -/
theorem secondsSince_lt_of_count_le (future : later.count ≤ earlier.count) :
    later.secondsSince earlier < 60 := by
  have gained := later.leapCorrection_le earlier
  have single := Bool.toNat_le earlier.inLeapSecond
  have small : later.secondsSince earlier ≤
      (nanosecondsPerSecond : Int).tdiv nanosecondsPerSecond := by
    refine Int.tdiv_le_tdiv (by decide) ?_
    simp only [nanosecondsPerSecond]
    omega
  exact small.trans_lt (by decide)

end Instant

namespace Age

/-! ## Words -/

/-- The units that ages are counted in. -/
inductive Span where
  | minute
  | hour
  | day
  deriving DecidableEq

namespace Span

def name : Span → String
  | minute => "minute"
  | hour => "hour"
  | day => "day"

def seconds : Span → Int
  | minute => 60
  | hour => 3600
  | day => 86400

/-- So many of a unit are no longer counted in it. -/
def limit : Span → Nat
  | minute => 60
  | hour => 24
  | day => 30

end Span

/-- So many of a unit ago, the unit in the plural unless it is one. -/
def spelled (amount : Nat) (unit : Span) : String :=
  toString amount ++ " " ++ (unit.name ++ (if amount = 1 then "" else "s") ++ " ago")

theorem phrase_eq (amount : Nat) (unit : Span) :
    phrase amount unit.name = spelled amount unit := by
  unfold phrase spelled
  by_cases one : amount = 1
  · subst one
    cases unit <;> decide
  · have several : (amount : Int) ≠ 1 := by omega
    have number : toString (amount : Int) = toString amount := rfl
    simp only [if_neg one, if_neg several, number, String.append_assoc]
    rfl

/-- The age in seconds that words name. A date names none. -/
inductive Names : String → Int → Prop where
  | justNow : Names "just now" 0
  | counted (amount : Nat) (unit : Span) : Names (spelled amount unit) (amount * unit.seconds)

theorem toList_spelled (amount : Nat) (unit : Span) :
    (spelled amount unit).toList = Nat.toDigits 10 amount ++ ' ' ::
      (unit.name ++ (if amount = 1 then "" else "s") ++ " ago").toList := by
  simp [spelled]

/-- Text is cut at its first blank in one way. -/
theorem word_inj {word other rest otherRest : List Char} (whole : ' ' ∉ word)
    (otherWhole : ' ' ∉ other) (same : word ++ ' ' :: rest = other ++ ' ' :: otherRest) :
    word = other ∧ rest = otherRest := by
  have front {word rest : List Char} (whole : ' ' ∉ word) :
      (word ++ ' ' :: rest).takeWhile (· ≠ ' ') = word := by
    rw [List.takeWhile_append_of_pos fun character among => ?_]
    · simp
    · have apart : character ≠ ' ' := fun blank => whole (blank ▸ among)
      simpa using apart
  have words := congrArg (List.takeWhile (· ≠ ' ')) same
  rw [front whole, front otherWhole] at words
  subst words
  exact ⟨rfl, List.cons_injective (List.append_cancel_left same)⟩

theorem isDigit_of_mem_toDigits {amount : Nat} {character : Char}
    (among : character ∈ Nat.toDigits 10 amount) : character.isDigit = true :=
  Nat.isDigit_of_mem_toDigits (by decide) (by decide) among

theorem blank_not_mem_toDigits (amount : Nat) : ' ' ∉ Nat.toDigits 10 amount :=
  fun blank => absurd (isDigit_of_mem_toDigits blank) (by decide)

/-- An amount starts with a digit. -/
theorem spelled_ne {amount : Nat} {unit : Span} {text : String} {first : Char}
    {word rest : List Char} (words : text.toList = first :: word ++ ' ' :: rest)
    (whole : ' ' ∉ first :: word) (letter : first.isDigit = false) :
    spelled amount unit ≠ text := by
  rintro rfl
  rw [toList_spelled] at words
  have digits := (word_inj (blank_not_mem_toDigits amount) whole words).1
  have digit : first.isDigit = true := isDigit_of_mem_toDigits (digits ▸ List.mem_cons_self)
  rw [letter] at digit
  contradiction

theorem spelled_inj {amount other : Nat} {unit otherUnit : Span}
    (same : spelled amount unit = spelled other otherUnit) : amount = other ∧ unit = otherUnit := by
  have words := congrArg String.toList same
  rw [toList_spelled, toList_spelled] at words
  obtain ⟨digits, rest⟩ :=
    word_inj (blank_not_mem_toDigits amount) (blank_not_mem_toDigits other) words
  obtain rfl : amount = other := by
    rw [← Nat.ofDigitChars_ten_toDigits (n := amount), digits, Nat.ofDigitChars_ten_toDigits]
  have units := String.toList_injective rest
  refine ⟨rfl, ?_⟩
  by_cases one : amount = 1 <;> cases unit <;> cases otherUnit <;>
    simp [one, Span.name] at units ⊢

/-! ## The label -/

variable {written now later : Instant}

/-- How the age of something written is worded that is so many seconds old. -/
structure Words (written : Instant) (seconds : Int) (text : String) : Prop where
  recent : text = "just now" ↔ seconds < 60
  counted : 60 ≤ seconds → seconds < 30 * 86400 → ∃ (amount : Nat) (unit : Span),
    text = spelled amount unit ∧ 1 ≤ amount ∧ amount < unit.limit ∧
      amount * unit.seconds ≤ seconds ∧ seconds < (amount + 1) * unit.seconds
  dated : 30 * 86400 ≤ seconds → ∃ date : Date,
    (∀ other : Date, other.Covers written ↔ other = date) ∧ text = date.text

theorem label_eq_justNow (recent : now.secondsSince written < 60) :
    label written now = "just now" :=
  if_pos recent

theorem label_eq_phrase (unit : Span) (passed : unit.seconds ≤ now.secondsSince written)
    (recent : now.secondsSince written < unit.limit * unit.seconds) :
    label written now = phrase (now.secondsSince written / unit.seconds) unit.name := by
  unfold label
  generalize now.secondsSince written = seconds at passed recent
  cases unit with
  | minute =>
      simp only [Span.seconds, Span.limit] at passed recent
      rw [if_neg (by unfold minute; omega), if_pos (by unfold hour; omega)]
      rfl
  | hour =>
      simp only [Span.seconds, Span.limit] at passed recent
      rw [if_neg (by unfold minute; omega), if_neg (by unfold hour; omega),
        if_pos (by unfold day; omega)]
      rfl
  | day =>
      simp only [Span.seconds, Span.limit] at passed recent
      rw [if_neg (by unfold minute; omega), if_neg (by unfold hour; omega),
        if_neg (by unfold day; omega), if_pos (by unfold month day; omega)]
      rfl

theorem label_eq_date (passed : 30 * 86400 ≤ now.secondsSince written) :
    label written now = (Date.ofInstant written).text := by
  unfold label
  generalize now.secondsSince written = seconds at passed
  rw [if_neg (by unfold minute; omega), if_neg (by unfold hour; omega),
    if_neg (by unfold day; omega), if_neg (by unfold month day; omega)]

/-- An age below the limit of a unit is some whole amount of it, and a part of one more. -/
theorem exists_label_eq_spelled (unit : Span) (passed : unit.seconds ≤ now.secondsSince written)
    (recent : now.secondsSince written < unit.limit * unit.seconds) :
    ∃ amount : Nat, label written now = spelled amount unit ∧ 1 ≤ amount ∧ amount < unit.limit ∧
      amount * unit.seconds ≤ now.secondsSince written ∧
      now.secondsSince written < (amount + 1) * unit.seconds := by
  have labelled := label_eq_phrase unit passed recent
  generalize now.secondsSince written = seconds at passed recent labelled
  have amount : ((seconds / unit.seconds).toNat : Int) = seconds / unit.seconds := by
    cases unit <;> simp only [Span.seconds] at passed ⊢ <;> omega
  refine ⟨(seconds / unit.seconds).toNat, ?_, ?_⟩
  · rw [labelled, ← phrase_eq, amount]
  · cases unit <;> simp only [Span.seconds, Span.limit] at passed recent ⊢ <;> omega

theorem exists_month_letter (month : Nat) : ∃ first word,
    (Date.monthName month).toList = first :: word ∧ ' ' ∉ first :: word ∧
      first.isDigit = false ∧ first ≠ 'j' := by
  unfold Date.monthName
  split <;> exact ⟨_, _, rfl, by decide⟩

/-- A date starts with a capital letter. -/
theorem exists_date_letter (date : Date) : ∃ first word rest,
    date.text.toList = first :: word ++ ' ' :: rest ∧ ' ' ∉ first :: word ∧
      first.isDigit = false ∧ first ≠ 'j' := by
  obtain ⟨first, word, month, whole, letter, capital⟩ := exists_month_letter date.month
  exact ⟨first, word, (Date.padZeros 2 date.day ++ ", " ++ Date.yearText date.year).toList,
    by simp [Date.text, month], whole, letter, capital⟩

theorem date_ne_justNow (date : Date) : date.text ≠ "just now" := by
  obtain ⟨first, word, rest, text, -, -, capital⟩ := exists_date_letter date
  intro same
  rw [same] at text
  exact capital (List.cons.inj text).1.symm

theorem spelled_ne_date (amount : Nat) (unit : Span) (date : Date) :
    spelled amount unit ≠ date.text := by
  obtain ⟨first, word, rest, text, whole, letter, -⟩ := exists_date_letter date
  exact spelled_ne text whole letter

theorem spelled_ne_justNow (amount : Nat) (unit : Span) : spelled amount unit ≠ "just now" :=
  have words : "just now".toList = 'j' :: ['u', 's', 't'] ++ ' ' :: ['n', 'o', 'w'] := by decide
  spelled_ne words (by decide) (by decide)

/-- Every label words the age. -/
theorem words_label (written now : Instant) :
    Words written (now.secondsSince written) (label written now) := by
  have counted (passed : 60 ≤ now.secondsSince written)
      (recent : now.secondsSince written < 30 * 86400) : ∃ (amount : Nat) (unit : Span),
      label written now = spelled amount unit ∧ 1 ≤ amount ∧ amount < unit.limit ∧
        amount * unit.seconds ≤ now.secondsSince written ∧
        now.secondsSince written < (amount + 1) * unit.seconds := by
    have unit : ∃ unit : Span, unit.seconds ≤ now.secondsSince written ∧
        now.secondsSince written < unit.limit * unit.seconds := by
      rcases Int.lt_or_le (now.secondsSince written) 3600 with minutes | passed
      · exact ⟨.minute, passed, minutes⟩
      · rcases Int.lt_or_le (now.secondsSince written) 86400 with hours | passed
        · exact ⟨.hour, passed, hours⟩
        · exact ⟨.day, passed, recent⟩
    obtain ⟨unit, passed, recent⟩ := unit
    obtain ⟨amount, labelled⟩ := exists_label_eq_spelled unit passed recent
    exact ⟨amount, unit, labelled⟩
  refine ⟨⟨fun recent => ?_, label_eq_justNow⟩, counted, fun passed => ?_⟩
  · by_contra passed
    rw [Int.not_lt] at passed
    rcases Int.lt_or_le (now.secondsSince written) (30 * 86400) with days | passed
    · obtain ⟨amount, unit, labelled, -⟩ := counted passed days
      exact spelled_ne_justNow amount unit (labelled.symm.trans recent)
    · exact date_ne_justNow _ ((label_eq_date passed).symm.trans recent)
  · exact ⟨_, fun other => Date.covers_iff, label_eq_date passed⟩

/-- The words that name an age. -/
theorem Names.eq {text : String} {age : Int} (names : Names text age) :
    (text = "just now" ∧ age = 0) ∨
      ∃ (amount : Nat) (unit : Span), text = spelled amount unit ∧ age = amount * unit.seconds := by
  cases names with
  | justNow => exact .inl ⟨rfl, rfl⟩
  | counted amount unit => exact .inr ⟨amount, unit, rfl, rfl⟩

theorem not_names_date (date : Date) (age : Int) : ¬Names date.text age := by
  intro names
  rcases names.eq with ⟨same, -⟩ | ⟨amount, unit, same, -⟩
  · exact date_ne_justNow date same
  · exact spelled_ne_date amount unit date same.symm

/-- The age that a label names is the age cut off to whole units. -/
theorem Words.age_of_names {seconds age : Int} {text : String} (words : Words written seconds text)
    (names : Names text age) :
    (seconds < 60 ∧ age = 0) ∨
      ∃ (amount : Nat) (unit : Span), 1 ≤ amount ∧ amount < unit.limit ∧
        age = amount * unit.seconds ∧ age ≤ seconds ∧ seconds < age + unit.seconds := by
  rcases Int.lt_or_le seconds 60 with recent | passed
  · have text := words.recent.mpr recent
    rcases names.eq with ⟨-, none⟩ | ⟨amount, unit, same, -⟩
    · exact .inl ⟨recent, none⟩
    · exact absurd (same.symm.trans text) (spelled_ne_justNow amount unit)
  · rcases Int.lt_or_le seconds (30 * 86400) with recent | old
    · obtain ⟨amount, unit, text, positive, small, low, high⟩ := words.counted passed recent
      rcases names.eq with ⟨same, -⟩ | ⟨other, otherUnit, same, named⟩
      · exact absurd (text.symm.trans same) (spelled_ne_justNow amount unit)
      · obtain ⟨rfl, rfl⟩ := spelled_inj (text.symm.trans same)
        refine .inr ⟨amount, unit, positive, small, named, named ▸ low, ?_⟩
        rwa [Int.add_mul, Int.one_mul, ← named] at high
    · obtain ⟨date, -, rfl⟩ := words.dated old
      exact absurd names (not_names_date date age)

/-- An older label names no smaller age, for fewer of a unit than its limit are less than one of the
next unit. -/
theorem Words.age_mono {seconds more age older : Int} {text other : String}
    (words : Words written seconds text) (otherWords : Words written more other)
    (passed : seconds ≤ more) (names : Names text age) (otherNames : Names other older) :
    age ≤ older := by
  rcases words.age_of_names names with ⟨-, rfl⟩ | ⟨amount, unit, positive, small, rfl, low, high⟩
  · rcases otherWords.age_of_names otherNames with ⟨-, rfl⟩ | ⟨other, unit, -, -, rfl, -, -⟩
    · exact Int.le_refl 0
    · cases unit <;> simp only [Span.seconds] <;> omega
  · rcases otherWords.age_of_names otherNames with
      ⟨recent, -⟩ | ⟨other, otherUnit, otherPositive, otherSmall, rfl, otherLow, otherHigh⟩
    · cases unit <;> simp only [Span.seconds] at low ⊢ <;> omega
    · cases unit <;> cases otherUnit <;>
        simp only [Span.seconds, Span.limit] at small low high otherSmall otherLow otherHigh ⊢ <;>
        omega

/-- Something written that names no age is dated. -/
theorem Words.dated_of_not_names {seconds : Int} {text : String}
    (words : Words written seconds text) (dated : ∀ age, ¬Names text age) :
    30 * 86400 ≤ seconds := by
  by_contra recent
  rw [Int.not_le] at recent
  rcases Int.lt_or_le seconds 60 with now | passed
  · exact dated 0 (words.recent.mpr now ▸ .justNow)
  · obtain ⟨amount, unit, rfl, -⟩ := words.counted passed recent
    exact dated _ (.counted amount unit)

/-- An age is worded as its whole seconds tell, which are those between the two instants cut off
toward zero, and as "just now" if it lies in the future. While time goes on, by a second at least
for each leap second that what was written and the later time lie in, the age that is named never
falls; and once the label is the date, it stays as it is. -/
theorem label_follows_age (written : Instant) :
    (∀ now, Words written (now.secondsSince written) (label written now) ∧
      (written.inLeapSecond = false → now.inLeapSecond = false → now.secondsSince written =
        (now.count - written.count).tdiv Instant.nanosecondsPerSecond) ∧
      (now.count ≤ written.count → label written now = "just now")) ∧
    ∀ now later, now.count + written.leaps later * Instant.nanosecondsPerSecond ≤ later.count →
      (∀ age older, Names (label written now) age → Names (label written later) older →
        age ≤ older) ∧
      ((∀ age, ¬Names (label written now) age) → label written later = label written now) := by
  refine ⟨fun now => ⟨words_label written now, Instant.secondsSince_of_ordinary, fun future => ?_⟩,
    fun now later step => ?_⟩
  · exact label_eq_justNow (Instant.secondsSince_lt_of_count_le future)
  · have passed := Instant.secondsSince_mono step
    refine ⟨fun age older => (words_label written now).age_mono (words_label written later) passed,
      fun dated => ?_⟩
    have old := (words_label written now).dated_of_not_names dated
    rw [label_eq_date old, label_eq_date (old.trans passed)]

/-- Something written in a leap second ten minutes before midnight. -/
def beforeMidnight : Instant := ⟨1748821859, 1500000000⟩

/-- The last nanosecond of the same day. -/
def atMidnight : Instant := ⟨1748822399, 999999999⟩

theorem label_soonAfterMidnight :
    let later : Instant := ⟨1748822401, 0⟩
    atMidnight.count + beforeMidnight.leaps later * Instant.nanosecondsPerSecond ≤ later.count ∧
      Names (label beforeMidnight atMidnight) 540 ∧
      ∀ older, Names (label beforeMidnight later) older → 540 ≤ older := by
  intro later
  have step : atMidnight.count + beforeMidnight.leaps later * Instant.nanosecondsPerSecond ≤
      later.count := by decide
  have label : label beforeMidnight atMidnight = spelled 9 .minute := by decide +kernel
  have names : Names (Age.label beforeMidnight atMidnight) 540 := label ▸ .counted 9 .minute
  exact ⟨step, names, fun older =>
    ((label_follows_age beforeMidnight).2 atMidnight later step).1 540 older names⟩

/-- A nanosecond at midnight takes a minute off the age of something that a timestamp dates into a
leap second. -/
theorem label_shrinks_at_midnight :
    let midnight : Instant := ⟨1748822400, 0⟩
    Timestamp.parse? "2025-06-01T23:50:60.5Z" = some beforeMidnight ∧
      midnight.count = atMidnight.count + 1 ∧
      label beforeMidnight atMidnight = "9 minutes ago" ∧
      label beforeMidnight midnight = "8 minutes ago" ∧
      Names (label beforeMidnight atMidnight) 540 ∧ Names (label beforeMidnight midnight) 480 := by
  intro midnight
  have first : label beforeMidnight atMidnight = spelled 9 .minute := by decide +kernel
  have second : label beforeMidnight midnight = spelled 8 .minute := by decide +kernel
  exact ⟨by decide +kernel, by decide, by decide +kernel, by decide +kernel,
    first ▸ .counted 9 .minute, second ▸ .counted 8 .minute⟩

end Age

end Colloquy
