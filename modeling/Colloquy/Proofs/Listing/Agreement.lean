import Colloquy.Listing.FromText
import Colloquy.Proofs.Json.Readings
import Colloquy.Proofs.Listing.Fields

/-!
# Text and values decode alike

A comment is decoded from text while the text is read, and from a value that has been read in full.
Both ways accept the same comments and give the same result. They differ in the order in which they
come upon faults, so only what they accept is compared.
-/

namespace Colloquy

open JsonLexer (ascii)

/-! ## Values that are passed over -/

mutual

/-- A value that is all there can be passed over. -/
theorem Reading.Shows.skip {reading : Reading} {value : Json} :
    Reading.Shows reading value → reading.skip = .ok ()
  | .null | .bool _ | .number _ | .string _ => rfl
  | .array shows => shows.skip
  | .object shows _ => shows.skip

theorem ReadingItems.Shows.skip {items : ReadingItems} {values : List Json} :
    ReadingItems.Shows items values → items.skip = .ok ()
  | .close => rfl
  | .item first others => by rw [ReadingItems.skip, first.skip, others.skip]

theorem ReadingMembers.Shows.skip {members : ReadingMembers} {values : List (String × Json)} :
    ReadingMembers.Shows members values → members.skip = .ok ()
  | .close => rfl
  | .member _ first others => by rw [ReadingMembers.skip, first.skip, others.skip]

end

namespace Listing

/-! ## Profiles -/

/-- The text that a value is, if it is text. -/
def text? : Json → Option String
  | .string text => some text
  | _ => none

/-- What stands under the key of a username, text or not. -/
def usernames (members : List (String × Json)) : List (Option String) :=
  (members.filter fun member => member.1 == "username").map fun member => text? member.2

/-- The author whose only username is text. -/
def soleAuthor? : List (Option String) → Option Author
  | [some username] => some (.profile username)
  | _ => none

/-- The handle in a profile depends on its usernames only. -/
theorem profile?_eq (members : List (String × Json)) :
    profile? members = soleAuthor? (usernames members) := by
  rw [profile?, usernames]
  generalize (members.filter fun member => member.1 == "username") = profiles
  match profiles with
  | [] => rfl
  | [(_, .string _)] => rfl
  | [(_, .null)] | [(_, .bool _)] | [(_, .number _)] | [(_, .array _)] | [(_, .object _)] => rfl
  | _ :: _ :: _ => simp [soleAuthor?]

theorem soleAuthor?_perm {left right : List (Option String)} (order : left.Perm right) :
    soleAuthor? left = soleAuthor? right := by
  match left with
  | [] => rw [List.nil_perm.mp order]
  | [only] => rw [List.singleton_perm.mp order]
  | first :: second :: rest =>
      match right with
      | [] | [_] => simpa using order.length_eq
      | _ :: _ :: _ => simp [soleAuthor?]

/-- The handle in a profile does not depend on the order of its members. -/
theorem profile?_perm {left right : List (String × Json)} (order : left.Perm right) :
    profile? left = profile? right := by
  rw [profile?_eq, profile?_eq]
  exact soleAuthor?_perm ((order.filter _).map _)

end Listing

mutual

/-- A value that is all there can be read, and is text if it shows text. -/
theorem Reading.Shows.json {reading : Reading} {value : Json} :
    Reading.Shows reading value →
      ∃ found, reading.json = .ok found ∧ Listing.text? found = Listing.text? value
  | .null => ⟨_, rfl, rfl⟩
  | .bool _ => ⟨_, rfl, rfl⟩
  | .number stands => ⟨_, by rw [Reading.json, stands]; rfl, rfl⟩
  | .string denotes => ⟨_, by rw [Reading.json, denotes]; rfl, rfl⟩
  | .array shows => by
      obtain ⟨found, read⟩ := shows.json
      exact ⟨.array found, by rw [Reading.json, read]; rfl, rfl⟩
  | .object shows _ => by
      obtain ⟨found, read, -⟩ := shows.json
      exact ⟨Json.ofMembers found, by rw [Reading.json, read]; rfl, rfl⟩

theorem ReadingItems.Shows.json {items : ReadingItems} {values : List Json} :
    ReadingItems.Shows items values → ∃ found, items.json = .ok found
  | .close => ⟨_, rfl⟩
  | .item first others => by
      obtain ⟨found, read, -⟩ := first.json
      obtain ⟨more, readOthers⟩ := others.json
      exact ⟨found :: more, by rw [ReadingItems.json, read, readOthers]; rfl⟩

theorem ReadingMembers.Shows.json {members : ReadingMembers} {values : List (String × Json)} :
    ReadingMembers.Shows members values →
      ∃ found, members.json = .ok found ∧ Listing.usernames found = Listing.usernames values
  | .close => ⟨_, rfl, rfl⟩
  | @ReadingMembers.Shows.member _ key _ _ _ _ denotes first others => by
      obtain ⟨found, read, same⟩ := first.json
      obtain ⟨more, readOthers, alike⟩ := others.json
      refine ⟨(key, found) :: more, by rw [ReadingMembers.json, denotes, read, readOthers]; rfl, ?_⟩
      simp only [Listing.usernames, List.filter_cons] at alike ⊢
      split
      · simp only [List.map_cons, same, alike]
      · exact alike

end

namespace Listing

/-! ## Values of fields -/

/-- What is of the wrong type is refused, though perhaps for another fault. -/
@[simp]
theorem toOption_refuseReading {α : Type} (wanted : Wanted) (reading : Reading) :
    (refuseReading wanted reading : Decoded α).toOption = none := by
  cases reading with
  | number numeral => simp [refuseReading]
  | string pieces => simp [refuseReading]
  | _ => rfl

@[simp]
theorem readable_ok {α : Type} (value : α) : readable (.ok value) = .ok value :=
  rfl

section Fields

variable {reading : Reading} {value : Json} (shows : Reading.Shows reading value)
include shows

theorem toOption_readText : (readText reading).toOption = (textOfJson value).toOption := by
  cases shows with
  | string denotes => simp [readText, textOfJson, denotes]
  | _ => simp [readText, textOfJson]

theorem toOption_readOptionalText :
    (readOptionalText reading).toOption = (optionalTextOfJson value).toOption := by
  have text := toOption_readText shows
  cases shows with
  | null => rfl
  | _ => simp [readOptionalText, optionalTextOfJson, text]

theorem toOption_readIdentifier :
    (readIdentifier reading).toOption = (identifierOfJson value).toOption := by
  cases shows with
  | number stands => simp [readIdentifier, identifierOfJson, stands]
  | _ => simp [readIdentifier, identifierOfJson]

theorem toOption_readScore : (readScore reading).toOption = (scoreOfJson value).toOption := by
  cases shows with
  | number stands => simp [readScore, scoreOfJson, stands]
  | _ => simp [readScore, scoreOfJson]

theorem toOption_readFlag : (readFlag reading).toOption = (flagOfJson value).toOption := by
  cases shows with
  | bool flag => rfl
  | _ => simp [readFlag, flagOfJson]

theorem toOption_readAuthor : (readAuthor reading).toOption = (author value).toOption := by
  cases shows with
  | string denotes => simp [readAuthor, author, denotes]
  | @object _ _ values shows order =>
      obtain ⟨found, read, alike⟩ := shows.json
      have same : profile? found = profile? values := by
        rw [profile?_eq, alike, ← profile?_eq, profile?_perm order]
      cases named : profile? values with
      | none => simp [readAuthor, author, read, same, named]
      | some found => simp [readAuthor, author, read, same, named]
  | _ => simp [readAuthor, author]

/-- A field that holds no comments is read as it is taken from a value. -/
theorem toOption_takeReading (field : Field) (fields : Fields) :
    (fields.takeReading field reading).toOption = (fields.takeJson field value).toOption := by
  cases field with
  | _ => simp [Fields.takeReading, Fields.takeJson, toOption_readText shows,
      toOption_readOptionalText shows, toOption_readIdentifier shows, toOption_readScore shows,
      toOption_readFlag shows, toOption_readAuthor shows]

end Fields

/-! ## Comments -/

/-- A comment, or what stands in a field, is accepted in both ways alike. -/
structure Alike (reading : Reading) (value : Json) : Prop where
  entry : (readEntry reading).toOption = (entryOfJson value).toOption
  field : ∀ field fields,
    (readField field fields reading).toOption = (fieldOfJson field fields value).toOption

/-- Comments in an array, or the fields of one, are accepted in both ways alike. -/
structure AlikeItems (items : ReadingItems) (values : List Json) : Prop where
  entries : (readEntries items).toOption = (entriesOfJson values).toOption
  positions : ∀ length wanted fields count,
    (readPositions wanted fields count items).toOption =
      (fieldsOfItems length wanted fields count values).toOption

mutual

theorem alike_of_shows {reading : Reading} {value : Json} :
    Reading.Shows reading value → Alike reading value
  | .null => by
      refine ⟨by simp [readEntry, entryOfJson], fun field fields => ?_⟩
      simpa [readField, fieldOfJson] using toOption_takeReading .null field fields
  | .bool flag => by
      refine ⟨by simp [readEntry, entryOfJson], fun field fields => ?_⟩
      simpa [readField, fieldOfJson] using toOption_takeReading (.bool flag) field fields
  | .number stands => by
      refine ⟨by simp [readEntry, entryOfJson], fun field fields => ?_⟩
      simpa [readField, fieldOfJson] using toOption_takeReading (.number stands) field fields
  | .string denotes => by
      refine ⟨by simp [readEntry, entryOfJson], fun field fields => ?_⟩
      simpa [readField, fieldOfJson] using toOption_takeReading (.string denotes) field fields
  | @Reading.Shows.array _ values shows => by
      have alike := alikeItems_of_shows shows
      refine ⟨?_, fun field fields => ?_⟩
      · simp [readEntry, entryOfJson, alike.positions values.length]
      · by_cases replies : field = .replies
        · simp [readField, fieldOfJson, replies, alike.entries]
        · simpa [readField, fieldOfJson, replies] using
            toOption_takeReading (.array shows) field fields
  | .object shows order => by
      refine ⟨?_, fun field fields => ?_⟩
      · simp [readEntry, entryOfJson, toOption_readMembers shows,
          toOption_fieldsOfMembers_perm order]
      · simpa [readField, fieldOfJson] using
          toOption_takeReading (.object shows order) field fields

theorem alikeItems_of_shows {items : ReadingItems} {values : List Json} :
    ReadingItems.Shows items values → AlikeItems items values
  | .close => by
      refine ⟨rfl, fun length wanted fields count => ?_⟩
      cases wanted with
      | nil => rfl
      | cons field rest => rfl
  | .item first others => by
      have alike := alike_of_shows first
      have rest := alikeItems_of_shows others
      refine ⟨by simp [readEntries, entriesOfJson, alike.entry, rest.entries], ?_⟩
      intro length wanted fields count
      cases wanted with
      | nil => rfl
      | cons field wanted =>
          simp [readPositions, fieldsOfItems, alike.field, rest.positions length]

theorem toOption_readMembers {members : ReadingMembers} {values : List (String × Json)}
    (shows : ReadingMembers.Shows members values) (fields : Fields) :
    (readMembers fields members).toOption = (fieldsOfMembers fields values).toOption :=
  match shows with
  | .close => rfl
  | @ReadingMembers.Shows.member _ key _ _ _ _ denotes first others => by
      have alike := alike_of_shows first
      rw [readMembers, fieldsOfMembers, denotes]
      cases known : Field.ofKey? key with
      | none => simp [known, first.skip, toOption_readMembers others]
      | some field =>
          cases met : fields.has field with
          | true => simp [known, met]
          | false => simp [known, met, alike.field, toOption_readMembers others]

end

/-! ## Listings -/

/-- However the text of a listing is written, its comments are those that its values are. -/
theorem toOption_ofBytes {values : List Json} {bytes : List UInt8}
    (spelled : Json.SpelledText (.array values) bytes) :
    (ofBytes bytes).toOption = (entriesOfJson values).toOption := by
  obtain ⟨reading, shows, read⟩ := spelled.reads
  cases shows with
  | array shows =>
      rw [ofBytes, read, readDocument]
      simp [(alikeItems_of_shows shows).entries]

/-- However the text of a listing of one comment is written, it is decoded exactly if the comment
as a value is, and gives the same comment. Members may stand in any order, under any name and more
than once; values may be of any type, and arrays in place of objects of any length. -/
theorem ofBytes_eq_singleton_iff {value : Json} {bytes : List UInt8}
    (spelled : Json.SpelledText (.array [value]) bytes) (entry : Entry) :
    ofBytes bytes = .ok [entry] ↔ entryOfJson value = .ok entry := by
  rw [← toOption_eq_some_iff, ← toOption_eq_some_iff, toOption_ofBytes spelled]
  cases decoded : entryOfJson value with
  | error cause => simp [entriesOfJson, decoded]
  | ok found => simp [entriesOfJson, decoded]

/-- A comment written as the array of its first three fields. -/
theorem ofBytes_threeFields :
    ofBytes ("[ [7,\"ada\",\"Hm\"]]".toList.map ascii) =
      .ok [⟨⟨7, .handle "ada", "Hm", none, none, 0, false⟩, []⟩] := by
  have seven : Json.SpelledNumber (.natural 7) _ :=
    .natural (rfl : Numeral.ofDigits [7] = 7) (.literal false (.leading 7 [] (by decide)) .none .none)
  have name : Json.SpelledString "ada" _ := Json.spelledString_of_plain (by decide)
  have body : Json.SpelledString "Hm" _ := Json.spelledString_of_plain (by decide)
  have items := Json.SpelledItems.more .nil (.number seven) .nil
    (.more .nil (.string name) .nil (.last .nil (.string body) .nil))
  have space : Json.Blank [ascii ' '] := by simp [Json.Blank]
  have spelled := Json.SpelledText.text .nil (.array (.last space (.array items) .nil)) .nil
  have read := (ofBytes_eq_singleton_iff spelled
    ⟨⟨7, .handle "ada", "Hm", none, none, 0, false⟩, []⟩).mpr rfl
  refine (congrArg ofBytes ?_).trans read
  decide +kernel

end Listing

end Colloquy
