import Colloquy.Proofs.Listing.Agreement
import Colloquy.Proofs.Listing.Entry

/-!
# Comments as objects

How comments may be written as objects: under which names, with which values, and what may be left
out. Every listing that is written so is decoded, and the comments are those that were written.
-/

namespace Colloquy.Listing

open JsonLexer (ascii)

/-! ## Names -/

/-- All names of a field. -/
def Field.names (field : Field) : List String :=
  field.name :: field.aliases

/-- What stands under the names of a field. -/
def valuesOf (members : List (String × Json)) (field : Field) : List Json :=
  (members.filter fun member => member.1 ∈ field.names).map Prod.snd

/-! ## Descriptions -/

/-- A whole number that 64 bits hold, as a plain literal of its digits. -/
inductive IsInteger : Int → Json → Prop where
  | natural (value : UInt64) : IsInteger value.toNat (.number (.natural value))
  | negative (value : Int64) (below : value.toInt < 0) :
      IsInteger value.toInt (.number (.negative value))

/-- Text that may be missing. -/
inductive IsOptionalText : Option String → Json → Prop where
  | missing : IsOptionalText none .null
  | text (text : String) : IsOptionalText (some text) (.string text)

/-- An author by the handle, bare or in an object that has exactly one username. -/
inductive NamesAuthor : String → Json → Prop where
  | handle (name : String) : NamesAuthor name (.string name)
  | profile {name : String} {members : List (String × Json)}
      (sole : (members.filter fun member => member.1 = "username") = [("username", .string name)]) :
      NamesAuthor name (.object members)

/-- A field that may be left out if it has its default. -/
def GivenOrDefault (isDefault : Prop) (allows : Json → Prop) (values : List Json) : Prop :=
  values = [] ∧ isDefault ∨ ∃ value, values = [value] ∧ allows value

/-- The members of an object say what a comment is, apart from its replies. No field stands there
twice; other members may say anything. -/
structure DescribesContent (members : List (String × Json)) (content : Content) : Prop where
  id : valuesOf members .id = [.number (.natural content.id)]
  author : ∃ value, valuesOf members .author = [value] ∧ NamesAuthor content.author.name value
  body : valuesOf members .body = [.string content.body]
  label : GivenOrDefault (content.label = none) (IsOptionalText content.label)
    (valuesOf members .label)
  createdAt : GivenOrDefault (content.createdAt = none) (IsOptionalText content.createdAt)
    (valuesOf members .createdAt)
  score : GivenOrDefault (content.score = 0) (IsInteger content.score.toInt)
    (valuesOf members .score)
  byPostAuthor : GivenOrDefault (content.byPostAuthor = false) (· = .bool content.byPostAuthor)
    (valuesOf members .byPostAuthor)

mutual

/-- A value is an object that says what a comment with all its replies is. -/
inductive Describes : Json → Entry → Prop where
  | object {members : List (String × Json)} {content : Content} {replies : List Entry}
      (comment : DescribesContent members content)
      (below : DescribesReplies (valuesOf members .replies) replies) :
      Describes (.object members) ⟨content, replies⟩

/-- What stands under the names of the replies says what they are; they may be left out if there
are none. -/
inductive DescribesReplies : List Json → List Entry → Prop where
  | omitted : DescribesReplies [] []
  | given {values : List Json} {replies : List Entry} (each : DescribesAll values replies) :
      DescribesReplies [.array values] replies

/-- Values say one after the other what comments are. -/
inductive DescribesAll : List Json → List Entry → Prop where
  | nil : DescribesAll [] []
  | cons {value : Json} {entry : Entry} {values : List Json} {entries : List Entry}
      (first : Describes value entry) (others : DescribesAll values entries) :
      DescribesAll (value :: values) (entry :: entries)

end

/-! ## Taking members -/

/-- No two fields have a name in common. -/
theorem ofKey?_eq_some_iff {key : String} {field : Field} :
    Field.ofKey? key = some field ↔ key ∈ field.names := by
  refine ⟨?_, ?_⟩
  · intro known
    have named := List.find?_some known
    simp only [Bool.or_eq_true, beq_iff_eq, List.contains_iff_mem] at named
    exact List.mem_cons.mpr (named.imp_left Eq.symm)
  · intro named
    have own : ∀ key ∈ field.names, Field.ofKey? key = some field := by
      cases field with
      | _ => decide
    exact own key named

theorem valuesOf_cons (member : String × Json) (rest : List (String × Json)) (field : Field) :
    valuesOf (member :: rest) field =
      if Field.ofKey? member.1 = some field then member.2 :: valuesOf rest field
      else valuesOf rest field := by
  by_cases named : member.1 ∈ field.names
  · simp [valuesOf, named, ofKey?_eq_some_iff]
  · simp [valuesOf, named, ofKey?_eq_some_iff]

/-- Members are taken if no field stands among them twice, or has a value already, and every field
can have the value that stands there. -/
theorem foldlM_takeMember (members : List (String × Json)) (fields : Fields)
    (takes : ∀ field, valuesOf members field = [] ∨ fields.get? field = none ∧
      ∃ value found, valuesOf members field = [value] ∧ fieldValue? field value = some found) :
    ∃ result, members.foldlM takeMember fields = some result ∧ ∀ field,
      (valuesOf members field = [] → result.get? field = fields.get? field) ∧
      ∀ value, valuesOf members field = [value] →
        result.get? field = fieldValue? field value := by
  induction members generalizing fields with
  | nil =>
      refine ⟨fields, rfl, fun field => ⟨fun _ => rfl, ?_⟩⟩
      intro value listed
      simp [valuesOf] at listed
  | cons member rest ih =>
      simp only [valuesOf_cons] at takes ⊢
      cases known : Field.ofKey? member.1 with
      | none =>
          simp only [known, reduceCtorEq, if_false] at takes ⊢
          obtain ⟨result, taken, agrees⟩ := ih fields takes
          exact ⟨result, by simp [takeMember_of_unknown known, taken], agrees⟩
      | some field =>
          have own := takes field
          simp only [known, if_true, List.cons.injEq, reduceCtorEq, false_or] at own
          obtain ⟨empty, value, found, ⟨rfl, nothing⟩, states⟩ := own
          have taken : takeMember fields member = some (fields.put found) := by
            simp [takeMember_of_known known, Fields.has_eq, empty, states]
          have filled : (fields.put found).get? field = some found := by
            rw [Fields.get?_put, if_pos (field_of_fieldValue? states).symm]
          have kept (other : Field) (apart : field ≠ other) :
              (fields.put found).get? other = fields.get? other := by
            rw [Fields.get?_put, if_neg]
            rw [field_of_fieldValue? states]
            exact apart.symm
          obtain ⟨result, goesOn, agrees⟩ := ih (fields.put found) fun other => by
            by_cases same : field = other
            · exact .inl (same ▸ nothing)
            · have others := takes other
              rwa [known, if_neg (by simpa using same), ← kept other same] at others
          refine ⟨result, by simp [taken, goesOn], fun other => ?_⟩
          by_cases same : field = other
          · subst same
            refine ⟨by simp, ?_⟩
            intro value listed
            simp only [if_true, nothing, List.cons.injEq, and_true] at listed
            rw [(agrees field).1 nothing, filled, ← listed, states]
          · rw [if_neg (by simpa using same), ← kept other same]
            exact agrees other

/-! ## Values of fields -/

theorem IsOptionalText.optionalTextOfJson {text : Option String} {value : Json}
    (states : IsOptionalText text value) : optionalTextOfJson value = .ok text := by
  cases states with
  | missing => rfl
  | text text => rfl

theorem IsInteger.scoreOfJson {score : Int64} {value : Json} (states : IsInteger score.toInt value) :
    scoreOfJson value = .ok score := by
  generalize same : score.toInt = number at states
  cases states with
  | natural natural =>
      have bound := score.toInt_lt
      have small : natural < 0x8000000000000000 := by
        rw [UInt64.lt_iff_toNat_lt]
        have half : (0x8000000000000000 : UInt64).toNat = 0x8000000000000000 := rfl
        omega
      simp [Listing.scoreOfJson, Listing.score, small, ← same]
  | negative negative below =>
      rw [Int64.toInt_inj] at same
      simp [Listing.scoreOfJson, Listing.score, same]

theorem NamesAuthor.author {name : String} {value : Json} (states : NamesAuthor name value) :
    ∃ found, author value = .ok found ∧ found.name = name := by
  cases states with
  | handle => exact ⟨.handle name, rfl, rfl⟩
  | @profile members sole =>
      have same : (members.filter fun member => member.1 == "username") =
          [("username", .string name)] := by
        simpa [Bool.beq_eq_decide_eq] using sole
      exact ⟨.profile name, by simp [Listing.author, profile?, same], rfl⟩

/-- A field that may be left out has its value, given or not. -/
theorem GivenOrDefault.getD_eq {α : Type} {found : Option α} {actual default : α}
    {allows : Json → Prop} {values : List Json}
    (given : GivenOrDefault (actual = default) allows values) (field : Field) (wrap : α → FieldValue)
    (reads : ∀ value, allows value → fieldValue? field value = some (wrap actual))
    (wraps : ∀ value, wrap value = wrap actual → value = actual)
    (absent : values = [] → found.map wrap = none)
    (present : ∀ value, values = [value] → found.map wrap = fieldValue? field value) :
    found.getD default = actual := by
  rcases given with ⟨empty, isDefault⟩ | ⟨value, sole, isValue⟩
  · rw [Option.map_eq_none_iff.mp (absent empty), Option.getD_none, isDefault]
  · obtain ⟨held, rfl, same⟩ := Option.map_eq_some_iff.mp ((present value sole).trans (reads value isValue))
    exact wraps held same

/-! ## Comments -/

/-- What stands under the names of the replies, and what they are decoded to. -/
def RepliesDecode (values : List Json) (replies : List Entry) : Prop :=
  values = [] ∧ replies = [] ∨ ∃ items found, values = [.array items] ∧
    entriesOfJson items = .ok found ∧ ∀ now, Entry.convertAll now found = Entry.convertAll now replies

/-- Replies have their value, given or not. -/
theorem RepliesDecode.convertAll_getD {values : List Json} {replies : List Entry}
    (below : RepliesDecode values replies) {found : Option (List Entry)}
    (absent : values = [] → found.map FieldValue.replies = none)
    (present : ∀ value, values = [value] →
      found.map FieldValue.replies = fieldValue? .replies value) (now : Instant) :
    Entry.convertAll now (found.getD []) = Entry.convertAll now replies := by
  rcases below with ⟨empty, rfl⟩ | ⟨items, more, sole, decoded, alike⟩
  · rw [Option.map_eq_none_iff.mp (absent empty), Option.getD_none]
  · have given : found = some more := by simpa [fieldValue?, decoded] using present _ sole
    rw [given, Option.getD_some, alike]

variable {members : List (String × Json)} {content : Content} {replies : List Entry}

/-- Every field of a comment can have the value that stands there. -/
theorem takes_of_describes (comment : DescribesContent members content)
    (below : RepliesDecode (valuesOf members .replies) replies) (field : Field) :
    valuesOf members field = [] ∨ ∃ value found,
      valuesOf members field = [value] ∧ fieldValue? field value = some found := by
  cases field with
  | id => exact .inr ⟨_, .id content.id, comment.id, rfl⟩
  | body => exact .inr ⟨_, .body content.body, comment.body, rfl⟩
  | author =>
      obtain ⟨value, sole, names⟩ := comment.author
      obtain ⟨found, decoded, -⟩ := names.author
      exact .inr ⟨value, .author found, sole, by simp [fieldValue?, decoded]⟩
  | label =>
      rcases comment.label with ⟨empty, -⟩ | ⟨value, sole, states⟩
      · exact .inl empty
      · exact .inr ⟨value, .label content.label, sole,
          by simp [fieldValue?, states.optionalTextOfJson]⟩
  | createdAt =>
      rcases comment.createdAt with ⟨empty, -⟩ | ⟨value, sole, states⟩
      · exact .inl empty
      · exact .inr ⟨value, .createdAt content.createdAt, sole,
          by simp [fieldValue?, states.optionalTextOfJson]⟩
  | score =>
      rcases comment.score with ⟨empty, -⟩ | ⟨value, sole, states⟩
      · exact .inl empty
      · exact .inr ⟨value, .score content.score, sole, by simp [fieldValue?, states.scoreOfJson]⟩
  | byPostAuthor =>
      rcases comment.byPostAuthor with ⟨empty, -⟩ | ⟨value, sole, states⟩
      · exact .inl empty
      · exact .inr ⟨value, .byPostAuthor content.byPostAuthor, sole, by rw [states]; rfl⟩
  | replies =>
      rcases below with ⟨empty, -⟩ | ⟨items, found, sole, decoded, -⟩
      · exact .inl empty
      · exact .inr ⟨.array items, .replies found, sole, by simp [fieldValue?, decoded]⟩

/-- An object that says what a comment is decodes to that comment, but for the form in which the
author is given. -/
theorem entry_of_describes (comment : DescribesContent members content)
    (below : RepliesDecode (valuesOf members .replies) replies) :
    ∃ entry, entryOfJson (.object members) = .ok entry ∧
      ∀ now, entry.convert now = (⟨content, replies⟩ : Entry).convert now := by
  obtain ⟨fields, taken, agrees⟩ := foldlM_takeMember members {} fun field =>
    (takes_of_describes comment below field).imp_right fun ⟨value, found, sole, decoded⟩ =>
      ⟨by cases field <;> rfl, value, found, sole, decoded⟩
  have id : fields.id = some content.id := by
    simpa [Fields.get?, fieldValue?, identifierOfJson, identifier] using (agrees .id).2 _ comment.id
  have body : fields.body = some content.body := by
    simpa [Fields.get?, fieldValue?, textOfJson] using (agrees .body).2 _ comment.body
  obtain ⟨value, sole, names⟩ := comment.author
  obtain ⟨found, decoded, named⟩ := names.author
  have author : fields.author = some found := by
    simpa [Fields.get?, fieldValue?, decoded] using (agrees .author).2 value sole
  have label : fields.label.getD none = content.label :=
    comment.label.getD_eq .label .label
      (fun value states => by simp [fieldValue?, states.optionalTextOfJson])
      (fun value => FieldValue.label.inj) (agrees .label).1 (agrees .label).2
  have createdAt : fields.createdAt.getD none = content.createdAt :=
    comment.createdAt.getD_eq .createdAt .createdAt
      (fun value states => by simp [fieldValue?, states.optionalTextOfJson])
      (fun value => FieldValue.createdAt.inj) (agrees .createdAt).1 (agrees .createdAt).2
  have score : fields.score.getD 0 = content.score :=
    comment.score.getD_eq .score .score
      (fun value states => by simp [fieldValue?, states.scoreOfJson])
      (fun value => FieldValue.score.inj) (agrees .score).1 (agrees .score).2
  have flag : fields.byPostAuthor.getD false = content.byPostAuthor :=
    comment.byPostAuthor.getD_eq .byPostAuthor .byPostAuthor
      (fun value states => by rw [states]; rfl)
      (fun value => FieldValue.byPostAuthor.inj) (agrees .byPostAuthor).1 (agrees .byPostAuthor).2
  have threads := below.convertAll_getD (agrees .replies).1 (agrees .replies).2
  have met : fieldsOfMembers {} members = .ok fields :=
    toOption_eq_some_iff.mp ((toOption_fieldsOfMembers {} members).trans taken)
  refine ⟨⟨{ content with author := found }, fields.replies.getD []⟩, ?_, fun now => ?_⟩
  · rw [entryOfJson, met]
    simp only [bind, Except.bind, Fields.entry, Fields.require, id, author, body, label, createdAt,
      score, flag]
  · rw [Entry.convert, Entry.convert, threads]
    simp [Content.comment, Content.ageLabel, named]

mutual

theorem Describes.decodes {value : Json} {entry : Entry} :
    Describes value entry → ∃ found, entryOfJson value = .ok found ∧
      ∀ now, found.convert now = entry.convert now
  | .object comment below => entry_of_describes comment below.decodes

theorem DescribesReplies.decodes {values : List Json} {replies : List Entry} :
    DescribesReplies values replies → RepliesDecode values replies
  | .omitted => .inl ⟨rfl, rfl⟩
  | .given each => by
      obtain ⟨found, decoded, alike⟩ := each.decodes
      exact .inr ⟨_, found, rfl, decoded, alike⟩

theorem DescribesAll.decodes {values : List Json} {entries : List Entry} :
    DescribesAll values entries → ∃ found, entriesOfJson values = .ok found ∧
      ∀ now, Entry.convertAll now found = Entry.convertAll now entries
  | .nil => ⟨[], rfl, fun now => rfl⟩
  | .cons first others => by
      obtain ⟨found, decoded, alike⟩ := first.decodes
      obtain ⟨more, decodedOthers, alikeOthers⟩ := others.decodes
      refine ⟨found :: more, by simp [entriesOfJson, decoded, decodedOthers]; rfl, fun now => ?_⟩
      rw [Entry.convertAll, Entry.convertAll, alike, alikeOthers]

end

/-- Every text that writes a list of comments as an array of objects is decoded, and what it is
decoded to becomes the same threads of comments, in the same order and with the same replies. Fields
stand under any of their names and in any order, with escapes and white space wherever there may be
any, and fields that have their default may be left out; an author is a handle or an object with one
username; and members that mean nothing may say anything. -/
theorem threads_of_spelled {values : List Json} {entries : List Entry} {bytes : List UInt8}
    (describes : DescribesAll values entries) (spelled : Json.SpelledText (.array values) bytes) :
    ∃ found, ofBytes bytes = .ok found ∧
      ∀ now, (found.map fun entry => entry.toThread now) = Entry.convertAll now entries := by
  obtain ⟨found, decoded, alike⟩ := describes.decodes
  refine ⟨found, ?_, fun now => ?_⟩
  · rw [← toOption_eq_some_iff, toOption_ofBytes spelled, decoded]
    rfl
  · rw [Entry.map_toThread, alike]

/-- A comment with a reply as they may be written: under other names, the first field last, with an
escape, a profile that holds more than a username, and a member that means nothing. -/
def looseRemark : String :=
  "[\x7b\"text\":\"\\u0048m\", \"author\":\x7b\"age\":36,\"username\":\"ada\"\x7d," ++
    "\"seen\":[],\"votes\":-3,\"timeAgo\":\"2h\"," ++
    "\"replies\":[\x7b\"isOp\":true,\"content\":\"Hi\",\"author\":\"bob\",\"id\":8\x7d]," ++
    "\"id\":7\x7d]"

/-- What the text writes down. -/
def looseValues : List Json :=
  [.object [("text", .string "Hm"),
    ("author", .object [("age", .number (.natural 36)), ("username", .string "ada")]),
    ("seen", .array []), ("votes", .number (.negative (-3))), ("timeAgo", .string "2h"),
    ("replies", .array [.object [("isOp", .bool true), ("content", .string "Hi"),
      ("author", .string "bob"), ("id", .number (.natural 8))]]),
    ("id", .number (.natural 7))]]

/-- What it says. -/
def looseEntries : List Entry :=
  [⟨⟨7, .handle "ada", "Hm", some "2h", none, -3, false⟩,
    [⟨⟨8, .handle "bob", "Hi", none, none, 0, true⟩, []⟩]⟩]

theorem spelled_looseValues :
    Json.SpelledText (.array looseValues) (looseRemark.toList.map ascii) := by
  have space : Json.Blank [ascii ' '] := by simp [Json.Blank]
  have digit (value : Fin 10) (whole : value ≠ 0) : Json.SpelledNumeral ⟨false, [value], [], none⟩ _ :=
    .literal false (.leading value [] whole) .none .none
  have seven : Json.SpelledNumber (.natural 7) _ := .natural rfl (digit 7 (by decide))
  have eight : Json.SpelledNumber (.natural 8) _ := .natural rfl (digit 8 (by decide))
  have thirtySix : Json.SpelledNumber (.natural 36) _ :=
    .natural (rfl : Numeral.ofDigits [3, 6] = 36) (.literal false (.leading 3 [6] (by decide)) .none .none)
  have minusThree : Json.SpelledNumber (.negative (-3)) _ :=
    .negative (by decide) (by decide : (Numeral.ofDigits [3] : Int) = -(-3 : Int64).toInt)
      (.literal true (.leading 3 [] (by decide)) .none .none)
  have capital : Json.SpelledChar 'H' _ := .unit (.escape (.decimal 0 (by decide))
    (.decimal 0 (by decide)) (.decimal 4 (by decide)) (.decimal 8 (by decide)))
  have body : Json.SpelledString "Hm" _ :=
    .quoted (.cons capital (.cons (.plain 'm' (by decide) (by decide) (by decide)) .nil))
  have plainly (text : String) (plain : text.toList.all Json.isPlain = true) :=
    Json.spelledString_of_plain plain
  have profile := Json.Spelled.object
    (.more .nil (plainly "age" (by decide)) .nil .nil (.number thirtySix) .nil
      (.last .nil (plainly "username" (by decide)) .nil .nil
        (.string (plainly "ada" (by decide))) .nil)) (List.Perm.refl _)
  have reply := Json.Spelled.object
    (.more .nil (plainly "isOp" (by decide)) .nil .nil .true .nil
      (.more .nil (plainly "content" (by decide)) .nil .nil (.string (plainly "Hi" (by decide))) .nil
        (.more .nil (plainly "author" (by decide)) .nil .nil
          (.string (plainly "bob" (by decide))) .nil
          (.last .nil (plainly "id" (by decide)) .nil .nil (.number eight) .nil))))
    (List.Perm.refl _)
  have remark := Json.Spelled.object
    (.more .nil (plainly "text" (by decide)) .nil .nil (.string body) .nil
      (.more space (plainly "author" (by decide)) .nil .nil profile .nil
        (.more .nil (plainly "seen" (by decide)) .nil .nil (.emptyArray .nil) .nil
          (.more .nil (plainly "votes" (by decide)) .nil .nil (.number minusThree) .nil
            (.more .nil (plainly "timeAgo" (by decide)) .nil .nil
              (.string (plainly "2h" (by decide))) .nil
              (.more .nil (plainly "replies" (by decide)) .nil .nil
                (.array (.last .nil reply .nil)) .nil
                (.last .nil (plainly "id" (by decide)) .nil .nil (.number seven) .nil)))))))
    (List.Perm.refl _)
  have spelled := Json.SpelledText.text .nil (.array (.last .nil remark .nil)) .nil
  refine Eq.mp (congrArg (Json.SpelledText (.array looseValues)) ?_) spelled
  decide +kernel

theorem describes_looseValues : DescribesAll looseValues looseEntries := by
  refine .cons (.object ?_ (.given (.cons (.object ?_ .omitted) .nil))) .nil
  · exact ⟨rfl, ⟨_, rfl, .profile rfl⟩, rfl, .inr ⟨_, rfl, .text "2h"⟩, .inl ⟨rfl, rfl⟩,
      .inr ⟨_, rfl, .negative (-3) (by decide)⟩, .inl ⟨rfl, rfl⟩⟩
  · exact ⟨rfl, ⟨_, rfl, .handle "bob"⟩, rfl, .inl ⟨rfl, rfl⟩, .inl ⟨rfl, rfl⟩, .inl ⟨rfl, rfl⟩,
      .inr ⟨_, rfl, rfl⟩⟩

theorem threads_looseRemark : ∃ found, ofBytes (looseRemark.toList.map ascii) = .ok found ∧
    ∀ now, (found.map fun entry => entry.toThread now) =
      [⟨⟨7, "ada", "Hm", "2h", -3, false⟩, [⟨⟨8, "bob", "Hi", "", 0, true⟩, []⟩]⟩] :=
  threads_of_spelled describes_looseValues spelled_looseValues

end Colloquy.Listing
