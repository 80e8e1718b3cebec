import Colloquy.Proofs.Json.Numbers

/-!
# Reading values

However a value is spelled, the reading of the text shows that value. A number is known to be over
only at the byte after it, so a value that has been read is described by what the reader does next:
the same as a reader that stands after the value and between two tokens.
-/

namespace Colloquy

open JsonLexer (ascii)

/-! ## Readings of values -/

mutual

/-- A reading is that of a value. The members of an object may have come in any order. -/
inductive Reading.Shows : Reading → Json → Prop where
  | null : Reading.Shows .null .null
  | bool (value : Bool) : Reading.Shows (.bool value) (.bool value)
  | number {numeral : Numeral} {number : JsonNumber} (stands : numeral.value = .ok number) :
      Reading.Shows (.number numeral) (.number number)
  | string {pieces : Quoted} {text : String} (denotes : pieces.text = .ok text) :
      Reading.Shows (.string pieces) (.string text)
  | array {items : ReadingItems} {values : List Json} (shows : ReadingItems.Shows items values) :
      Reading.Shows (.array items) (.array values)
  | object {members : ReadingMembers} {met values : List (String × Json)}
      (shows : ReadingMembers.Shows members met) (order : met.Perm values) :
      Reading.Shows (.object members) (.object values)

/-- Items are read one after the other. -/
inductive ReadingItems.Shows : ReadingItems → List Json → Prop where
  | close : ReadingItems.Shows .close []
  | item {reading : Reading} {value : Json} {rest : ReadingItems} {values : List Json}
      (first : Reading.Shows reading value) (others : ReadingItems.Shows rest values) :
      ReadingItems.Shows (.item reading rest) (value :: values)

/-- Members are read in the order in which they are written. -/
inductive ReadingMembers.Shows : ReadingMembers → List (String × Json) → Prop where
  | close : ReadingMembers.Shows .close []
  | member {pieces : Quoted} {key : String} {reading : Reading} {value : Json}
      {rest : ReadingMembers} {values : List (String × Json)} (denotes : pieces.text = .ok key)
      (first : Reading.Shows reading value) (others : ReadingMembers.Shows rest values) :
      ReadingMembers.Shows (.member pieces reading rest) ((key, value) :: values)

end

theorem ReadingItems.ofReversed_append (later earlier : List Reading) (ending : ReadingItems) :
    ofReversed (later ++ earlier) ending = ofReversed earlier (ofReversed later ending) := by
  induction later generalizing ending with
  | nil => rfl
  | cons last before ih => exact ih (.item last ending)

theorem ReadingMembers.ofReversed_append (later earlier : List (Quoted × Reading))
    (ending : ReadingMembers) :
    ofReversed (later ++ earlier) ending = ofReversed earlier (ofReversed later ending) := by
  induction later generalizing ending with
  | nil => rfl
  | cons last before ih => exact ih (.member last.1 last.2 ending)

/-! ## What a reader does next -/

namespace JsonBuilder

/-- A value is taken here and put on the stack. The closing bracket of an array without items is no
value. -/
def Expects (builder : State) (stack : List Frame) : Prop :=
  ∀ token, token ≠ .closeArray → step builder token = takeValue stack token

theorem expects_value (stack : List Frame) : Expects (.value stack) stack :=
  fun _ _ => rfl

theorem expects_firstItem (stack : List Frame) :
    Expects (.firstItem stack) (.items [] :: stack) := by
  intro token item
  cases token with
  | closeArray => contradiction
  | _ => rfl

/-- A key is taken here, after some members of an object. -/
def ExpectsKey (builder : State) (before : List (Quoted × Reading)) (stack : List Frame) : Prop :=
  ∀ pieces, step builder (.string pieces) = .colon before pieces stack

theorem expectsKey_firstKey (stack : List Frame) : ExpectsKey (.firstKey stack) [] stack :=
  fun _ => rfl

theorem expectsKey_key (before : List (Quoted × Reading)) (stack : List Frame) :
    ExpectsKey (.key before stack) before stack :=
  fun _ => rfl

end JsonBuilder

namespace JsonReader

/-- The bytes that may follow a value. -/
def Delimits (byte : UInt8) : Prop :=
  byte ∈ [ascii ' ', ascii '\t', ascii '\n', ascii '\r', ascii ',', ascii ']', 0x7D]

/-- Whatever may come now, the reader treats it as if it stood between two tokens, with the builder
in the given state. -/
structure Rests (reader : JsonReader) (builder : JsonBuilder.State) : Prop where
  feed : ∀ byte, Delimits byte → reader.feed byte = JsonReader.feed ⟨.between, builder⟩ byte
  document : reader.document = JsonReader.document ⟨.between, builder⟩

theorem rests_between (builder : JsonBuilder.State) : Rests ⟨.between, builder⟩ builder :=
  ⟨fun _ _ => rfl, rfl⟩

/-- A literal that may end is over at whatever may follow it. -/
theorem rests_numeral {numeral : JsonLexer.OpenNumeral} (complete : numeral.isComplete = true)
    (builder : JsonBuilder.State) :
    Rests ⟨.numeral numeral, builder⟩ (JsonBuilder.step builder (.number numeral.close)) := by
  obtain ⟨part, negative, whole, fraction, down, exponent⟩ := numeral
  refine ⟨?_, ?_⟩
  · intro byte follows
    have ended : JsonLexer.OpenNumeral.step ⟨part, negative, whole, fraction, down, exponent⟩ byte =
        .ended := by
      simp only [Delimits, List.mem_cons, List.not_mem_nil, or_false] at follows
      cases part with
      | zero | whole | fraction | exponent =>
          obtain rfl | rfl | rfl | rfl | rfl | rfl | rfl := follows
          all_goals rfl
      | minus | point | mark | exponentSign => contradiction
    simp [JsonReader.feed, JsonLexer.step, ended, build]
  · simp [JsonReader.document, JsonLexer.finish, complete, build]

/-- White space changes nothing between tokens. -/
theorem feedAll_blank {bytes : List UInt8} (blank : Json.Blank bytes)
    (builder : JsonBuilder.State) :
    feedAll ⟨.between, builder⟩ bytes = ⟨.between, builder⟩ := by
  induction bytes with
  | nil => rfl
  | cons byte rest ih =>
      have space : JsonReader.feed ⟨.between, builder⟩ byte = ⟨.between, builder⟩ := by
        have kind := blank byte List.mem_cons_self
        simp only [List.mem_cons, List.not_mem_nil, or_false] at kind
        obtain rfl | rfl | rfl | rfl := kind
        all_goals rfl
      rw [feedAll_cons, space]
      exact ih fun other member => blank other (List.mem_cons_of_mem byte member)

/-- White space changes nothing after a value. -/
theorem Rests.blank {reader : JsonReader} {builder : JsonBuilder.State}
    (rests : reader.Rests builder) {bytes : List UInt8} (blank : Json.Blank bytes) :
    (reader.feedAll bytes).Rests builder := by
  cases bytes with
  | nil => exact rests
  | cons byte rest =>
      have follows : Delimits byte :=
        List.mem_append_left [ascii ',', ascii ']', 0x7D] (blank byte List.mem_cons_self)
      have same : reader.feedAll (byte :: rest) = feedAll ⟨.between, builder⟩ (byte :: rest) := by
        rw [feedAll_cons, feedAll_cons, rests.feed byte follows]
      rw [same, feedAll_blank blank]
      exact rests_between builder

/-! ## Punctuation -/

variable {reader : JsonReader} {builder : JsonBuilder.State} {stack : List JsonBuilder.Frame}

theorem feedAll_openArray (expects : JsonBuilder.Expects builder stack) :
    feedAll ⟨.between, builder⟩ [ascii '['] = ⟨.between, .firstItem stack⟩ := by
  have opened : feedAll ⟨.between, builder⟩ [ascii '['] =
      ⟨.between, JsonBuilder.step builder .openArray⟩ := rfl
  rw [opened, expects .openArray (by simp)]
  rfl

theorem feedAll_openObject (expects : JsonBuilder.Expects builder stack) :
    feedAll ⟨.between, builder⟩ [0x7B] = ⟨.between, .firstKey stack⟩ := by
  have opened : feedAll ⟨.between, builder⟩ [0x7B] =
      ⟨.between, JsonBuilder.step builder .openObject⟩ := rfl
  rw [opened, expects .openObject (by simp)]
  rfl

/-- A comma, or what closes an array or an object, is taken after a value. -/
theorem Rests.feedAll_singleton (rests : reader.Rests builder) {byte : UInt8}
    (follows : Delimits byte) : reader.feedAll [byte] = feedAll ⟨.between, builder⟩ [byte] :=
  rests.feed byte follows

theorem Rests.feedAll_nextItem {items : List Reading} (rests : reader.Rests (.afterItem items stack)) :
    reader.feedAll [ascii ','] = ⟨.between, .value (.items items :: stack)⟩ := by
  rw [rests.feedAll_singleton (by simp [Delimits])]
  rfl

theorem Rests.feedAll_closeArray {items : List Reading}
    (rests : reader.Rests (.afterItem items stack)) : reader.feedAll [ascii ']'] =
      ⟨.between, JsonBuilder.place (.array (.ofReversed items .close)) stack⟩ := by
  rw [rests.feedAll_singleton (by simp [Delimits])]
  rfl

theorem Rests.feedAll_nextMember {members : List (Quoted × Reading)}
    (rests : reader.Rests (.afterMember members stack)) :
    reader.feedAll [ascii ','] = ⟨.between, .key members stack⟩ := by
  rw [rests.feedAll_singleton (by simp [Delimits])]
  rfl

theorem Rests.feedAll_closeObject {members : List (Quoted × Reading)}
    (rests : reader.Rests (.afterMember members stack)) : reader.feedAll [0x7D] =
      ⟨.between, JsonBuilder.place (.object (.ofReversed members .close)) stack⟩ := by
  rw [rests.feedAll_singleton (by simp [Delimits])]
  rfl

end JsonReader

/-! ## Values -/

namespace Json

open JsonBuilder JsonReader

/-- What has been read of a text when a value is over. -/
def Reads (bytes : List UInt8) (reading : Reading) : Prop :=
  ∀ builder stack, Expects builder stack →
    (feedAll ⟨.between, builder⟩ bytes).Rests (place reading stack)

/-- A token that is a whole value. -/
theorem reads_of_token {bytes : List UInt8} {reading : Reading} (token : JsonToken)
    (item : token ≠ .closeArray) (whole : ∀ stack, takeValue stack token = place reading stack)
    (read : ∀ builder, feedAll ⟨.between, builder⟩ bytes = ⟨.between, step builder token⟩) :
    Reads bytes reading := by
  intro builder stack expects
  rw [read, expects token item, whole]
  exact rests_between _

theorem SpelledNumber.reads {number : JsonNumber} {bytes : List UInt8}
    (spelled : SpelledNumber number bytes) :
    ∃ reading, Reading.Shows reading (.number number) ∧ Reads bytes reading := by
  obtain ⟨numeral, stands, literal⟩ := spelled.numeral
  refine ⟨_, .number stands, ?_⟩
  intro builder stack expects
  obtain ⟨found, complete, close, read⟩ := literal.feedAll builder
  have rests := rests_numeral complete builder
  rw [close, expects (.number numeral) (by simp)] at rests
  rwa [read]

theorem SpelledString.reads {text : String} {bytes : List UInt8}
    (spelled : SpelledString text bytes) :
    ∃ reading, Reading.Shows reading (.string text) ∧ Reads bytes reading := by
  obtain ⟨pieces, denotes, read⟩ := spelled.feedAll
  exact ⟨_, .string denotes,
    reads_of_token (.string pieces) (by simp) (fun stack => rfl) read⟩

/-- A member of an object, from the white space before its key to the white space after its
value. -/
theorem reads_member {key : String} {before name afterName beforeValue bytes after : List UInt8}
    {reading : Reading} (spelledKey : SpelledString key name) (reads : Reads bytes reading)
    (blankBefore : Blank before) (blankAfterName : Blank afterName)
    (blankBeforeValue : Blank beforeValue) (blankAfter : Blank after) :
    ∃ pieces : Quoted, pieces.text = .ok key ∧
      ∀ builder earlier stack, ExpectsKey builder earlier stack →
        (feedAll ⟨.between, builder⟩
          (before ++ name ++ afterName ++ [ascii ':'] ++ beforeValue ++ bytes ++ after)).Rests
            (.afterMember ((pieces, reading) :: earlier) stack) := by
  obtain ⟨pieces, denotes, read⟩ := spelledKey.feedAll
  refine ⟨pieces, denotes, ?_⟩
  intro builder earlier stack expects
  have colon : feedAll ⟨.between, .colon earlier pieces stack⟩ [ascii ':'] =
      ⟨.between, .value (.member earlier pieces :: stack)⟩ := rfl
  simp only [feedAll_append, feedAll_blank blankBefore, read, expects pieces,
    feedAll_blank blankAfterName, colon, feedAll_blank blankBeforeValue]
  exact (reads _ _ (expects_value _)).blank blankAfter

mutual

/-- However a value is spelled, the reading shows it. -/
theorem Spelled.reads {value : Json} {bytes : List UInt8} :
    Spelled value bytes → ∃ reading, Reading.Shows reading value ∧ Reads bytes reading
  | .null => ⟨_, .null, reads_of_token .null (by simp) (fun stack => rfl) fun builder => rfl⟩
  | .true => ⟨_, .bool true,
      reads_of_token (.bool true) (by simp) (fun stack => rfl) fun builder => rfl⟩
  | .false => ⟨_, .bool false,
      reads_of_token (.bool false) (by simp) (fun stack => rfl) fun builder => rfl⟩
  | .number spelled => spelled.reads
  | .string spelled => spelled.reads
  | .emptyArray blank => by
      refine ⟨_, .array .close, ?_⟩
      intro builder stack expects
      rw [feedAll_append, feedAll_append, feedAll_openArray expects, feedAll_blank blank]
      exact rests_between _
  | .array spelled => by
      obtain ⟨met, shows, reads⟩ := spelled.reads
      have whole := shows .close [] .close
      rw [List.append_nil] at whole
      refine ⟨_, .array whole, ?_⟩
      intro builder stack expects
      have rests := reads (.firstItem stack) [] stack (expects_firstItem stack)
      rw [List.append_nil] at rests
      rw [feedAll_append, feedAll_append, feedAll_openArray expects, rests.feedAll_closeArray]
      exact rests_between _
  | .emptyObject blank => by
      refine ⟨_, .object .close (List.Perm.refl []), ?_⟩
      intro builder stack expects
      rw [feedAll_append, feedAll_append, feedAll_openObject expects, feedAll_blank blank]
      exact rests_between _
  | .object spelled order => by
      obtain ⟨met, shows, reads⟩ := spelled.reads
      have whole := shows .close [] .close
      rw [List.append_nil] at whole
      refine ⟨_, .object whole order, ?_⟩
      intro builder stack expects
      have rests := reads (.firstKey stack) [] stack (expectsKey_firstKey stack)
      rw [List.append_nil] at rests
      rw [feedAll_append, feedAll_append, feedAll_openObject expects, rests.feedAll_closeObject]
      exact rests_between _

theorem SpelledItems.reads {items : List Json} {bytes : List UInt8} :
    SpelledItems items bytes → ∃ met : List Reading,
      (∀ ending values, ReadingItems.Shows ending values →
        ReadingItems.Shows (.ofReversed met ending) (items ++ values)) ∧
      ∀ builder before stack, Expects builder (.items before :: stack) →
        (feedAll ⟨.between, builder⟩ bytes).Rests (.afterItem (met ++ before) stack)
  | .last blankBefore spelled blankAfter => by
      obtain ⟨reading, shows, reads⟩ := spelled.reads
      refine ⟨[reading], fun ending values ends => .item shows ends, ?_⟩
      intro builder before stack expects
      rw [feedAll_append, feedAll_append, feedAll_blank blankBefore]
      exact (reads builder _ expects).blank blankAfter
  | .more blankBefore spelled blankAfter others => by
      obtain ⟨reading, shows, reads⟩ := spelled.reads
      obtain ⟨met, continues, goesOn⟩ := others.reads
      refine ⟨met ++ [reading], ?_, ?_⟩
      · intro ending values ends
        rw [ReadingItems.ofReversed_append]
        exact .item shows (continues ending values ends)
      · intro builder before stack expects
        have rests := (reads builder _ expects).blank blankAfter
        rw [feedAll_append, feedAll_append, feedAll_append, feedAll_append,
          feedAll_blank blankBefore, rests.feedAll_nextItem, List.append_assoc]
        exact goesOn _ _ stack (expects_value _)

theorem SpelledMembers.reads {members : List (String × Json)} {bytes : List UInt8} :
    SpelledMembers members bytes → ∃ met : List (Quoted × Reading),
      (∀ ending values, ReadingMembers.Shows ending values →
        ReadingMembers.Shows (.ofReversed met ending) (members ++ values)) ∧
      ∀ builder before stack, ExpectsKey builder before stack →
        (feedAll ⟨.between, builder⟩ bytes).Rests (.afterMember (met ++ before) stack)
  | .last blankBefore spelledKey blankAfterName blankBeforeValue spelled blankAfter => by
      obtain ⟨reading, shows, reads⟩ := spelled.reads
      obtain ⟨pieces, denotes, member⟩ :=
        reads_member spelledKey reads blankBefore blankAfterName blankBeforeValue blankAfter
      exact ⟨[(pieces, reading)], fun ending values ends => .member denotes shows ends, member⟩
  | .more blankBefore spelledKey blankAfterName blankBeforeValue spelled blankAfter others => by
      obtain ⟨reading, shows, reads⟩ := spelled.reads
      obtain ⟨pieces, denotes, member⟩ :=
        reads_member spelledKey reads blankBefore blankAfterName blankBeforeValue blankAfter
      obtain ⟨met, continues, goesOn⟩ := others.reads
      refine ⟨met ++ [(pieces, reading)], ?_, ?_⟩
      · intro ending values ends
        rw [ReadingMembers.ofReversed_append]
        exact .member denotes shows (continues ending values ends)
      · intro builder before stack expects
        have rests := member builder before stack expects
        rw [feedAll_append, feedAll_append, rests.feedAll_nextMember, List.append_assoc]
        exact goesOn _ _ stack (expectsKey_key _ _)

end

/-- The reading of a whole text. -/
theorem SpelledText.reads {value : Json} {bytes : List UInt8} (spelled : SpelledText value bytes) :
    ∃ reading, Reading.Shows reading value ∧ Document.ofBytes bytes = ⟨reading, none⟩ := by
  cases spelled with
  | text blankBefore spelled blankAfter =>
      obtain ⟨reading, shows, reads⟩ := spelled.reads
      have rests := (reads (.value []) [] (expects_value [])).blank blankAfter
      refine ⟨reading, shows, ?_⟩
      rw [Document.ofBytes, JsonReader.start, feedAll_append, feedAll_append,
        feedAll_blank blankBefore, rests.document]
      rfl

end Json

end Colloquy
