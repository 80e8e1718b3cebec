import Colloquy.Proofs.Except
import Colloquy.Proofs.Json.Readings

/-!
# Where texts end

A text that shows an array is over at the bracket that closes the array. White space may follow, and
the text shows the same; any other byte is one too many, whatever comes after it. Before the bracket
the text is broken off, and its reading tells so.
-/

namespace Colloquy

open JsonLexer (ascii)

/-! ## Readings that are whole -/

theorem ReadingItems.skip_item_iff {value : Reading} {rest : ReadingItems} :
    (ReadingItems.item value rest).skip = .ok () ↔ value.skip = .ok () ∧ rest.skip = .ok () := by
  rw [ReadingItems.skip]
  cases value.skip with
  | error fault => simp
  | ok done => simp

theorem ReadingMembers.skip_member_iff {key : Quoted} {value : Reading} {rest : ReadingMembers} :
    (ReadingMembers.member key value rest).skip = .ok () ↔
      value.skip = .ok () ∧ rest.skip = .ok () := by
  rw [ReadingMembers.skip]
  cases value.skip with
  | error fault => simp
  | ok done => simp

/-- Whole items end in a whole ending. -/
theorem ReadingItems.skip_of_ofReversed {before : List Reading} {ending : ReadingItems}
    (whole : (ofReversed before ending).skip = .ok ()) : ending.skip = .ok () := by
  induction before generalizing ending with
  | nil => exact whole
  | cons last before ih => exact (skip_item_iff.mp (ih whole)).2

theorem ReadingMembers.skip_of_ofReversed {before : List (Quoted × Reading)}
    {ending : ReadingMembers} (whole : (ofReversed before ending).skip = .ok ()) :
    ending.skip = .ok () := by
  induction before generalizing ending with
  | nil => exact whole
  | cons last before ih => exact (skip_member_iff.mp (ih whole)).2

mutual

/-- A value that can be read is whole. -/
theorem Reading.skip_of_json : {reading : Reading} → {value : Json} →
    reading.json = .ok value → reading.skip = .ok ()
  | .null, _, _ | .bool _, _, _ | .number _, _, _ | .string _, _, _ => rfl
  | .array items, _, read => by
      obtain ⟨values, found, -⟩ := map_eq_ok_iff.mp read
      exact ReadingItems.skip_of_json found
  | .object members, _, read => by
      obtain ⟨values, found, -⟩ := map_eq_ok_iff.mp read
      exact ReadingMembers.skip_of_json found

theorem ReadingItems.skip_of_json : {items : ReadingItems} → {values : List Json} →
    items.json = .ok values → items.skip = .ok ()
  | .close, _, _ => rfl
  | .item value rest, _, read => by
      obtain ⟨first, readFirst, others⟩ := bind_eq_ok_iff.mp read
      obtain ⟨more, readOthers, -⟩ := bind_eq_ok_iff.mp others
      exact ReadingItems.skip_item_iff.mpr
        ⟨Reading.skip_of_json readFirst, ReadingItems.skip_of_json readOthers⟩

theorem ReadingMembers.skip_of_json : {members : ReadingMembers} →
    {values : List (String × Json)} → members.json = .ok values → members.skip = .ok ()
  | .close, _, _ => rfl
  | .member key value rest, _, read => by
      obtain ⟨name, -, named⟩ := bind_eq_ok_iff.mp read
      obtain ⟨first, readFirst, others⟩ := bind_eq_ok_iff.mp named
      obtain ⟨more, readOthers, -⟩ := bind_eq_ok_iff.mp others
      exact ReadingMembers.skip_member_iff.mpr
        ⟨Reading.skip_of_json readFirst, ReadingMembers.skip_of_json readOthers⟩

end

/-! ## What is built -/

namespace JsonBuilder

/-- What stands around a place where the text broke off is not whole. -/
theorem skip_of_unwind {value : Reading} {stack : List Frame}
    (whole : (unwind value stack).skip = .ok ()) : value.skip = .ok () ∧ stack = [] := by
  induction stack generalizing value with
  | nil => exact ⟨whole, rfl⟩
  | cons frame stack ih =>
      cases frame with
      | items before =>
          have inner := ReadingItems.skip_of_ofReversed (ih whole).1
          have stopped := (ReadingItems.skip_item_iff.mp inner).2
          contradiction
      | member before key =>
          have inner := ReadingMembers.skip_of_ofReversed (ih whole).1
          have stopped := (ReadingMembers.skip_member_iff.mp inner).2
          contradiction

/-- Text that broke off has left its fault in what was built of it. -/
def KeepsFault (state : State) : Prop :=
  ∀ value, state = .broken value → value.skip ≠ .ok ()

theorem keepsFault_place (value : Reading) (stack : List Frame) : KeepsFault (place value stack) := by
  intro whole broken
  cases stack with
  | nil => contradiction
  | cons frame stack =>
      cases frame with
      | items before => contradiction
      | member before key => contradiction

theorem keepsFault_breakValue (reading skipping : JsonFault) (stack : List Frame) :
    KeepsFault (breakValue reading skipping stack) := by
  intro value broken whole
  cases broken
  have torn := (skip_of_unwind whole).1
  contradiction

theorem keepsFault_breakItems (items : List Reading) (fault : JsonFault) (stack : List Frame) :
    KeepsFault (breakItems items fault stack) := by
  intro value broken whole
  cases broken
  have stopped := ReadingItems.skip_of_ofReversed (skip_of_unwind whole).1
  contradiction

theorem keepsFault_breakMembers (members : List (Quoted × Reading)) (reading skipping : JsonFault)
    (stack : List Frame) : KeepsFault (breakMembers members reading skipping stack) := by
  intro value broken whole
  cases broken
  have stopped := ReadingMembers.skip_of_ofReversed (skip_of_unwind whole).1
  contradiction

theorem keepsFault_takeValue (stack : List Frame) (token : JsonToken) :
    KeepsFault (takeValue stack token) := by
  cases token with
  | null | bool | number | string => exact keepsFault_place _ stack
  | openArray | openObject => exact nofun
  | torn | closeArray | closeObject | comma | colon => exact keepsFault_breakValue _ _ stack

theorem keepsFault_takeKey (before : List (Quoted × Reading)) (stack : List Frame)
    (token : JsonToken) : KeepsFault (takeKey before stack token) := by
  unfold takeKey
  split
  · exact nofun
  · exact keepsFault_breakMembers before _ _ stack
  · exact keepsFault_breakMembers before _ _ stack

theorem step_firstKey (stack : List Frame) {token : JsonToken} (key : token ≠ .closeObject) :
    step (.firstKey stack) token = takeKey [] stack token := by
  cases token with
  | closeObject => contradiction
  | _ => rfl

theorem KeepsFault.step {state : State} (keeps : KeepsFault state) (token : JsonToken) :
    KeepsFault (step state token) := by
  cases state with
  | value stack => exact keepsFault_takeValue stack token
  | firstItem stack =>
      by_cases closing : token = .closeArray
      · subst closing
        exact keepsFault_place _ stack
      · rw [expects_firstItem stack token closing]
        exact keepsFault_takeValue _ token
  | firstKey stack =>
      by_cases closing : token = .closeObject
      · subst closing
        exact keepsFault_place _ stack
      · rw [step_firstKey stack closing]
        exact keepsFault_takeKey [] stack token
  | key before stack => exact keepsFault_takeKey before stack token
  | colon before key stack =>
      cases token with
      | colon => exact nofun
      | _ => exact keepsFault_breakValue _ _ (.member before key :: stack)
  | afterItem items stack =>
      cases token with
      | closeArray => exact keepsFault_place _ stack
      | comma => exact nofun
      | _ => exact keepsFault_breakItems items _ stack
  | afterMember members stack =>
      cases token with
      | closeObject => exact keepsFault_place _ stack
      | comma => exact nofun
      | _ => exact keepsFault_breakMembers members _ _ stack
  | complete value | trailing value => exact nofun
  | broken value => exact keeps

/-- A text with a whole value and nothing behind it is complete. -/
theorem KeepsFault.eq_complete {state : State} (keeps : KeepsFault state) {value : Reading}
    (shows : finish state = ⟨value, none⟩) (whole : value.skip = .ok ()) :
    state = .complete value := by
  have apart {inner : Reading} {stack : List Frame} {faulty : Prop}
      (same : finish state = ⟨unwind inner stack, none⟩) (broken : inner.skip = .ok () → faulty) :
      faulty := by
    have found : unwind inner stack = value :=
      congrArg Document.value (same.symm.trans shows)
    exact broken (skip_of_unwind (found ▸ whole)).1
  cases state with
  | value stack => exact apart rfl nofun
  | firstItem stack => exact apart rfl nofun
  | firstKey stack => exact apart rfl nofun
  | key before stack =>
      apply apart rfl
      intro inner
      exact absurd (ReadingMembers.skip_of_ofReversed inner) nofun
  | colon before key stack =>
      have inside : finish (.colon before key stack) =
          ⟨unwind (.torn .truncated .truncated) (.member before key :: stack), none⟩ := rfl
      exact apart inside nofun
  | afterItem items stack =>
      apply apart rfl
      intro inner
      exact absurd (ReadingItems.skip_of_ofReversed inner) nofun
  | afterMember members stack =>
      apply apart rfl
      intro inner
      exact absurd (ReadingMembers.skip_of_ofReversed inner) nofun
  | complete other =>
      cases shows
      rfl
  | trailing other => cases shows
  | broken other =>
      cases shows
      exact absurd whole (keeps value rfl)

theorem eq_of_place {value whole : Reading} {stack : List Frame}
    (complete : place value stack = .complete whole) : value = whole := by
  cases stack with
  | nil =>
      cases complete
      rfl
  | cons frame stack =>
      cases frame with
      | items before => contradiction
      | member before key => contradiction

theorem takeValue_ne {items : ReadingItems} (stack : List Frame) (token : JsonToken) :
    takeValue stack token ≠ .complete (.array items) := by
  intro complete
  cases token with
  | null | bool | number | string =>
      have same := eq_of_place complete
      contradiction
  | _ => contradiction

theorem takeKey_ne {value : Reading} (before : List (Quoted × Reading)) (stack : List Frame)
    (token : JsonToken) : takeKey before stack token ≠ .complete value := by
  unfold takeKey
  split
  · exact nofun
  · exact nofun
  · exact nofun

/-- Only a bracket completes an array. -/
theorem eq_closeArray_of_step {state : State} {token : JsonToken} {items : ReadingItems}
    (complete : step state token = .complete (.array items)) : token = .closeArray := by
  cases state with
  | value stack => exact absurd complete (takeValue_ne stack token)
  | firstItem stack =>
      apply Classical.byContradiction
      intro item
      rw [expects_firstItem stack token item] at complete
      exact takeValue_ne _ token complete
  | firstKey stack =>
      by_cases closing : token = .closeObject
      · subst closing
        exact absurd (eq_of_place complete) nofun
      · rw [step_firstKey stack closing] at complete
        exact absurd complete (takeKey_ne [] stack token)
  | key before stack => exact absurd complete (takeKey_ne before stack token)
  | afterItem items stack =>
      cases token with
      | closeArray => rfl
      | _ => contradiction
  | afterMember members stack =>
      cases token with
      | closeObject => exact absurd (eq_of_place complete) nofun
      | _ => contradiction
  | colon before key stack =>
      cases token with
      | _ => contradiction
  | complete value | trailing value | broken value => contradiction

/-- Nothing follows a token at which the text breaks off. -/
def IsOver (state : State) : Prop :=
  ∃ value, state = .trailing value ∨ state = .broken value

theorem IsOver.step {state : State} (done : IsOver state) (token : JsonToken) :
    IsOver (step state token) := by
  obtain ⟨value, rfl | rfl⟩ := done
  · exact ⟨value, .inl rfl⟩
  · exact ⟨value, .inr rfl⟩

theorem isOver_step_torn (state : State) (quoted : Bool) (reading skipping : JsonFault) :
    IsOver (step state (.torn quoted reading skipping)) := by
  cases state with
  | complete value => exact ⟨value, .inl rfl⟩
  | trailing value => exact ⟨value, .inl rfl⟩
  | firstKey stack =>
      cases quoted with
      | _ => exact ⟨_, .inr rfl⟩
  | key before stack =>
      cases quoted with
      | _ => exact ⟨_, .inr rfl⟩
  | _ => exact ⟨_, .inr rfl⟩

end JsonBuilder

/-! ## What a byte can do -/

namespace JsonLexer

/-- Inside a token. The word that a token spells is no bracket. -/
def IsInside : State → Prop
  | .between | .stuck => False
  | .quoted _ | .escaped _ | .hexadecimal _ _ | .numeral _ => True
  | .word _ token => token ≠ .closeArray

/-- What a byte can do between tokens, if it is no white space. -/
inductive Begun : State × List JsonToken → Prop where
  | punctuation (token : JsonToken) : Begun (.between, [token])
  | inside {state : State} (inside : IsInside state) : Begun (state, [])
  | torn : Begun tornToken

/-- What a byte can do inside a token. -/
inductive Continued (byte : UInt8) : State × List JsonToken → Prop where
  | inside {state : State} (inside : IsInside state) : Continued byte (state, [])
  | whole {token : JsonToken} (plain : token ≠ .closeArray) : Continued byte (.between, [token])
  | torn (quoted : Bool) (reading skipping : JsonFault) :
      Continued byte (.stuck, [.torn quoted reading skipping])
  /-- A number is over, and the byte comes after it. -/
  | ended (numeral : Numeral) :
      Continued byte ((begin byte).1, .number numeral :: (begin byte).2)

theorem begin_of_space {byte : UInt8} (space : isSpace byte = true) :
    begin byte = (.between, []) := by
  rw [begin, if_pos space]

theorem begun_ite {condition : Prop} [Decidable condition] {first second : State × List JsonToken}
    (begunFirst : Begun first) (begunSecond : Begun second) :
    Begun (if condition then first else second) := by
  split
  · exact begunFirst
  · exact begunSecond

/-- A visible byte is punctuation, or begins a string, a number or one of the three words. -/
theorem begun_begin {byte : UInt8} (visible : isSpace byte = false) : Begun (begin byte) := by
  rw [begin, visible, if_neg Bool.false_ne_true]
  iterate 6 apply begun_ite (.punctuation _)
  iterate 2
    apply begun_ite
    · exact .inside trivial
  iterate 3
    apply begun_ite
    · exact .inside nofun
  cases digit? byte with
  | some digit => exact .inside trivial
  | none => exact .torn

theorem continued_step {state : State} (inside : IsInside state) (byte : UInt8) :
    Continued byte (step state byte) := by
  cases state with
  | between | stuck => contradiction
  | quoted pieces =>
      simp only [step]
      repeat' split
      · exact .whole (by simp)
      · exact .inside trivial
      · exact .torn _ _ _
      · exact .inside trivial
  | escaped pieces =>
      simp only [step]
      repeat' split
      · exact .inside trivial
      · exact .inside trivial
      · exact .torn _ _ _
  | hexadecimal pieces seen =>
      simp only [step]
      repeat' split
      · exact .inside trivial
      · exact .inside trivial
      · exact .torn _ _ _
  | numeral numeral =>
      simp only [step]
      split
      · exact .inside trivial
      · exact .torn _ _ _
      · exact .ended _
  | word owed token =>
      simp only [step]
      repeat' split
      · exact .torn _ _ _
      · exact .whole inside
      · exact .torn _ _ _
      · exact .inside inside
      · exact .torn _ _ _

/-- The end of the text makes one token of a token under way, and no bracket. -/
theorem finish_of_isInside {state : State} (inside : IsInside state) :
    ∃ token, finish state = [token] ∧ token ≠ .closeArray := by
  cases state with
  | between | stuck => contradiction
  | quoted pieces | escaped pieces | hexadecimal pieces seen => exact ⟨_, rfl, by simp⟩
  | word owed token => exact ⟨_, rfl, by simp⟩
  | numeral numeral =>
      rw [finish]
      split
      · exact ⟨_, rfl, by simp⟩
      · exact ⟨_, rfl, by simp⟩

end JsonLexer

/-! ## Readers on their way -/

namespace JsonReader

open JsonBuilder (KeepsFault IsOver)
open JsonLexer (IsInside)

theorem feed_eq (reader : JsonReader) (byte : UInt8) :
    reader.feed byte = ⟨(JsonLexer.step reader.lexer byte).1,
      build reader.builder (JsonLexer.step reader.lexer byte).2⟩ :=
  rfl

/-- What holds of a reader after any bytes: a fault of the text is kept, and the reader stands
between tokens, inside one, or where nothing more is looked at. -/
structure Sound (reader : JsonReader) : Prop where
  keepsFault : KeepsFault reader.builder
  stands : reader.lexer = .between ∨ IsInside reader.lexer ∨
    reader.lexer = .stuck ∧ IsOver reader.builder

theorem keepsFault_build {builder : JsonBuilder.State} (keeps : KeepsFault builder)
    (tokens : List JsonToken) : KeepsFault (build builder tokens) := by
  induction tokens generalizing builder with
  | nil => exact keeps
  | cons token rest ih => exact ih (keeps.step token)

theorem sound_start : Sound start :=
  ⟨nofun, .inl rfl⟩

theorem stands_begin (byte : UInt8) (builder : JsonBuilder.State) :
    (JsonLexer.begin byte).1 = .between ∨ IsInside (JsonLexer.begin byte).1 ∨
      (JsonLexer.begin byte).1 = .stuck ∧ IsOver (build builder (JsonLexer.begin byte).2) := by
  cases space : JsonLexer.isSpace byte with
  | true => exact .inl (congrArg Prod.fst (JsonLexer.begin_of_space space))
  | false =>
      have begun := JsonLexer.begun_begin space
      generalize JsonLexer.begin byte = result at begun ⊢
      cases begun with
      | punctuation token => exact .inl rfl
      | inside inside => exact .inr (.inl inside)
      | torn => exact .inr (.inr ⟨rfl, JsonBuilder.isOver_step_torn builder _ _ _⟩)

theorem Sound.feed {reader : JsonReader} (sound : reader.Sound) (byte : UInt8) :
    (reader.feed byte).Sound := by
  constructor
  · exact keepsFault_build sound.keepsFault _
  · rcases sound.stands with between | inside | ⟨stuck, done⟩
    · rw [feed_eq, between]
      exact stands_begin byte reader.builder
    · have continued := JsonLexer.continued_step inside byte
      rw [feed_eq]
      generalize JsonLexer.step reader.lexer byte = result at continued ⊢
      cases continued with
      | inside inside => exact .inr (.inl inside)
      | whole plain => exact .inl rfl
      | torn quoted reading skipping =>
          exact .inr (.inr ⟨rfl, JsonBuilder.isOver_step_torn reader.builder _ _ _⟩)
      | ended numeral => exact stands_begin byte (JsonBuilder.step reader.builder (.number numeral))
    · rw [feed_eq, stuck]
      exact .inr (.inr ⟨rfl, done⟩)

theorem Sound.feedAll {reader : JsonReader} (sound : reader.Sound) (bytes : List UInt8) :
    (reader.feedAll bytes).Sound := by
  induction bytes generalizing reader with
  | nil => exact sound
  | cons byte rest ih => exact ih (sound.feed byte)

/-! ## After an array -/

variable {reader : JsonReader} {items : ReadingItems}

/-- A text that shows a whole array and nothing else is over: its array is complete, and no token is
under way. -/
theorem Sound.eq_of_document (sound : reader.Sound)
    (shows : reader.document = ⟨.array items, none⟩) (whole : items.skip = .ok ()) :
    reader = ⟨.between, .complete (.array items)⟩ := by
  obtain ⟨lexer, builder⟩ := reader
  have complete : build builder (JsonLexer.finish lexer) = .complete (.array items) :=
    (keepsFault_build sound.keepsFault _).eq_complete shows whole
  rcases sound.stands with between | inside | ⟨stuck, value, done⟩
  · cases between
    exact congrArg (JsonReader.mk .between) complete
  · obtain ⟨token, finished, plain⟩ := JsonLexer.finish_of_isInside inside
    rw [finished] at complete
    exact absurd (JsonBuilder.eq_closeArray_of_step complete) plain
  · cases stuck
    rcases done with done | done
    · exact absurd (done.symm.trans complete) nofun
    · exact absurd (done.symm.trans complete) nofun

/-- White space in front of which an array is not yet complete does not complete it. -/
theorem Sound.eq_of_feed_space (sound : reader.Sound) {byte : UInt8}
    (space : JsonLexer.isSpace byte = true)
    (after : reader.feed byte = ⟨.between, .complete (.array items)⟩) :
    reader = ⟨.between, .complete (.array items)⟩ := by
  obtain ⟨lexer, builder⟩ := reader
  have started := JsonLexer.begin_of_space space
  rcases sound.stands with between | inside | ⟨stuck, -⟩
  · cases between
    have unchanged : JsonReader.feed ⟨.between, builder⟩ byte = ⟨.between, builder⟩ := by
      rw [feed_eq]
      exact congrArg (fun result : JsonLexer.State × List JsonToken =>
        (⟨result.1, build builder result.2⟩ : JsonReader)) started
    exact unchanged.symm.trans after
  · have continued := JsonLexer.continued_step inside byte
    rw [feed_eq, JsonReader.mk.injEq] at after
    generalize JsonLexer.step lexer byte = result at continued after
    cases continued with
    | @inside state inside =>
        have between : state = .between := after.1
        rw [between] at inside
        contradiction
    | whole plain => exact absurd (JsonBuilder.eq_closeArray_of_step after.2) plain
    | torn quoted reading skipping => exact absurd after.1 nofun
    | ended numeral =>
        rw [started] at after
        exact absurd (JsonBuilder.eq_closeArray_of_step after.2) nofun
  · cases stuck
    exact absurd (congrArg lexer after) nofun

/-- A token, or a part of one, has come after a complete value. -/
def Overruns (value : Reading) (reader : JsonReader) : Prop :=
  reader.builder = .trailing value ∨ reader.builder = .complete value ∧ IsInside reader.lexer

theorem build_trailing (value : Reading) (tokens : List JsonToken) :
    build (.trailing value) tokens = .trailing value := by
  induction tokens with
  | nil => rfl
  | cons token rest ih => exact ih

theorem build_complete (value : Reading) (token : JsonToken) (rest : List JsonToken) :
    build (.complete value) (token :: rest) = .trailing value :=
  build_trailing value rest

variable {value : Reading}

theorem Overruns.feed (overruns : Overruns value reader) (byte : UInt8) :
    Overruns value (reader.feed byte) := by
  rw [feed_eq]
  rcases overruns with trailing | ⟨complete, inside⟩
  · rw [trailing]
    exact .inl (build_trailing value _)
  · have continued := JsonLexer.continued_step inside byte
    rw [complete]
    generalize JsonLexer.step reader.lexer byte = result at continued ⊢
    cases continued with
    | inside inside => exact .inr ⟨rfl, inside⟩
    | whole plain => exact .inl rfl
    | torn quoted reading skipping => exact .inl rfl
    | ended numeral => exact .inl (build_complete value _ _)

theorem Overruns.feedAll (overruns : Overruns value reader) (bytes : List UInt8) :
    Overruns value (reader.feedAll bytes) := by
  induction bytes generalizing reader with
  | nil => exact overruns
  | cons byte rest ih => exact ih (overruns.feed byte)

/-- The text is wrong after its value. -/
theorem Overruns.document (overruns : Overruns value reader) :
    reader.document = ⟨value, some .malformed⟩ := by
  have trailing : build reader.builder (JsonLexer.finish reader.lexer) = .trailing value := by
    rcases overruns with trailing | ⟨complete, inside⟩
    · rw [trailing]
      exact build_trailing value _
    · obtain ⟨token, finished, -⟩ := JsonLexer.finish_of_isInside inside
      rw [complete, finished]
      rfl
  rw [JsonReader.document, trailing]
  rfl

/-- A byte that is no white space is one too many. -/
theorem overruns_feed {byte : UInt8} (visible : JsonLexer.isSpace byte = false) (value : Reading) :
    Overruns value (feed ⟨.between, .complete value⟩ byte) := by
  have begun := JsonLexer.begun_begin visible
  rw [feed_eq, JsonLexer.step]
  generalize JsonLexer.begin byte = result at begun ⊢
  cases begun with
  | punctuation token => exact .inl rfl
  | inside inside => exact .inr ⟨rfl, inside⟩
  | torn => exact .inl rfl

end JsonReader

/-! ## White space -/

theorem JsonLexer.isSpace_iff {byte : UInt8} :
    isSpace byte = true ↔ byte ∈ [ascii ' ', ascii '\t', ascii '\n', ascii '\r'] := by
  have space : ascii ' ' = 0x20 := rfl
  have tab : ascii '\t' = 0x09 := rfl
  have lineFeed : ascii '\n' = 0x0A := rfl
  have carriageReturn : ascii '\r' = 0x0D := rfl
  simp only [isSpace, Bool.or_eq_true, beq_iff_eq, List.mem_cons, List.not_mem_nil, or_false, space,
    tab, lineFeed, carriageReturn]
  constructor
  · rintro (((same | same) | same) | same)
    all_goals simp [same]
  · rintro (same | same | same | same)
    all_goals simp [same]

instance : DecidablePred Json.Blank :=
  fun bytes => List.decidableBAll _ bytes

theorem Json.blank_cons_iff {byte : UInt8} {rest : List UInt8} :
    Blank (byte :: rest) ↔ JsonLexer.isSpace byte = true ∧ Blank rest := by
  rw [Blank, List.forall_mem_cons, ← JsonLexer.isSpace_iff]
  rfl

namespace JsonReader

/-- After a complete value the text is over, or there is more of it than white space. -/
theorem document_of_complete (value : Reading) (more : List UInt8) :
    Json.Blank more ∧ (feedAll ⟨.between, .complete value⟩ more).document = ⟨value, none⟩ ∨
      ¬Json.Blank more ∧
        (feedAll ⟨.between, .complete value⟩ more).document = ⟨value, some .malformed⟩ := by
  induction more with
  | nil => exact .inl ⟨Json.Blank.nil, rfl⟩
  | cons byte rest ih =>
      cases space : JsonLexer.isSpace byte with
      | true =>
          have unchanged : feed ⟨.between, .complete value⟩ byte = ⟨.between, .complete value⟩ := by
            rw [feed_eq, JsonLexer.step, JsonLexer.begin_of_space space]
            rfl
          rw [feedAll_cons, unchanged, Json.blank_cons_iff, space]
          simpa using ih
      | false =>
          right
          have seen : ¬Json.Blank (byte :: rest) := by simp [Json.blank_cons_iff, space]
          exact ⟨seen, ((overruns_feed space value).feedAll rest).document⟩

end JsonReader

end Colloquy
