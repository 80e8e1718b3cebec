import Colloquy.Http.Client
import Colloquy.Proofs.Json.Endings
import Colloquy.Proofs.Listing.Agreement

/-!
# Listings that are cut off

Whatever a listing says, what is decoded of it is whole: every string, number, array and object in it
is read to its end, those that mean nothing too. So a listing that is accepted is accepted nowhere
before its last bracket, and nothing but white space may come after it.
-/

namespace Colloquy.Listing

open JsonLexer (ascii)

/-! ## What is decoded is whole -/

@[simp]
theorem refuseReading_ne_ok {α : Type} (wanted : Wanted) (reading : Reading) (value : α) :
    (refuseReading wanted reading : Decoded α) ≠ .ok value := by
  intro accepted
  have refused := toOption_refuseReading (α := α) wanted reading
  rw [accepted] at refused
  contradiction

theorem readable_eq_ok {α : Type} {result : Except JsonFault α} {value : α}
    (accepted : readable result = .ok value) : result = .ok value := by
  cases result with
  | error fault => contradiction
  | ok found => exact congrArg Except.ok (Except.ok.inj accepted)

section Fields

variable {reading : Reading}

theorem skip_of_readText {text : String} (accepted : readText reading = .ok text) :
    reading.skip = .ok () := by
  cases reading with
  | string pieces => rfl
  | _ => simp [readText] at accepted

theorem skip_of_readOptionalText {text : Option String}
    (accepted : readOptionalText reading = .ok text) : reading.skip = .ok () := by
  cases reading with
  | null => rfl
  | _ =>
      simp only [readOptionalText] at accepted
      obtain ⟨found, read, -⟩ := map_eq_ok_iff.mp accepted
      exact skip_of_readText read

theorem skip_of_readIdentifier {id : CommentId} (accepted : readIdentifier reading = .ok id) :
    reading.skip = .ok () := by
  cases reading with
  | number numeral => rfl
  | _ => simp [readIdentifier] at accepted

theorem skip_of_readScore {score : Int64} (accepted : readScore reading = .ok score) :
    reading.skip = .ok () := by
  cases reading with
  | number numeral => rfl
  | _ => simp [readScore] at accepted

theorem skip_of_readFlag {flag : Bool} (accepted : readFlag reading = .ok flag) :
    reading.skip = .ok () := by
  cases reading with
  | bool value => rfl
  | _ => simp [readFlag] at accepted

/-- An author is looked at only when the whole value has been read. -/
theorem skip_of_readAuthor {author : Author} (accepted : readAuthor reading = .ok author) :
    reading.skip = .ok () := by
  cases reading with
  | string pieces => rfl
  | object members =>
      obtain ⟨found, read, -⟩ := bind_eq_ok_iff.mp accepted
      exact ReadingMembers.skip_of_json (readable_eq_ok read)
  | _ =>
      obtain ⟨found, read, refused⟩ := bind_eq_ok_iff.mp accepted
      contradiction

theorem skip_of_takeReading {fields taken : Fields} {field : Field}
    (accepted : fields.takeReading field reading = .ok taken) : reading.skip = .ok () := by
  cases field with
  | replies => simp [Fields.takeReading] at accepted
  | id =>
      obtain ⟨found, read, -⟩ := map_eq_ok_iff.mp accepted
      exact skip_of_readIdentifier read
  | author =>
      obtain ⟨found, read, -⟩ := map_eq_ok_iff.mp accepted
      exact skip_of_readAuthor read
  | body =>
      obtain ⟨found, read, -⟩ := map_eq_ok_iff.mp accepted
      exact skip_of_readText read
  | label | createdAt =>
      obtain ⟨found, read, -⟩ := map_eq_ok_iff.mp accepted
      exact skip_of_readOptionalText read
  | score =>
      obtain ⟨found, read, -⟩ := map_eq_ok_iff.mp accepted
      exact skip_of_readScore read
  | byPostAuthor =>
      obtain ⟨found, read, -⟩ := map_eq_ok_iff.mp accepted
      exact skip_of_readFlag read

end Fields

mutual

theorem skip_of_readEntry : {reading : Reading} → {entry : Entry} →
    readEntry reading = .ok entry → reading.skip = .ok ()
  | .object members, _, accepted => by
      obtain ⟨fields, read, -⟩ := bind_eq_ok_iff.mp accepted
      exact skip_of_readMembers read
  | .array items, _, accepted => by
      obtain ⟨fields, read, -⟩ := bind_eq_ok_iff.mp accepted
      exact skip_of_readPositions read
  | .null, _, accepted | .bool _, _, accepted | .number _, _, accepted | .string _, _, accepted
  | .torn _ _, _, accepted => by simp [readEntry] at accepted

theorem skip_of_readField {field : Field} {fields taken : Fields} : {reading : Reading} →
    readField field fields reading = .ok taken → reading.skip = .ok ()
  | .array items, accepted => by
      rw [readField] at accepted
      split at accepted
      · obtain ⟨replies, read, -⟩ := bind_eq_ok_iff.mp accepted
        exact skip_of_readEntries read
      · exact skip_of_takeReading accepted
  | .object _, accepted | .null, accepted | .bool _, accepted | .number _, accepted
  | .string _, accepted | .torn _ _, accepted => skip_of_takeReading accepted

theorem skip_of_readEntries : {items : ReadingItems} → {entries : List Entry} →
    readEntries items = .ok entries → items.skip = .ok ()
  | .close, _, _ => rfl
  | .item value rest, _, accepted => by
      obtain ⟨entry, first, following⟩ := bind_eq_ok_iff.mp accepted
      obtain ⟨entries, others, -⟩ := bind_eq_ok_iff.mp following
      exact ReadingItems.skip_item_iff.mpr ⟨skip_of_readEntry first, skip_of_readEntries others⟩

theorem skip_of_readMembers {fields taken : Fields} : {members : ReadingMembers} →
    readMembers fields members = .ok taken → members.skip = .ok ()
  | .close, _ => rfl
  | .member key value rest, accepted => by
      obtain ⟨name, -, named⟩ := bind_eq_ok_iff.mp accepted
      apply ReadingMembers.skip_member_iff.mpr
      split at named
      · obtain ⟨passed, skipped, others⟩ := bind_eq_ok_iff.mp named
        exact ⟨readable_eq_ok skipped, skip_of_readMembers others⟩
      · split at named
        · contradiction
        · obtain ⟨next, read, others⟩ := bind_eq_ok_iff.mp named
          exact ⟨skip_of_readField read, skip_of_readMembers others⟩

theorem skip_of_readPositions {wanted : List Field} {fields taken : Fields} {count : Nat} :
    {items : ReadingItems} → readPositions wanted fields count items = .ok taken →
      items.skip = .ok ()
  | .close, _ => rfl
  | .stop _, accepted => by
      cases wanted with
      | nil => contradiction
      | cons field wanted => contradiction
  | .item value rest, accepted => by
      cases wanted with
      | nil => contradiction
      | cons field wanted =>
          obtain ⟨next, read, others⟩ := bind_eq_ok_iff.mp accepted
          exact ReadingItems.skip_item_iff.mpr
            ⟨skip_of_readField read, skip_of_readPositions others⟩

end

/-! ## Where a listing ends -/

theorem ofBytes_eq_ok_iff {bytes : List UInt8} {entries : List Entry} :
    ofBytes bytes = .ok entries ↔
      ∃ items, Document.ofBytes bytes = ⟨.array items, none⟩ ∧ readEntries items = .ok entries := by
  rw [ofBytes]
  generalize Document.ofBytes bytes = document
  obtain ⟨value, trailing⟩ := document
  rw [readDocument]
  constructor
  · intro accepted
    cases value with
    | array items =>
        obtain ⟨found, read, ended⟩ := bind_eq_ok_iff.mp accepted
        cases trailing with
        | some fault => contradiction
        | none =>
            cases ended
            exact ⟨items, rfl, read⟩
    | _ =>
        obtain ⟨found, refused, -⟩ := bind_eq_ok_iff.mp accepted
        simp at refused
  · intro accepted
    obtain ⟨items, shows, read⟩ := accepted
    cases shows
    exact bind_eq_ok_iff.mpr ⟨entries, read, rfl⟩

/-- A listing is accepted where the reader has its last bracket behind it and stands between two
tokens. -/
theorem feedAll_of_accepted {bytes : List UInt8} {entries : List Entry}
    (accepted : ofBytes bytes = .ok entries) :
    ∃ items, readEntries items = .ok entries ∧
      JsonReader.start.feedAll bytes = ⟨.between, .complete (.array items)⟩ := by
  obtain ⟨items, shows, read⟩ := ofBytes_eq_ok_iff.mp accepted
  have sound := JsonReader.sound_start.feedAll bytes
  exact ⟨items, read, sound.eq_of_document shows (skip_of_readEntries read)⟩

theorem ofBytes_of_feedAll {bytes : List UInt8} {entries : List Entry} {items : ReadingItems}
    (read : readEntries items = .ok entries)
    (reached : JsonReader.start.feedAll bytes = ⟨.between, .complete (.array items)⟩) :
    ofBytes bytes = .ok entries := by
  apply ofBytes_eq_ok_iff.mpr
  refine ⟨items, ?_, read⟩
  rw [Document.ofBytes, reached]
  rfl

theorem document_append {bytes : List UInt8} {items : ReadingItems}
    (reached : JsonReader.start.feedAll bytes = ⟨.between, .complete (.array items)⟩)
    (more : List UInt8) :
    Document.ofBytes (bytes ++ more) =
      (JsonReader.feedAll ⟨.between, .complete (.array items)⟩ more).document := by
  rw [Document.ofBytes, JsonReader.feedAll_append, reached]

/-- White space may follow a listing. -/
theorem ofBytes_append_of_blank {bytes more : List UInt8} {entries : List Entry}
    (accepted : ofBytes bytes = .ok entries) (blank : Json.Blank more) :
    ofBytes (bytes ++ more) = .ok entries := by
  obtain ⟨items, read, reached⟩ := feedAll_of_accepted accepted
  apply ofBytes_eq_ok_iff.mpr
  refine ⟨items, ?_, read⟩
  rw [document_append reached]
  cases JsonReader.document_of_complete (.array items) more with
  | inl ended => exact ended.2
  | inr wrong => exact absurd blank wrong.1

/-- Nothing else may follow it. -/
theorem blank_of_ofBytes_append {bytes more : List UInt8} {entries found : List Entry}
    (accepted : ofBytes bytes = .ok entries) (again : ofBytes (bytes ++ more) = .ok found) :
    Json.Blank more := by
  obtain ⟨items, -, reached⟩ := feedAll_of_accepted accepted
  obtain ⟨others, shows, -⟩ := ofBytes_eq_ok_iff.mp again
  rw [document_append reached] at shows
  cases JsonReader.document_of_complete (.array items) more with
  | inl ended => exact ended.1
  | inr wrong => exact absurd (wrong.2.symm.trans shows) nofun

theorem eq_of_feedAll_blank {reader : JsonReader} (sound : reader.Sound) {items : ReadingItems}
    {back : List UInt8} (blank : Json.Blank back)
    (reached : reader.feedAll back = ⟨.between, .complete (.array items)⟩) :
    reader = ⟨.between, .complete (.array items)⟩ := by
  induction back generalizing reader with
  | nil => exact reached
  | cons byte rest ih =>
      obtain ⟨space, blank⟩ := Json.blank_cons_iff.mp blank
      exact sound.eq_of_feed_space space (ih (sound.feed byte) blank reached)

/-- White space at the end of a listing can be left out. -/
theorem ofBytes_of_append_blank {front back : List UInt8} {entries : List Entry}
    (accepted : ofBytes (front ++ back) = .ok entries) (blank : Json.Blank back) :
    ofBytes front = .ok entries := by
  obtain ⟨items, read, reached⟩ := feedAll_of_accepted accepted
  rw [JsonReader.feedAll_append] at reached
  have sound := JsonReader.sound_start.feedAll front
  exact ofBytes_of_feedAll read (eq_of_feedAll_blank sound blank reached)

/-! ## Listings and their parts -/

/-- Text that is accepted as a listing. -/
def IsListing (bytes : List UInt8) : Prop :=
  ∃ entries, ofBytes bytes = .ok entries

theorem isOk_iff_isListing {bytes : List UInt8} :
    (ofBytes bytes).isOk = true ↔ IsListing bytes := by
  rw [IsListing]
  cases ofBytes bytes with
  | error cause => simp [Except.isOk, Except.toBool]
  | ok entries => simp [Except.isOk, Except.toBool]

instance : DecidablePred IsListing :=
  fun _ => decidable_of_iff _ isOk_iff_isListing

theorem IsListing.append_iff {bytes : List UInt8} (whole : IsListing bytes) (more : List UInt8) :
    IsListing (bytes ++ more) ↔ Json.Blank more := by
  obtain ⟨entries, accepted⟩ := whole
  constructor
  · intro extended
    obtain ⟨found, again⟩ := extended
    exact blank_of_ofBytes_append accepted again
  · intro blank
    exact ⟨entries, ofBytes_append_of_blank accepted blank⟩

theorem IsListing.front_iff {front back : List UInt8} (whole : IsListing (front ++ back)) :
    IsListing front ↔ Json.Blank back := by
  constructor
  · intro early
    exact (early.append_iff back).mp whole
  · intro blank
    obtain ⟨entries, accepted⟩ := whole
    exact ⟨entries, ofBytes_of_append_blank accepted blank⟩

theorem not_isListing_nil : ¬IsListing [] := by decide

/-- A response that brings comments brings those that its body lists. One of a status that has no
body counts as an empty text, which is no listing. -/
theorem ofBytes_of_interpretListing {now : Instant} {response : HttpResponse}
    {threads : List Thread}
    (shown : HttpClient.interpretListing now response = .ok threads) :
    ∃ entries, ofBytes response.body = .ok entries ∧
      threads = entries.map fun entry => entry.toThread now := by
  rw [HttpClient.interpretListing] at shown
  split at shown
  · contradiction
  · split at shown
    · contradiction
    · rename_i body complete
      split at shown
      · rename_i entries accepted
        refine ⟨entries, ?_, (Except.ok.inj shown).symm⟩
        cases bodied : response.hasBody with
        | false =>
            rw [HttpResponse.complete?, bodied] at complete
            cases complete
            exact absurd ⟨entries, accepted⟩ not_isListing_nil
        | true =>
            cases broken : response.broken with
            | true => simp [HttpResponse.complete?, bodied, broken] at complete
            | false =>
                simp [HttpResponse.complete?, bodied, broken] at complete
                exact complete ▸ accepted
      · contradiction

/-- A listing that is cut off is accepted only where nothing but white space is missing, and one that
goes on only where nothing but white space follows. So a response whose body is cut off fails, and
one that does not shows all that the whole listing says. -/
theorem IsListing.cut_or_extended {bytes : List UInt8} (whole : IsListing bytes) :
    (∀ front back, front ++ back = bytes → (IsListing front ↔ Json.Blank back)) ∧
    (∀ more, IsListing (bytes ++ more) ↔ Json.Blank more) ∧
    ∀ front back, front ++ back = bytes → ∀ now (response : HttpResponse), response.body = front →
      (¬Json.Blank back → ∃ cause, HttpClient.interpretListing now response = .error cause) ∧
      ∀ threads, HttpClient.interpretListing now response = .ok threads →
        ∃ entries, ofBytes bytes = .ok entries ∧
          threads = entries.map fun entry => entry.toThread now := by
  have cut : ∀ front back, front ++ back = bytes → (IsListing front ↔ Json.Blank back) := by
    intro front back parts
    subst parts
    exact whole.front_iff
  refine ⟨cut, whole.append_iff, ?_⟩
  intro front back parts now response body
  constructor
  · intro visible
    cases outcome : HttpClient.interpretListing now response with
    | error cause => exact ⟨cause, rfl⟩
    | ok threads =>
        obtain ⟨entries, accepted, -⟩ := ofBytes_of_interpretListing outcome
        have early : IsListing front := ⟨entries, body ▸ accepted⟩
        exact absurd ((cut front back parts).mp early) visible
  · intro threads shown
    obtain ⟨entries, accepted, listed⟩ := ofBytes_of_interpretListing shown
    rw [body] at accepted
    have blank := (cut front back parts).mp ⟨entries, accepted⟩
    exact ⟨entries, parts ▸ ofBytes_append_of_blank accepted blank, listed⟩

/-- A listing of one comment and a line feed. Without the line feed it is a listing still; without the
last bracket it is none, and a second bracket is too many. -/
theorem isListing_threeFields :
    IsListing ("[[7,\"ada\",\"Hm\"]]\n".toList.map ascii) ∧
      IsListing ("[[7,\"ada\",\"Hm\"]]".toList.map ascii) ∧
      ¬IsListing ("[[7,\"ada\",\"Hm\"]".toList.map ascii) ∧
      ¬IsListing ("[[7,\"ada\",\"Hm\"]]\n]".toList.map ascii) := by
  have whole : IsListing ("[[7,\"ada\",\"Hm\"]]\n".toList.map ascii) := by decide +kernel
  obtain ⟨cut, extended, -⟩ := whole.cut_or_extended
  refine ⟨whole, ?_, ?_, ?_⟩
  · apply (cut _ [ascii '\n'] (by decide +kernel)).mpr
    decide
  · intro early
    have blank := (cut _ ("]\n".toList.map ascii) (by decide +kernel)).mp early
    exact absurd blank (by decide)
  · intro late
    have parts : "[[7,\"ada\",\"Hm\"]]\n]".toList = "[[7,\"ada\",\"Hm\"]]\n".toList ++ [']'] := rfl
    rw [parts, List.map_append] at late
    exact absurd ((extended _).mp late) (by decide)

end Colloquy.Listing
