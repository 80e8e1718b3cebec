import Mathlib.Data.List.Nodup
import Colloquy.Proofs.Json.Readings

/-!
# Canonical values

What is read of a text has the members of its objects sorted by key, each key once. A value of this
form is read as itself however it is written: whatever the order of its members in the text, the white
space between them and the escapes in its strings.
-/

namespace Colloquy

namespace Json

/-! ## Sorted members -/

/-- Members sorted by key, each key once. -/
def Sorted (members : List (String × Json)) : Prop :=
  members.Pairwise fun earlier later => earlier.1 < later.1

theorem Sorted.nodup_keys {members : List (String × Json)} (sorted : Sorted members) :
    (members.map Prod.fst).Nodup := by
  apply List.pairwise_map.mpr
  apply sorted.imp
  intro earlier later below same
  exact absurd (same ▸ below) (String.lt_irrefl _)

/-- Members of different keys are added in any order. -/
theorem insertMember_comm {first second : String} (apart : first ≠ second) (one two : Json)
    (members : List (String × Json)) :
    insertMember first one (insertMember second two members) =
      insertMember second two (insertMember first one members) := by
  induction members with
  | nil => grind [insertMember]
  | cons head rest ih =>
      obtain ⟨key, value⟩ := head
      grind [insertMember]

/-- An object does not depend on the order in which its members come, if no key comes twice. -/
theorem ofMembers_perm {left right : List (String × Json)} (order : left.Perm right)
    (distinct : (left.map Prod.fst).Nodup) : ofMembers left = ofMembers right := by
  apply congrArg Json.object
  apply order.foldl_eq'
  intro first firstMember second secondMember kept
  by_cases same : first.1 = second.1
  · have equal := List.inj_on_of_nodup_map distinct firstMember secondMember same
    rw [equal]
  · exact (insertMember_comm same first.2 second.2 kept).symm

theorem insertMember_of_greatest {key : String} {members : List (String × Json)}
    (greatest : ∀ member ∈ members, member.1 < key) (value : Json) :
    insertMember key value members = members ++ [(key, value)] := by
  induction members with
  | nil => rfl
  | cons head rest ih =>
      obtain ⟨other, held⟩ := head
      have below : other < key := greatest (other, held) List.mem_cons_self
      have others : ∀ member ∈ rest, member.1 < key := by
        intro member listed
        exact greatest member (List.mem_cons_of_mem _ listed)
      grind [insertMember]

theorem foldl_insertMember {kept members : List (String × Json)} (sorted : Sorted (kept ++ members)) :
    members.foldl (fun kept member => insertMember member.1 member.2 kept) kept = kept ++ members := by
  induction members generalizing kept with
  | nil => simp
  | cons head rest ih =>
      have greatest : ∀ member ∈ kept, member.1 < head.1 := by
        intro member listed
        exact (List.pairwise_append.mp sorted).2.2 member listed head List.mem_cons_self
      rw [List.foldl_cons, insertMember_of_greatest greatest]
      rw [List.append_cons kept head rest] at sorted ⊢
      exact ih sorted

theorem ofMembers_of_sorted {members : List (String × Json)} (sorted : Sorted members) :
    ofMembers members = .object members := by
  have whole : Sorted ([] ++ members) := sorted
  exact congrArg Json.object (foldl_insertMember whole)

/-! ## Canonical values -/

/-- Every object in a value has its members sorted by key, each key once. -/
inductive Canonical : Json → Prop where
  | null : Canonical .null
  | bool (value : Bool) : Canonical (.bool value)
  | number (number : JsonNumber) : Canonical (.number number)
  | string (text : String) : Canonical (.string text)
  | array {items : List Json} (each : ∀ item ∈ items, Canonical item) : Canonical (.array items)
  | object {members : List (String × Json)} (sorted : Sorted members)
      (each : ∀ member ∈ members, Canonical member.2) : Canonical (.object members)

end Json

open Json

mutual

theorem Reading.Shows.json_of_canonical {reading : Reading} {value : Json} :
    Reading.Shows reading value → Canonical value → reading.json = .ok value
  | .null, _ | .bool _, _ => rfl
  | .number stands, _ => by
      rw [Reading.json, stands]
      rfl
  | .string denotes, _ => by
      rw [Reading.json, denotes]
      rfl
  | .array shows, .array each => by
      rw [Reading.json, shows.json_of_canonical each]
      rfl
  | .object shows order, .object sorted each => by
      have read := shows.json_of_canonical fun member met => each member (order.mem_iff.mp met)
      have whole := (ofMembers_perm order.symm sorted.nodup_keys).symm.trans (ofMembers_of_sorted sorted)
      rw [Reading.json, read]
      exact congrArg Except.ok whole

theorem ReadingItems.Shows.json_of_canonical {items : ReadingItems} {values : List Json} :
    ReadingItems.Shows items values → (∀ value ∈ values, Canonical value) → items.json = .ok values
  | .close, _ => rfl
  | .item first others, each => by
      obtain ⟨canonical, following⟩ := List.forall_mem_cons.mp each
      rw [ReadingItems.json, first.json_of_canonical canonical, others.json_of_canonical following]
      rfl

theorem ReadingMembers.Shows.json_of_canonical {members : ReadingMembers}
    {values : List (String × Json)} :
    ReadingMembers.Shows members values → (∀ member ∈ values, Canonical member.2) →
      members.json = .ok values
  | .close, _ => rfl
  | .member denotes first others, each => by
      obtain ⟨canonical, following⟩ := List.forall_mem_cons.mp each
      rw [ReadingMembers.json, denotes, first.json_of_canonical canonical,
        others.json_of_canonical following]
      rfl

end

namespace Json

/-- However a canonical value is written, it is read as itself. -/
theorem SpelledText.ofBytes {value : Json} {bytes : List UInt8} (spelled : SpelledText value bytes)
    (canonical : Canonical value) : Json.ofBytes bytes = .ok value := by
  obtain ⟨reading, shows, read⟩ := spelled.reads
  rw [Json.ofBytes, read]
  simp only [shows.json_of_canonical canonical]

end Json

end Colloquy
