import Colloquy.Proofs.Json.Canonical
import Colloquy.Proofs.Json.Writing
import Colloquy.Reply.Backend

/-!
# What a posted reply says

The text in which a reply is posted is one JSON object, from which the comment that is answered and
the content of the reply can be read again.
-/

namespace Colloquy.PostRequest

open JsonLexer (ascii)
open Json (Spelled SpelledMembers SpelledString SpelledText)
open Text (utf8)

/-- The members of a posted reply, sorted by key. -/
def members (request : PostRequest) : List (String × Json) :=
  [("content", .string request.content), ("parentId", .number (.natural request.parent))]

theorem canonical_members (request : PostRequest) :
    Json.Canonical (.object request.members) := by
  have below : "content" < "parentId" := by decide
  apply Json.Canonical.object
  · exact List.pairwise_pair.mpr below
  · intro member listed
    simp only [members, List.mem_cons, List.not_mem_nil, or_false] at listed
    cases listed with
    | inl same => exact same ▸ .string request.content
    | inr same => exact same ▸ .number _

theorem members_inj {left right : PostRequest} :
    left.members = right.members ↔ left = right := by
  constructor
  · intro same
    have parts : left.content = right.content ∧ left.parent = right.parent := by
      simpa [members] using same
    cases left with
    | mk parent content =>
        obtain ⟨rfl, rfl⟩ := parts
        rfl
  · intro same
    exact congrArg members same

theorem spelled_body (request : PostRequest) :
    Spelled (.object request.members) (utf8 request.body) := by
  have parentKey : SpelledString "parentId" _ := Json.spelledString_of_plain (by decide)
  have contentKey : SpelledString "content" _ := Json.spelledString_of_plain (by decide)
  have parent := Json.Spelled.number (Json.spelledNumber_natural request.parent)
  have content := Json.Spelled.string (Json.spelledString_quoteText request.content)
  have written := SpelledMembers.more .nil parentKey .nil .nil parent .nil
    (.last .nil contentKey .nil .nil content .nil)
  have spelled := Spelled.object written (List.Perm.swap _ _ [])
  have opening : utf8 "\x7b\"parentId\":" = [0x7b, ascii '"'] ++
      "parentId".toList.flatMap String.utf8EncodeChar ++ [ascii '"', ascii ':'] := by decide +kernel
  have between : utf8 ",\"content\":" = [ascii ',', ascii '"'] ++
      "content".toList.flatMap String.utf8EncodeChar ++ [ascii '"', ascii ':'] := by decide +kernel
  have closing : utf8 "\x7d" = [0x7d] := by decide +kernel
  unfold body
  simp only [Text.utf8_append, opening, between, closing]
  simpa [members] using spelled

theorem ofBytes_body (request : PostRequest) :
    Json.ofBytes (utf8 request.body) = .ok (.object request.members) := by
  have spelled := SpelledText.text .nil request.spelled_body .nil
  rw [List.append_nil, List.nil_append] at spelled
  exact spelled.ofBytes request.canonical_members

/-- The text of a posted reply is a single JSON object, without white space around it, that is read as
its two members and no others: the comment that is answered and the content, whatever the content
holds. So two replies are posted in the same text only if they are the same. -/
theorem body_lossless (request : PostRequest) :
    Spelled (.object request.members) (utf8 request.body) ∧
      Json.ofBytes (utf8 request.body) = .ok (.object request.members) ∧
      ∀ other : PostRequest, other.body = request.body ↔ other = request := by
  refine ⟨request.spelled_body, request.ofBytes_body, ?_⟩
  intro other
  constructor
  · intro same
    have read := other.ofBytes_body
    rw [same, request.ofBytes_body] at read
    exact members_inj.mp (Json.object.inj (Except.ok.inj read)).symm
  · intro same
    exact congrArg body same

/-- A quote, a line feed, a character beyond 65536 and a control character without a short escape. -/
example : body ⟨7, "\"\n🦀\x01"⟩ =
    "\x7b\"parentId\":7,\"content\":\"\\\"\\n🦀\\u0001\"\x7d" := by
  decide +kernel

end Colloquy.PostRequest
