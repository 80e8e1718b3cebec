import Colloquy.Listing.FromValue
import Colloquy.Proofs.Except

/-!
# Fields in any order

A member of an object puts a value into a field. Values of different fields go in either order, and
no field takes two, so the comment that an object describes does not depend on the order of its
members.
-/

namespace Colloquy.Listing

/-- The value of a field. -/
inductive FieldValue where
  | id (id : CommentId)
  | author (author : Author)
  | body (body : String)
  | label (label : Option String)
  | createdAt (createdAt : Option String)
  | score (score : Int64)
  | byPostAuthor (flag : Bool)
  | replies (replies : List Entry)

namespace FieldValue

/-- The field that a value belongs to. -/
def field : FieldValue → Field
  | id _ => .id
  | author _ => .author
  | body _ => .body
  | label _ => .label
  | createdAt _ => .createdAt
  | score _ => .score
  | byPostAuthor _ => .byPostAuthor
  | replies _ => .replies

end FieldValue

namespace Fields

/-- Put a value into its field. -/
def put (fields : Fields) : FieldValue → Fields
  | .id id => { fields with id := some id }
  | .author author => { fields with author := some author }
  | .body body => { fields with body := some body }
  | .label label => { fields with label := some label }
  | .createdAt createdAt => { fields with createdAt := some createdAt }
  | .score score => { fields with score := some score }
  | .byPostAuthor flag => { fields with byPostAuthor := some flag }
  | .replies replies => { fields with replies := some replies }

/-- The value of a field, if there is one. -/
def get? (fields : Fields) : Field → Option FieldValue
  | .id => fields.id.map .id
  | .author => fields.author.map .author
  | .body => fields.body.map .body
  | .label => fields.label.map .label
  | .createdAt => fields.createdAt.map .createdAt
  | .score => fields.score.map .score
  | .byPostAuthor => fields.byPostAuthor.map .byPostAuthor
  | .replies => fields.replies.map .replies

theorem has_eq (fields : Fields) (field : Field) :
    fields.has field = (fields.get? field).isSome := by
  cases field with
  | _ => simp [has, get?]

theorem get?_put (fields : Fields) (value : FieldValue) (field : Field) :
    (fields.put value).get? field = if field = value.field then some value else fields.get? field := by
  cases value with
  | _ => cases field <;> rfl

theorem has_put (fields : Fields) (value : FieldValue) (field : Field) :
    (fields.put value).has field = (decide (field = value.field) || fields.has field) := by
  rw [has_eq, get?_put, has_eq]
  by_cases own : field = value.field
  · simp [own]
  · simp [own]

theorem put_comm (fields : Fields) {first second : FieldValue}
    (apart : first.field ≠ second.field) :
    (fields.put first).put second = (fields.put second).put first := by
  cases first with
  | _ =>
      cases second with
      | _ => simp [put, FieldValue.field] at apart ⊢

end Fields

/-- What a value says in a field, if it can stand there. -/
def fieldValue? (field : Field) (value : Json) : Option FieldValue :=
  match field with
  | .id => (identifierOfJson value).toOption.map .id
  | .author => (author value).toOption.map .author
  | .body => (textOfJson value).toOption.map .body
  | .label => (optionalTextOfJson value).toOption.map .label
  | .createdAt => (optionalTextOfJson value).toOption.map .createdAt
  | .score => (scoreOfJson value).toOption.map .score
  | .byPostAuthor => (flagOfJson value).toOption.map .byPostAuthor
  | .replies =>
      match value with
      | .array items => (entriesOfJson items).toOption.map .replies
      | _ => none

theorem field_of_fieldValue? {field : Field} {value : Json} {found : FieldValue}
    (states : fieldValue? field value = some found) : found.field = field := by
  cases field with
  | replies =>
      cases value with
      | array items =>
          obtain ⟨_, -, rfl⟩ := Option.map_eq_some_iff.mp states
          rfl
      | _ => contradiction
  | _ =>
      obtain ⟨_, -, rfl⟩ := Option.map_eq_some_iff.mp states
      rfl

@[simp]
theorem toOption_refuse {α : Type} (cause : Mismatch) : (refuse cause : Decoded α).toOption = none :=
  rfl

theorem toOption_fieldOfJson (field : Field) (fields : Fields) (value : Json) :
    (fieldOfJson field fields value).toOption = (fieldValue? field value).map fields.put := by
  cases value with
  | array items =>
      cases field with
      | replies =>
          cases decoded : entriesOfJson items with
          | error cause => simp [fieldOfJson, fieldValue?, decoded]
          | ok entries => simp [fieldOfJson, fieldValue?, decoded, Fields.put]
      | _ => simp [fieldOfJson, fieldValue?, Fields.takeJson, Function.comp_def, Fields.put]
  | _ =>
      cases field with
      | _ => simp [fieldOfJson, fieldValue?, Fields.takeJson, Function.comp_def, Fields.put]

/-! ## Members -/

/-- Take one member of an object. -/
def takeMember (fields : Fields) (member : String × Json) : Option Fields :=
  match Field.ofKey? member.1 with
  | none => some fields
  | some field =>
      if fields.has field then none else (fieldValue? field member.2).map fields.put

theorem toOption_fieldsOfMembers (fields : Fields) (members : List (String × Json)) :
    (fieldsOfMembers fields members).toOption = members.foldlM takeMember fields := by
  induction members generalizing fields with
  | nil => simp [fieldsOfMembers]
  | cons member rest ih =>
      obtain ⟨key, value⟩ := member
      rw [fieldsOfMembers, List.foldlM_cons]
      cases known : Field.ofKey? key with
      | none => simp [takeMember, known, ih]
      | some field =>
          cases met : fields.has field with
          | true => simp [takeMember, known, met]
          | false =>
              simp [takeMember, known, met, ih, toOption_fieldOfJson]

theorem takeMember_of_unknown {member : String × Json} (unknown : Field.ofKey? member.1 = none)
    (fields : Fields) : takeMember fields member = some fields := by
  rw [takeMember, unknown]

/-- A member is taken if its field has no value yet and can have this one. -/
theorem takeMember_of_known {member : String × Json} {field : Field}
    (known : Field.ofKey? member.1 = some field) (fields : Fields) :
    takeMember fields member =
      if fields.has field then none else (fieldValue? field member.2).map fields.put := by
  rw [takeMember, known]

/-- Two members for one field are never taken. -/
theorem takeMember_twice {first second : String × Json} {field : Field}
    (knownFirst : Field.ofKey? first.1 = some field)
    (knownSecond : Field.ofKey? second.1 = some field) (fields : Fields) :
    ((takeMember fields first).bind fun fields => takeMember fields second) = none := by
  rw [takeMember_of_known knownFirst]
  split
  · rfl
  · cases states : fieldValue? field first.2 with
    | none => rfl
    | some value =>
        have filled : (fields.put value).has field = true := by
          simp [Fields.has_put, field_of_fieldValue? states]
        rw [Option.map_some, Option.bind_some, takeMember_of_known knownSecond, if_pos filled]

/-- Two members may be taken in either order. -/
theorem takeMember_comm (fields : Fields) (first second : String × Json) :
    ((takeMember fields first).bind fun fields => takeMember fields second) =
      (takeMember fields second).bind fun fields => takeMember fields first := by
  cases knownFirst : Field.ofKey? first.1 with
  | none => simp [takeMember_of_unknown knownFirst]
  | some field =>
      cases knownSecond : Field.ofKey? second.1 with
      | none => simp [takeMember_of_unknown knownSecond]
      | some other =>
          by_cases same : field = other
          · subst same
            rw [takeMember_twice knownFirst knownSecond, takeMember_twice knownSecond knownFirst]
          · simp only [takeMember_of_known knownFirst, takeMember_of_known knownSecond]
            cases saysFirst : fieldValue? field first.2 with
            | none => cases fieldValue? other second.2 <;> simp
            | some value =>
                cases saysSecond : fieldValue? other second.2 with
                | none => simp
                | some more =>
                    obtain rfl := field_of_fieldValue? saysFirst
                    obtain rfl := field_of_fieldValue? saysSecond
                    have unfilledFirst : (fields.put more).has value.field =
                        fields.has value.field := by simp [Fields.has_put, same]
                    have unfilledSecond : (fields.put value).has more.field =
                        fields.has more.field := by simp [Fields.has_put, Ne.symm same]
                    cases metFirst : fields.has value.field <;>
                      cases metSecond : fields.has more.field <;>
                      simp [metFirst, metSecond, unfilledFirst, unfilledSecond,
                        Fields.put_comm fields same]

/-- A fold that may fail does not depend on the order of what is folded, if any two steps may be
made in either order. -/
theorem foldlM_perm {α β : Type} {step : β → α → Option β}
    (commutes : ∀ state first second, ((step state first).bind fun state => step state second) =
      (step state second).bind fun state => step state first)
    {left right : List α} (order : left.Perm right) (state : β) :
    left.foldlM step state = right.foldlM step state := by
  induction order generalizing state with
  | nil => rfl
  | cons head order ih => simp [List.foldlM_cons, ih]
  | swap first second rest =>
      have swapped := congrArg (fun found => found.bind fun state => rest.foldlM step state)
        (commutes state second first)
      simpa [List.foldlM_cons, Option.bind_assoc] using swapped
  | trans first second ihFirst ihSecond => exact (ihFirst state).trans (ihSecond state)

/-- The fields that members fill do not depend on the order of the members. -/
theorem toOption_fieldsOfMembers_perm {left right : List (String × Json)} (order : left.Perm right)
    (fields : Fields) :
    (fieldsOfMembers fields left).toOption = (fieldsOfMembers fields right).toOption := by
  rw [toOption_fieldsOfMembers, toOption_fieldsOfMembers, foldlM_perm takeMember_comm order]

end Colloquy.Listing
