import CloudInventory.Envelope
import CloudInventory.Resource.Tag

/-!
# Forms of a body

What a body is unwrapped to depends on its records alone, whatever form carries
them. So a record, the object that wraps it and the array that lists it are the same
to whoever unwraps them, and so are all objects around the same records.

Results:
1. `unwrapSingle_eq` and `unwrapList_eq`: both accessors as functions of the records.
2. `Envelope.detect_of_wrapped`: the records under `objects` win over every other
   member.
3. `Envelope.detect_eq_bare`: without records under `objects`, an object with a
   member of its own is a record.
4. `Envelope.unwrap_of_form`: the same records give the same results in every form.
-/

namespace CloudInventory

namespace Envelope

/-! ## Detection -/

/-- Records under `objects` win over every other member. -/
theorem detect_of_wrapped {body first : Json} {rest : List Json}
    (wrapped : body.member? objectsKey = some (.array (first :: rest))) :
    detect body = .objects first rest := by
  cases body with
  | object members =>
    have found : members.lookup objectsKey = some (.array (first :: rest)) := wrapped
    simp only [detect, found]
  | _ => exact nomatch wrapped

/-- Without records under `objects`, the other members decide. -/
theorem detect_of_not_wrapped {members : List (String × Json)}
    (unwrapped : ∀ records, members.lookup objectsKey = some (.array records) → records = []) :
    detect (.object members) = detectRecord members := by
  rw [detect]
  split
  next first rest found => exact absurd (unwrapped _ found) (List.cons_ne_nil first rest)
  next => rfl

theorem hasRecordMember_iff {members : List (String × Json)} :
    hasRecordMember members = true ↔
      ∃ member ∈ members, member.1 ≠ objectsKey ∧ member.1 ≠ metaKey := by
  simp only [hasRecordMember, List.any_eq_true, Bool.and_eq_true, bne_iff_ne]

/-- An object with a member of its own and without records under `objects` is a
record. -/
theorem detect_eq_bare {members : List (String × Json)}
    (own : ∃ member ∈ members, member.1 ≠ objectsKey ∧ member.1 ≠ metaKey)
    (unwrapped : ∀ records, members.lookup objectsKey = some (.array records) → records = []) :
    detect (.object members) = .bare (.object members) := by
  rw [detect_of_not_wrapped unwrapped, detectRecord, if_pos (hasRecordMember_iff.2 own)]

/-- A form without records is the empty one. -/
theorem eq_empty_iff {form : Envelope} : form = .empty ↔ form.records = [] := by
  cases form <;> simp [records]

end Envelope

/-! ## Unwrapping -/

section

variable (α : Type) [Resource α]

/-- The single resource of a body is that of its first record. -/
theorem unwrapSingle_eq (body : Json) :
    unwrapSingle α (some body) =
      (Envelope.detect body).records.head?.mapM Resource.decode := by
  rw [unwrapSingle, Option.bind_some, Envelope.first?_eq_head?]

/-- The resources of a body are those of its records. -/
theorem unwrapList_eq (body : Json) :
    unwrapList α (some body) = (Envelope.detect body).records.mapM Resource.decode := rfl

/-- Bodies with the same records are unwrapped alike. -/
theorem unwrap_eq_of_records_eq {a b : Json}
    (same : (Envelope.detect a).records = (Envelope.detect b).records) :
    unwrapSingle α (some a) = unwrapSingle α (some b) ∧
      unwrapList α (some a) = unwrapList α (some b) := by
  rw [unwrapSingle_eq, unwrapSingle_eq, unwrapList_eq, unwrapList_eq, same]
  exact ⟨rfl, rfl⟩

/-- A body without records holds nothing. -/
theorem unwrap_of_records_nil {body : Json} (noRecords : (Envelope.detect body).records = []) :
    unwrapSingle α (some body) = .ok none ∧ unwrapList α (some body) = .ok [] := by
  rw [unwrapSingle_eq, unwrapList_eq, noRecords]
  exact ⟨rfl, rfl⟩

end

/-- The form of a body does not matter to what it is unwrapped to: a record and the
object around it, an array and every object around its items. An object is a record
if it has a member of its own and wraps none, and a body is empty exactly if it has
no records. -/
theorem Envelope.unwrap_of_form (α : Type) [Resource α] :
    (∀ record body : Json, detect record = .bare record →
      body.member? objectsKey = some (.array [record]) →
      unwrapSingle α (some body) = unwrapSingle α (some record) ∧
        unwrapList α (some body) = unwrapList α (some record)) ∧
    (∀ (records : List Json) (body : Json), records ≠ [] →
      body.member? objectsKey = some (.array records) →
      unwrapSingle α (some body) = unwrapSingle α (some (.array records)) ∧
        unwrapList α (some body) = unwrapList α (some (.array records))) ∧
    (∀ members : List (String × Json),
      (∃ member ∈ members, member.1 ≠ objectsKey ∧ member.1 ≠ metaKey) →
      (∀ records, members.lookup objectsKey = some (.array records) → records = []) →
      detect (.object members) = .bare (.object members)) ∧
    (∀ body : Json, (detect body = .empty ↔ (detect body).records = []) ∧
      (detect body = .empty →
        unwrapSingle α (some body) = .ok none ∧ unwrapList α (some body) = .ok [])) := by
  refine ⟨?_, ?_, fun _ => detect_eq_bare, fun body => ⟨eq_empty_iff, ?_⟩⟩
  · intro record body bare wrapped
    apply unwrap_eq_of_records_eq
    rw [detect_of_wrapped wrapped, bare]
    rfl
  · intro records body nonempty wrapped
    obtain ⟨first, rest, rfl⟩ := List.exists_cons_of_ne_nil nonempty
    apply unwrap_eq_of_records_eq
    rw [detect_of_wrapped wrapped]
    rfl
  · intro empty
    exact unwrap_of_records_nil α (eq_empty_iff.1 empty)

/-! ## A tag in every form -/

namespace EnvelopeExamples

/-- A tag that has nothing but metadata. -/
def tag : Json :=
  .object [("meta", .object [("team", .string "ops")])]

/-- A tag beside an `objects` member that is no array of records. -/
def beside : Json :=
  .object [("name", .string "ops"), ("objects", .null)]

/-- An object around both tags, with members of its own and pagination. -/
def listing : Json :=
  .object [("meta", .object [("limit", .null)]), ("objects", .array [tag, beside]),
    ("uuid", .string "outer")]

/-- An object around the first tag, with members of its own. -/
def single : Json :=
  .object [("name", .string "outer"), ("objects", .array [tag])]

/-- Pagination without records. -/
def page : Json :=
  .object [("meta", .object [("limit", .null)]), ("objects", .array [])]

end EnvelopeExamples

open EnvelopeExamples in
/-- The two tags, alone, wrapped, listed and missing. -/
theorem Envelope.unwrap_of_form_tags :
    unwrapSingle Tag (some single) = unwrapSingle Tag (some tag) ∧
      unwrapList Tag (some listing) = unwrapList Tag (some (.array [tag, beside])) ∧
      detect beside = .bare beside ∧
      unwrapList Tag (some page) = .ok [] := by
  obtain ⟨alone, listed, bare, empty⟩ := Envelope.unwrap_of_form Tag
  refine ⟨?_, ?_, ?_, ?_⟩
  · exact (alone tag single (by decide) (by decide)).1
  · exact (listed [tag, beside] listing (by decide) (by decide)).2
  · exact bare [("name", .string "ops"), ("objects", .null)]
      ⟨("name", .string "ops"), List.mem_cons_self, by decide⟩ nofun
  · exact ((empty page).2 (by decide)).2

end CloudInventory
