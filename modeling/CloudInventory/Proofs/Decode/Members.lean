import CloudInventory.Request.Basic
import CloudInventory.Proofs.Decode.Token
import CloudInventory.Proofs.Json.Fields
import CloudInventory.Proofs.Scalar.Written

/-!
# Reading members back

What a decoder finds in a field whose value was written as a member. There is one
lemma for each pair of a writer (`Member`) and a reader (`Json.textField` and so on).
An absent field is the case of a member that is not written.

Results:
1. `Json.tokenField_of_token`: a token comes back unless it is not recognized.
2. `Json.magnitudeField_of_magnitude`: magnitudes come back whether they fit a word
   or not.
3. `Json.metaField_of_metadata`: metadata comes back.
4. `Json.recordsField_of_list`: a list comes back as its items do, in order.
-/

namespace CloudInventory

/-! ## Metadata -/

namespace Meta

/-- Metadata written as an object of strings is read back. -/
theorem ofMembers_toJson (m : Meta) : ofMembers m.toJson.members = m := by
  obtain ⟨members, keySorted⟩ := m
  simp only [ofMembers, toJson, Json.members, Dictionary.ofList, List.filterMap_map,
    Dictionary.mk.injEq]
  exact (congrArg sortMembers List.filterMap_some).trans (sortMembers_eq_self keySorted)

theorem ofMembers_nil_of_isEmpty {m : Meta} (none : m.isEmpty = true) : ofMembers [] = m := by
  obtain ⟨members, keySorted⟩ := m
  have noMembers : members = [] := List.isEmpty_iff.1 none
  subst noMembers
  rfl

end Meta

/-- A value of a vocabulary is written as its token, if it has one. -/
theorem Member.token_eq_text {α : Type} [Vocabulary α] [DecidableEq α] (value : Option α) :
    token value = text (value.bind Token.known?) := by
  cases value <;> rfl

namespace Json

variable {record : Json} {key : String}

/-! ## Plain fields -/

theorem textField_of_text {value : Option String}
    (found : record.member? key = Member.text value) : record.textField key = value := by
  rw [textField, found]
  cases value <;> rfl

theorem flagField_of_flag {value : Option Bool}
    (found : record.member? key = Member.flag value) : record.flagField key = value := by
  rw [flagField, found]
  cases value <;> rfl

theorem scalarField_of_text {value : Option String}
    (found : record.member? key = Member.text value) :
    record.scalarField key = value.map .text := by
  rw [scalarField, found]
  cases value <;> rfl

theorem decimalField_of_text {value : Option String}
    (found : record.member? key = Member.text value) : record.decimalField key = value := by
  rw [decimalField, scalarField_of_text found]
  cases value <;> rfl

theorem textsField_of_texts {values : List String}
    (found : record.member? key = Member.texts values) : record.textsField key = values := by
  rw [textsField, found]
  cases values with
  | nil => rfl
  | cons first rest =>
    show ((first :: rest).map Json.string).filterMap text? = first :: rest
    rw [List.filterMap_map]
    exact List.filterMap_some

theorem metaField_of_metadata {value : Meta}
    (found : record.member? key = Member.metadata value) : record.metaField key = value := by
  rw [metaField, found, Member.metadata]
  cases empty : value.isEmpty with
  | true => exact Meta.ofMembers_nil_of_isEmpty empty
  | false => exact Meta.ofMembers_toJson value

/-- A token comes back unless it is not recognized. -/
theorem tokenField_of_token {α : Type} [Vocabulary α] [DecidableEq α] [LawfulVocabulary α]
    {value : Option α} (found : record.member? key = Member.token value) :
    record.tokenField key = value.filter Token.isRecognized := by
  rw [Member.token_eq_text] at found
  rw [tokenField, textField_of_text found, Token.map_ofText_known?]

theorem tokenField_of_absent {α : Type} [Vocabulary α] (absent : record.member? key = none) :
    record.tokenField (α := α) key = none := by
  rw [tokenField, textField, absent]
  rfl

/-! ## Fields that may be faulty -/

theorem magnitudeField_of_magnitude {value : Option Magnitude}
    (found : record.member? key = Member.magnitude value) :
    record.magnitudeField key = .ok value := by
  rw [magnitudeField, scalarField, found, Member.magnitude]
  cases value with
  | none => rfl
  | some m =>
    obtain ⟨s, sent, read⟩ := m.ofScalar_toRequest
    rw [Option.map_some, sent, Option.bind_some, Scalar.ofJson?_toJson, Option.mapM_some, read]
    rfl

theorem instantField_of_absent (absent : record.member? key = none) :
    record.instantField key = .ok none := by
  rw [instantField, textField, absent]
  rfl

/-- An integer comes back if reading its number gives it back. -/
theorem boundedField_of_number {α : Type} [FixedWidth α] {toNumber : α → Number}
    {value : Option α} (found : record.member? key = Member.number toNumber value)
    (read : ∀ x, Scalar.toBounded α key (.number (toNumber x)) = .ok x) :
    record.boundedField α key = .ok value := by
  rw [boundedField, scalarField, found, Member.number]
  cases value with
  | none => rfl
  | some x =>
    have number : Scalar.ofJson? (.number (toNumber x)) = some (.number (toNumber x)) := rfl
    rw [Option.map_some, Option.bind_some, number, Option.mapM_some, read]
    rfl

theorem boundedField_of_absent {α : Type} [FixedWidth α] (absent : record.member? key = none) :
    record.boundedField α key = .ok none := by
  rw [boundedField, scalarField, absent]
  rfl

/-! ## Records inside -/

section

variable {α β : Type} {decode : Json → Except DecodeError β} {write : α → Json} {value : α → β}

theorem recordField_of_map {written : Option α} (found : record.member? key = written.map write)
    (read : ∀ x, decode (write x) = .ok (value x)) :
    record.recordField decode key = .ok (written.map value) := by
  rw [recordField, found]
  cases written with
  | none => rfl
  | some x =>
    rw [Option.map_some, Option.mapM_some, read]
    rfl

theorem recordField_of_absent (absent : record.member? key = none) :
    record.recordField decode key = .ok none := by
  rw [recordField, absent]
  rfl

theorem mapM_map_ok (read : ∀ x, decode (write x) = .ok (value x)) (written : List α) :
    (written.map write).mapM decode = .ok (written.map value) := by
  induction written with
  | nil => rfl
  | cons x xs ih =>
    rw [List.map_cons, List.mapM_cons, read, ih]
    rfl

/-- A list comes back as its items do, in order. -/
theorem recordsField_of_list {written : List α}
    (found : record.member? key = Member.list write written)
    (read : ∀ x, decode (write x) = .ok (value x)) :
    record.recordsField decode key = .ok (written.map value) := by
  rw [recordsField, found]
  cases written with
  | nil => rfl
  | cons x xs => exact mapM_map_ok read (x :: xs)

theorem recordsField_of_absent (absent : record.member? key = none) :
    record.recordsField decode key = .ok [] := by
  rw [recordsField, absent]
  rfl

end

/-- A record inside a record is decoded as a field of it. -/
theorem mapM_child? {α : Type} (decode : Json → Except DecodeError α) (record : Json)
    (key : String) :
    (record.child? key).mapM (fun child => decode child.1) = record.recordField decode key := by
  rw [recordField, ← child?_eq]
  cases record.child? key <;> rfl

/-- The records of a list inside a record are the items of the list. -/
theorem map_val_children (record : Json) (key : String) :
    (record.children key).map Subtype.val = ((record.member? key).map items).getD [] := by
  rw [← child?_eq, children]
  rcases record.child? key with _ | ⟨json, smaller⟩
  · rfl
  · cases json with
    | array items =>
      simp only [List.map_map, Option.map_some, Option.getD_some, Json.items]
      exact List.attach_map_subtype_val items
    | null | bool | number | string | object => rfl

/-- The records of a list inside a record are decoded as a field of it. -/
theorem mapM_children {α : Type} (decode : Json → Except DecodeError α) (record : Json)
    (key : String) :
    (record.children key).mapM (fun child => decode child.1) =
      record.recordsField decode key := by
  rw [recordsField, ← map_val_children, List.mapM_map]
  rfl

theorem child?_of_absent (absent : record.member? key = none) : record.child? key = none := by
  have none : (record.child? key).map Subtype.val = none := (child?_eq record key).trans absent
  exact Option.map_eq_none_iff.1 none

theorem children_of_absent (absent : record.member? key = none) : record.children key = [] := by
  rw [children, child?_of_absent absent]

end Json

end CloudInventory
