import CloudInventory.Schema.Reader
import CloudInventory.Scalar.Magnitude
import CloudInventory.Scalar.Integer
import CloudInventory.Json.Printer
import CloudInventory.Vocabularies

/-!
# Fields of a canonical record

How a decoder takes a field out of a canonical record. A field that is not there
is `none`, or empty for a list; a field whose value does not exist is a decode
error. Records inside a record come with the fact that they are smaller, which is
why decoders may nest.
-/

namespace CloudInventory

/-- Free-form metadata of a resource. -/
abbrev Meta : Type := Dictionary String

/-- The text that a metadata value is kept as: `null` is dropped, a string is kept
as it is, and any other value becomes its JSON text. -/
def metaText? : Json → Option String
  | .null => none
  | .string s => some s
  | json => some json.compact

/-- The metadata of a free-form object. -/
def Meta.ofMembers (members : List (String × Json)) : Meta :=
  .ofList (members.filterMap fun (key, json) => (metaText? json).map (key, ·))

/-- Metadata as an object of strings. -/
def Meta.toJson (m : Meta) : Json :=
  .object (m.members.map fun (key, value) => (key, .string value))

/-- The instant of a time stamp. -/
def Instant.decode (text : String) : Except DecodeError Instant :=
  (Instant.parse text).mapError (.timestamp text)

namespace Json

/-! ## Plain fields -/

def textField (record : Json) (key : String) : Option String :=
  (record.member? key).bind text?

def flagField (record : Json) (key : String) : Option Bool :=
  (record.member? key).bind flag?

def scalarField (record : Json) (key : String) : Option Scalar :=
  (record.member? key).bind Scalar.ofJson?

/-- The texts of a list; none if the field is not there. -/
def textsField (record : Json) (key : String) : List String :=
  (((record.member? key).map items).getD []).filterMap text?

/-- The value of a token. -/
def tokenField {α : Type} [Vocabulary α] (record : Json) (key : String) : Option α :=
  (record.textField key).map Token.ofText

/-- An amount of money or an identifier: the text of the scalar, never rounded. -/
def decimalField (record : Json) (key : String) : Option String :=
  (record.scalarField key).map Scalar.plainText

def metaField (record : Json) (key : String) : Meta :=
  .ofMembers (((record.member? key).map members).getD [])

/-! ## Fields that may be faulty -/

def magnitudeField (record : Json) (key : String) : Except DecodeError (Option Magnitude) :=
  (record.scalarField key).mapM Magnitude.ofScalar

def instantField (record : Json) (key : String) : Except DecodeError (Option Instant) :=
  (record.textField key).mapM Instant.decode

/-- An integer of fixed width; its error names the field by its key. -/
def boundedField (α : Type) [FixedWidth α] (record : Json) (key : String) :
    Except DecodeError (Option α) :=
  (record.scalarField key).mapM (Scalar.toBounded α key)

/-! ## Records inside -/

theorem sizeOf_lt_of_mem_members {members : List (String × Json)} {key : String} {json : Json}
    (member : (key, json) ∈ members) : sizeOf json < sizeOf (Json.object members) := by
  have := List.sizeOf_lt_of_mem member
  simp at this ⊢
  omega

theorem sizeOf_lt_of_mem_items {items : List Json} {json : Json} (member : json ∈ items) :
    sizeOf json < sizeOf (Json.array items) := by
  have := List.sizeOf_lt_of_mem member
  simp at this ⊢
  omega

theorem mem_of_lookup {α : Type} {members : List (String × α)} {key : String} {value : α}
    (found : members.lookup key = some value) : (key, value) ∈ members := by
  induction members with
  | nil => simp at found
  | cons head rest ih =>
    obtain ⟨k, v⟩ := head
    rw [List.lookup_cons] at found
    split at found
    next same =>
      cases found
      rw [beq_iff_eq.1 same]
      exact List.mem_cons_self
    · exact List.mem_cons_of_mem _ (ih found)

theorem sizeOf_member?_lt {record : Json} {key : String} {json : Json}
    (found : record.member? key = some json) : sizeOf json < sizeOf record := by
  unfold member? at found
  split at found
  · exact sizeOf_lt_of_mem_members (mem_of_lookup found)
  · simp at found

/-- A record inside a record. -/
def child? (record : Json) (key : String) : Option { json : Json // sizeOf json < sizeOf record } :=
  match found : record.member? key with
  | some json => some ⟨json, sizeOf_member?_lt found⟩
  | none => none

/-- The records of a list inside a record. -/
def children (record : Json) (key : String) : List { json : Json // sizeOf json < sizeOf record } :=
  match record.child? key with
  | some ⟨.array items, smaller⟩ =>
    items.attach.map fun ⟨json, member⟩ =>
      ⟨json, Nat.lt_trans (sizeOf_lt_of_mem_items member) smaller⟩
  | _ => []

/-- An optional record inside a record. -/
def recordField {α : Type} (decode : Json → Except DecodeError α) (record : Json) (key : String) :
    Except DecodeError (Option α) :=
  (record.member? key).mapM decode

/-- A list of records inside a record, in order; the first faulty one fails the list. -/
def recordsField {α : Type} (decode : Json → Except DecodeError α) (record : Json)
    (key : String) : Except DecodeError (List α) :=
  (((record.member? key).map items).getD []).mapM decode

theorem child?_eq (record : Json) (key : String) :
    (record.child? key).map Subtype.val = record.member? key := by
  unfold child?
  split <;> simp_all

end Json

/-! ## Resources -/

/-- A type of values that records are decoded into. -/
class Resource (α : Type) where
  /-- The kind of the records. -/
  kind : RecordKind
  /-- The value of a canonical record, or the first fault of its fields. -/
  ofRecord : Json → Except DecodeError α
  /-- The value as JSON; unset fields are left out. -/
  toJson : α → Json

namespace Resource

variable {α : Type} [Resource α]

/-- The value of a record. Faults of the schema come before faults of values. -/
def decode (json : Json) : Except DecodeError α :=
  match (Resource.kind α).read json with
  | .ok record => Resource.ofRecord record
  | .error fault => .error (.schema fault)

/-- The value of a record, or of a bare identifier in its place. -/
def decodeReference (json : Json) : Except DecodeError α :=
  match (Resource.kind α).readReference json with
  | .ok record => Resource.ofRecord record
  | .error fault => .error (.schema fault)

end Resource

end CloudInventory
