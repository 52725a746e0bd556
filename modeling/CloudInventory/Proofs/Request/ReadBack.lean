import CloudInventory.Envelope
import CloudInventory.Request.Drive
import CloudInventory.Proofs.Decode.Members
import CloudInventory.Proofs.Schema.Canonical

/-!
# Reading request bodies back

A request body is itself a record of the kind that it creates or changes, so the
client can read what it sends. What comes back is not the value that was sent: the
body leaves attributes out, and a nested resource comes back as a reference
(`ReadsBack.asSent`). But it is the same to the service, for it is sent as the same
body.

Results:
1. `ReadsBack.unwrapSingle_objectsBody`: a body under `objects` is read as the value
   that was sent, as far as it was sent.
2. `Shape.Reads.identifier` and `Shape.Reads.identifiers`: an identifier in the place
   of a record becomes the record that holds nothing else.
-/

namespace CloudInventory

/-- A type whose request bodies can be read back. -/
class ReadsBack (α : Type) [Resource α] [Sendable α] where
  /-- The fields that reading by the schema leaves of a body. -/
  canonicalFields : α → List (String × Option Json)
  /-- The value, as far as it is sent. -/
  asSent : α → α
  distinct : ∀ x : α, ((canonicalFields x).map Prod.fst).Nodup
  read_requestBody : ∀ x : α,
    (Resource.kind α).read (Sendable.requestBody x) = .ok (.ofFields (canonicalFields x))
  ofRecord_eq : ∀ (x : α) (record : Json), record.HasFields (canonicalFields x) →
    Resource.ofRecord record = .ok (asSent x)
  requestBody_asSent : ∀ x : α, Sendable.requestBody (asSent x) = Sendable.requestBody x

namespace ReadsBack

variable {α : Type} [Resource α] [Sendable α] [ReadsBack α]

theorem ofRecord_canonicalFields (x : α) :
    Resource.ofRecord (.ofFields (canonicalFields x)) = .ok (asSent x) :=
  ofRecord_eq x _ (Json.hasFields_ofFields (distinct x))

theorem decode_requestBody (x : α) : Resource.decode (Sendable.requestBody x) = .ok (asSent x) := by
  rw [Resource.decode, read_requestBody x]
  exact ofRecord_canonicalFields x

theorem map_requestBody_asSent (value : Option α) :
    (value.map asSent).map Sendable.requestBody = value.map Sendable.requestBody := by
  cases value with
  | none => rfl
  | some x => exact congrArg some (requestBody_asSent x)

theorem list_requestBody_asSent (values : List α) :
    Member.list Sendable.requestBody (values.map asSent) =
      Member.list Sendable.requestBody values := by
  cases values with
  | nil => rfl
  | cons x xs =>
    have bodies : ((x :: xs).map asSent).map Sendable.requestBody =
        (x :: xs).map Sendable.requestBody := by
      rw [List.map_map]
      exact List.map_congr_left fun y _ => requestBody_asSent y
    exact congrArg (some ∘ Json.array) bodies

/-- A body under `objects` is read as the value that was sent, as far as it was sent. -/
theorem unwrapSingle_objectsBody (x : α) :
    unwrapSingle α (some (objectsBody [Sendable.requestBody x])) = .ok (some (asSent x)) := by
  have first : (Envelope.detect (objectsBody [Sendable.requestBody x])).first? =
      some (Sendable.requestBody x) := rfl
  rw [unwrapSingle, Option.bind_some, first, Option.mapM_some, decode_requestBody x]
  rfl

end ReadsBack

/-- The client reads the body of `x` as `y`, and would send `y` as the same body. -/
def ComesBackAs {α : Type} [Resource α] [Sendable α] (x y : α) : Prop :=
  unwrapSingle α (some (objectsBody [Sendable.requestBody x])) = .ok (some y) ∧
    Sendable.requestBody y = Sendable.requestBody x

theorem comesBackAs_asSent {α : Type} [Resource α] [Sendable α] [ReadsBack α] (x : α) :
    ComesBackAs x (ReadsBack.asSent x) :=
  ⟨ReadsBack.unwrapSingle_objectsBody x, ReadsBack.requestBody_asSent x⟩

/-! ## What the members of a body read as -/

namespace Member

/-- The record that holds an identifier and nothing else. -/
def record (kind : RecordKind) (id : Option String) : Option Json :=
  id.map fun id => kind.ofIdentifier (.text id)

/-- The list of the records that hold an identifier each and nothing else. -/
def records (kind : RecordKind) : List String → Option Json :=
  list fun id => kind.ofIdentifier (.text id)

end Member

namespace Shape.Reads

theorem text (value : Option String) : Shape.text.Reads (Member.text value) (Member.text value) :=
  map (fun _ => rfl) value

/-- Text in the place of a number stays text. -/
theorem scalarText (value : Option String) :
    Shape.scalar.Reads (Member.text value) (Member.text value) :=
  map (fun _ => rfl) value

theorem flag (value : Option Bool) : Shape.flag.Reads (Member.flag value) (Member.flag value) :=
  map (fun _ => rfl) value

theorem number {α : Type} (toNumber : α → Number) (value : Option α) :
    Shape.scalar.Reads (Member.number toNumber value) (Member.number toNumber value) :=
  map (fun _ => rfl) value

theorem magnitude (value : Option Magnitude) :
    Shape.scalar.Reads (Member.magnitude value) (Member.magnitude value) := by
  refine map (fun m => ?_) value
  obtain ⟨s, sent, -⟩ := m.ofScalar_toRequest
  rw [sent]
  cases s <;> rfl

theorem token {α : Type} [Vocabulary α] [DecidableEq α] (value : Option α) :
    Shape.text.Reads (Member.token value) (Member.token value) := by
  rw [Member.token_eq_text]
  exact text (value.bind Token.known?)

theorem metadata (value : Meta) :
    Shape.freeform.Reads (Member.metadata value) (Member.metadata value) := by
  rw [Member.metadata]
  split
  · exact .absent
  · exact .present rfl

theorem list {α : Type} {item : Shape} {write canonical : α → Json}
    (reads : ∀ x, item.read (write x) = .ok (canonical x)) (values : List α) :
    (Shape.list item).Reads (Member.list write values) (Member.list canonical values) := by
  cases values with
  | nil => exact .absent
  | cons x xs => exact .present (array reads (x :: xs))

theorem texts (values : List String) :
    (Shape.list .text).Reads (Member.texts values) (Member.texts values) :=
  list (fun _ => rfl) values

/-- An identifier in the place of a record becomes the record that holds nothing else. -/
theorem identifier (kind : RecordKind) (value : Option String) :
    (Shape.reference kind).Reads (Member.text value) (Member.record kind value) :=
  map (fun _ => rfl) value

theorem identifiers (kind : RecordKind) (values : List String) :
    (Shape.list (.reference kind)).Reads (Member.texts values) (Member.records kind values) :=
  list (fun _ => rfl) values

end Shape.Reads

/-! ## Bare identifiers -/

/-- The identifier of a reference is the one that it was made of. -/
theorem bind_identifier_map {α : Type} {ofIdentifier : String → α} {uuid : α → Option String}
    (same : ∀ id, uuid (ofIdentifier id) = some id) (value : Option String) :
    (value.map ofIdentifier).bind uuid = value := by
  cases value with
  | none => rfl
  | some id => exact same id

theorem Tag.ofRecord_ofIdentifier (id : String) :
    Tag.ofRecord (RecordKind.tag.ofIdentifier (.text id)) = .ok { uuid := some id } := rfl

theorem TagResource.ofRecord_ofIdentifier (id : String) :
    TagResource.ofRecord (RecordKind.tagResource.ofIdentifier (.text id)) =
      .ok (.unrecognized { uuid := some id }) := rfl

/-- The tags with the given identifiers and nothing else. -/
def Tag.ofIdentifiers (ids : List String) : List Tag :=
  ids.map fun id => { uuid := some id }

theorem Tag.uuids_ofIdentifiers (ids : List String) :
    (ofIdentifiers ids).filterMap Tag.uuid = ids := by
  rw [ofIdentifiers, List.filterMap_map]
  exact List.filterMap_some

theorem Json.tagsField_of_tags {record : Json} {key : String} {values : List Tag}
    (found : record.member? key = Member.records .tag (values.filterMap Tag.uuid)) :
    record.recordsField Tag.ofRecord key =
      .ok (Tag.ofIdentifiers (values.filterMap Tag.uuid)) :=
  recordsField_of_list found Tag.ofRecord_ofIdentifier

theorem Member.tags_ofIdentifiers (values : List Tag) :
    Member.tags (Tag.ofIdentifiers (values.filterMap Tag.uuid)) = Member.tags values := by
  rw [Member.tags, Member.tags, Tag.uuids_ofIdentifiers]

theorem Member.token_filter {α : Type} [Vocabulary α] [DecidableEq α] (value : Option α) :
    Member.token (value.filter Token.isRecognized) = Member.token value := by
  rw [token_eq_text, token_eq_text, Token.bind_known?_filter]

end CloudInventory
