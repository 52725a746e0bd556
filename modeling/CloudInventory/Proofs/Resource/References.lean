import CloudInventory.Proofs.Envelope.Records
import CloudInventory.Proofs.Request.ServerBodies
import CloudInventory.Proofs.Schema.BareIdentifiers
import CloudInventory.Proofs.Schema.GivenFields

/-!
# Two ways to a referenced value

A reference is converted in one of two ways: an identifier makes the value that holds
nothing else, a record is decoded. The decoders know one way only, that of records,
because the reader has put records in the place of identifiers. Here both ways are
shown to lead to the same values.

Results:
1. `Identified`: the types of values that an identifier makes, ten of them.
2. `decodeReference_eq_convertReference`: decoding a reference is converting it in one of
   the two ways.
3. `recordField_eq_convertReference` and `recordsField_eq_convertReference`: so is what a
   decoder finds in a field of a record; `recordsField_eq_decode`: of a list of inline
   records, each is decoded by itself.
4. `interchangeable`: an identifier and the record that holds nothing else are the same
   value, wherever they are decoded.
-/

namespace CloudInventory

/-- The types of values that an identifier makes: the identity is set to it, and nothing
else is set. -/
class Identified (α : Type) [Resource α] where
  /-- The value that holds nothing but the identifier. -/
  ofIdentifier : String → α
  hasIdentity : (Resource.kind α).HasIdentity
  ofRecord_identity : ∀ id,
    Resource.ofRecord (.object [((Resource.kind α).identity, .string id)]) = .ok (ofIdentifier id)

/-! ## Lists of records -/

theorem Resource.decode_of_read {α : Type} [Resource α] {json record : Json}
    (read : (Resource.kind α).read json = .ok record) :
    (Resource.decode json : Except DecodeError α) = Resource.ofRecord record := by
  rw [Resource.decode, read]

section

variable {α : Type} [Resource α] {shape : Shape} {convert : Json → Except DecodeError α}

/-- Items are converted one by one, if the conversion of each is the decoding of its
canonical form. -/
theorem mapM_of_readItems (same : ∀ {json canonical}, shape.read json = .ok canonical →
      convert json = Resource.ofRecord canonical)
    {items canonical : List Json} (found : Shape.readItems items shape = .ok canonical) :
    (items.mapM convert : Except DecodeError (List α)) = canonical.mapM Resource.ofRecord := by
  induction items generalizing canonical with
  | nil =>
    rw [Shape.readItems] at found
    cases found
    rfl
  | cons json items ih =>
    rw [Shape.readItems] at found
    simp only [bind_eq_ok_iff] at found
    obtain ⟨value, first, values, rest, made⟩ := found
    cases made
    rw [List.mapM_cons, List.mapM_cons, same first, ih rest]

variable {kind : RecordKind} {json record : Json} {key : String}

/-- What a decoder finds in a field for a list are the conversions of what the value gives
for the field, in order. -/
theorem recordsField_eq_mapM (same : ∀ {json canonical}, shape.read json = .ok canonical →
      convert json = Resource.ofRecord canonical)
    (found : kind.read json = .ok record) (field : kind.field? key = some (.list shape)) :
    record.recordsField (Resource.ofRecord (α := α)) key =
      (((kind.given? json key).map Json.items).getD []).mapM convert := by
  rw [Json.recordsField]
  rcases Shape.readGiven_eq_ok_iff.1 (RecordKind.readGiven_member? found field) with
    ⟨absent, member⟩ | ⟨given, value, present, member, read⟩
  · rw [absent, member]
    rfl
  · rw [present, member, Option.map_some, Option.map_some, Option.getD_some, Option.getD_some]
    cases given with
    | array items =>
      rw [Shape.read, map_eq_ok_iff] at read
      obtain ⟨values, read, rfl⟩ := read
      exact (mapM_of_readItems same read).symm
    | null | bool | number | string | object =>
      rw [Shape.read] at read
      · cases read
      exact fun _ => Json.noConfusion

/-- In a field for inline records each item is decoded as a record. -/
theorem recordsField_eq_decode (found : kind.read json = .ok record)
    (field : kind.field? key = some (.list (.record (Resource.kind α)))) :
    record.recordsField (Resource.ofRecord (α := α)) key =
      (((kind.given? json key).map Json.items).getD []).mapM Resource.decode :=
  recordsField_eq_mapM Resource.decode_of_read found field

end

/-! ## Converting -/

section

variable {α : Type} [Resource α] [Identified α]

/-- The value of a reference. An identifier makes the value that holds nothing else, a
record is decoded, and the faults of the schema are not told apart. -/
def convertReference : Json → Except DecodeError α
  | .string id => .ok (Identified.ofIdentifier id)
  | .number n => .ok (Identified.ofIdentifier n.plainText)
  | json =>
    match (Resource.kind α).read json with
    | .ok record => Resource.ofRecord record
    | .error _ => .error (.schema Shape.referenceFault)

/-- Decoding a reference is converting it. -/
theorem decodeReference_eq_convertReference (json : Json) :
    (Resource.decodeReference json : Except DecodeError α) = convertReference json := by
  unfold Resource.decodeReference RecordKind.readReference
  cases json with
  | null | bool =>
    rw [Shape.read]
    · rfl
    all_goals exact fun _ => Json.noConfusion
  | number n =>
    rw [Shape.read]
    exact Identified.ofRecord_identity n.plainText
  | string id =>
    rw [Shape.read]
    exact Identified.ofRecord_identity id
  | array items =>
    rw [Shape.read, convertReference, RecordKind.read, Shape.read]
    · cases (Shape.readPositions items (Resource.kind α).fields).bind
        (Shape.ofElements items.length (Resource.kind α).fields) <;> rfl
    all_goals exact fun _ => Json.noConfusion
  | object members =>
    rw [Shape.read, convertReference, RecordKind.read, Shape.read]
    · cases (Shape.readMembers members (Resource.kind α).fields).map Json.object <;> rfl
    all_goals exact fun _ => Json.noConfusion

/-! ## References in records -/

theorem convertReference_of_read {json canonical : Json}
    (found : (Shape.reference (Resource.kind α)).read json = .ok canonical) :
    (convertReference json : Except DecodeError α) = Resource.ofRecord canonical := by
  rw [← decodeReference_eq_convertReference, Resource.decodeReference, RecordKind.readReference,
    found]

variable {kind : RecordKind} {json record : Json} {key : String}

/-- What a decoder finds in a field for a reference is the conversion of what the value
gives for the field. -/
theorem recordField_eq_convertReference (found : kind.read json = .ok record)
    (field : kind.field? key = some (.reference (Resource.kind α))) :
    record.recordField (Resource.ofRecord (α := α)) key =
      (kind.given? json key).mapM convertReference := by
  rw [Json.recordField]
  rcases Shape.readGiven_eq_ok_iff.1 (RecordKind.readGiven_member? found field) with
    ⟨absent, member⟩ | ⟨given, value, present, member, read⟩
  · rw [absent, member]
    rfl
  · rw [present, member, Option.mapM_some, Option.mapM_some, convertReference_of_read read]

/-- What a decoder finds in a field for references are the conversions of what the value
gives for the field, in order. -/
theorem recordsField_eq_convertReference (found : kind.read json = .ok record)
    (field : kind.field? key = some (.list (.reference (Resource.kind α)))) :
    record.recordsField (Resource.ofRecord (α := α)) key =
      (((kind.given? json key).map Json.items).getD []).mapM convertReference :=
  recordsField_eq_mapM convertReference_of_read found field

end

/-! ## Types of referenced values -/

theorem Server.ofRecord_ofIdentifier (id : String) :
    Server.ofRecord (RecordKind.server.ofIdentifier (.text id)) = .ok { uuid := some id } := by
  have runtime : (RecordKind.server.ofIdentifier (.text id)).child? "runtime" = none :=
    Json.child?_of_absent rfl
  rw [ofRecord, runtime]
  rfl

theorem Subscription.ofRecord_ofIdentifier (id : String) :
    Subscription.ofRecord (RecordKind.subscription.ofIdentifier (.text id)) = .ok (withId id) := by
  have descendants :
      (RecordKind.subscription.ofIdentifier (.text id)).children "descendants" = [] :=
    Json.children_of_absent rfl
  rw [ofRecord, descendants]
  rfl

instance : Identified Drive where
  ofIdentifier id := { uuid := some id }
  hasIdentity := by decide
  ofRecord_identity := Drive.ofRecord_ofIdentifier

instance : Identified Server where
  ofIdentifier id := { uuid := some id }
  hasIdentity := by decide
  ofRecord_identity := Server.ofRecord_ofIdentifier

instance : Identified FirewallPolicy where
  ofIdentifier id := { uuid := some id }
  hasIdentity := by decide
  ofRecord_identity := FirewallPolicy.ofRecord_ofIdentifier

instance : Identified Vlan where
  ofIdentifier id := { uuid := some id }
  hasIdentity := by decide
  ofRecord_identity := Vlan.ofRecord_ofIdentifier

instance : Identified Ip where
  ofIdentifier id := { uuid := some id }
  hasIdentity := by decide
  ofRecord_identity := Ip.ofRecord_ofIdentifier

instance : Identified Tag where
  ofIdentifier id := { uuid := some id }
  hasIdentity := by decide
  ofRecord_identity := Tag.ofRecord_ofIdentifier

instance : Identified TagResource where
  ofIdentifier id := .unrecognized { uuid := some id }
  hasIdentity := by decide
  ofRecord_identity := TagResource.ofRecord_ofIdentifier

instance : Identified Owner where
  ofIdentifier id := { uuid := some id }
  hasIdentity := by decide
  ofRecord_identity _ := rfl

instance : Identified ResourceRef where
  ofIdentifier id := { uuid := some id }
  hasIdentity := by decide
  ofRecord_identity _ := rfl

instance : Identified Subscription where
  ofIdentifier := Subscription.withId
  hasIdentity := by decide
  ofRecord_identity := Subscription.ofRecord_ofIdentifier

/-! ## Identifiers for records -/

/-- An identifier and the record that has nothing but the identifier under the key are
decoded to the same value, the record also where no identifier is allowed. -/
def Interchangeable (α : Type) [Resource α] (key : String) (value : String → α) : Prop :=
  ∀ id,
    Resource.decodeReference (.string id) = .ok (value id) ∧
      Resource.decodeReference (.object [(key, .string id)]) = .ok (value id) ∧
      Resource.decode (.object [(key, .string id)]) = .ok (value id)

/-- The record that holds nothing but the identifier stands for it. -/
theorem interchangeable (α : Type) [Resource α] [Identified α] :
    Interchangeable α (Resource.kind α).identity Identified.ofIdentifier := by
  intro id
  have bare : (Resource.decodeReference (.string id) : Except DecodeError α) =
      .ok (Identified.ofIdentifier id) := decodeReference_eq_convertReference _
  have identity : (Resource.kind α).HasIdentity := Identified.hasIdentity
  have record : (Resource.decodeReference (.object [((Resource.kind α).identity, .string id)]) :
      Except DecodeError α) = .ok (Identified.ofIdentifier id) := by
    rw [← bare, Resource.decodeReference, Resource.decodeReference, RecordKind.readReference,
      RecordKind.readReference, Shape.read_identity identity]
  have read : (Resource.kind α).read (.object [((Resource.kind α).identity, .string id)]) =
      .ok (.object [((Resource.kind α).identity, .string id)]) := by
    rw [RecordKind.read, Shape.read, Shape.readMembers_identity identity]
    rfl
  refine ⟨bare, record, ?_⟩
  rw [Resource.decode_of_read read]
  exact Identified.ofRecord_identity id

end CloudInventory
