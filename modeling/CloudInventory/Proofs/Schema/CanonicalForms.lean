import CloudInventory.Proofs.Schema.BareIdentifiers
import CloudInventory.Proofs.Schema.GivenFields

/-!
# Canonical forms

What can be said of a value once it has been read by the schema: text is a string, a scalar
is a number or a string, and a list is an array of canonical values. The fields of a record
are canonical too, whether it came as an object, as an array of values or as a bare
identifier.

Results:
1. `Shape.canonical_of_read`: what was read is canonical.
2. `Shape.canonical_member?`: so is every field of a record that was read.
-/

namespace CloudInventory

namespace Shape

/-- What a value of the shape is in canonical form. A record is one that was read. -/
def Canonical : Shape → Json → Prop
  | text, json => ∃ s, json = .string s
  | flag, json => ∃ b, json = .bool b
  | scalar, json => ∃ s : Scalar, json = s.toJson
  | freeform, json => ∃ members, json = .object members
  | list item, json => ∃ items, json = .array items ∧ ∀ json ∈ items, item.Canonical json
  | table kind, json => ∃ members, json = .object members ∧
    ∀ member ∈ members, ∃ given, kind.read given = .ok member.2
  | record kind, json => ∃ given, kind.read given = .ok json
  | reference kind, json => ∃ given, kind.readReference given = .ok json

theorem canonical_of_readItems {item : Shape} {items canonical : List Json}
    (each : ∀ json canonical, item.read json = .ok canonical → item.Canonical canonical)
    (found : readItems items item = .ok canonical) : ∀ json ∈ canonical, item.Canonical json := by
  induction items generalizing canonical with
  | nil =>
    rw [readItems] at found
    cases found
    exact fun _ member => absurd member List.not_mem_nil
  | cons json items ih =>
    rw [readItems] at found
    obtain ⟨first, here, rest⟩ := bind_eq_ok_iff.1 found
    obtain ⟨others, later, made⟩ := bind_eq_ok_iff.1 rest
    cases made
    exact List.forall_mem_cons.2 ⟨each _ _ here, ih later⟩

theorem read_of_mem_readTable {kind : RecordKind} {members canonical : List (String × Json)}
    (found : readTable members kind = .ok canonical) :
    ∀ member ∈ canonical, ∃ given, kind.read given = .ok member.2 := by
  induction members generalizing canonical with
  | nil =>
    rw [readTable] at found
    cases found
    exact fun _ member => absurd member List.not_mem_nil
  | cons member members ih =>
    obtain ⟨key, json⟩ := member
    rw [readTable] at found
    obtain ⟨first, here, rest⟩ := bind_eq_ok_iff.1 found
    obtain ⟨others, later, made⟩ := bind_eq_ok_iff.1 rest
    cases made
    exact List.forall_mem_cons.2 ⟨⟨json, here⟩, ih later⟩

/-- What was read is canonical. -/
theorem canonical_of_read {shape : Shape} {json canonical : Json}
    (found : shape.read json = .ok canonical) : shape.Canonical canonical := by
  induction shape generalizing json canonical with
  | record | reference => exact ⟨json, found⟩
  | list item ih =>
    cases json with
    | array items =>
      rw [read, map_eq_ok_iff] at found
      obtain ⟨values, readAll, rfl⟩ := found
      exact ⟨values, rfl, canonical_of_readItems (fun _ _ => ih) readAll⟩
    | _ => simp [read] at found
  | table kind =>
    cases json with
    | object members =>
      rw [read, map_eq_ok_iff] at found
      obtain ⟨values, readAll, rfl⟩ := found
      exact ⟨values, rfl, read_of_mem_readTable readAll⟩
    | _ => simp [read] at found
  | scalar =>
    cases json with
    | number n =>
      cases found
      exact ⟨.number n, rfl⟩
    | string s =>
      cases found
      exact ⟨.text s, rfl⟩
    | _ => simp [read] at found
  | text | flag | freeform =>
    cases json <;> simp [read] at found
    exact ⟨_, found.symm⟩

/-! ## Fields of a record -/

/-- Where a kind has a field for its identifier, text is allowed there. -/
theorem canonical_identity {kind : RecordKind} {shape : Shape}
    (field : kind.field? kind.identity = some shape) (id : String) :
    shape.Canonical (.string id) := by
  have allowed : ∀ shape ∈ kind.field? kind.identity, shape = text ∨ shape = scalar := by
    cases kind <;> decide
  rcases allowed shape field with rfl | rfl
  · exact ⟨id, rfl⟩
  · exact ⟨.text id, rfl⟩

/-- The fields of a bare identifier are canonical. -/
theorem canonical_ofIdentifier {kind : RecordKind} {id : Scalar} {key : String} {shape : Shape}
    {json : Json} (field : kind.field? key = some shape)
    (found : (kind.ofIdentifier id).member? key = some json) : shape.Canonical json := by
  rw [RecordKind.ofIdentifier, Json.member?, lookup_cons_eq_ite] at found
  split at found
  next same =>
    cases found
    exact canonical_identity (same ▸ field) _
  next => cases found

/-- In a place for a reference an object and an array are read as in a place for a record. -/
theorem read_record_of_ofJson?_eq_none {kind : RecordKind} {json record : Json}
    (noScalar : Scalar.ofJson? json = none) (read : (reference kind).read json = .ok record) :
    kind.read json = .ok record := by
  cases json with
  | object | array =>
    rw [Shape.read, mapError_eq_ok_iff] at read
    rw [RecordKind.read, Shape.read]
    exact read
  | number | string => cases noScalar
  | null | bool => simp [Shape.read] at read

/-- And what is read in a place for a record is read in a place for a reference. -/
theorem read_reference_of_read_record {kind : RecordKind} {json record : Json}
    (read : kind.read json = .ok record) : (reference kind).read json = .ok record := by
  cases json with
  | object | array =>
    rw [RecordKind.read, Shape.read] at read
    rw [Shape.read, mapError_eq_ok_iff]
    exact read
  | number | string | null | bool => simp [RecordKind.read, Shape.read] at read

theorem read_record_of_read_reference {kind : RecordKind} {json record : Json}
    (read : (reference kind).read json = .ok record) :
    kind.read json = .ok record ∨ ∃ id, record = kind.ofIdentifier id := by
  cases scalar : Scalar.ofJson? json with
  | none => exact .inl (read_record_of_ofJson?_eq_none scalar read)
  | some id =>
    cases json with
    | number | string =>
      cases read
      exact .inr ⟨_, rfl⟩
    | null | bool | array | object => cases scalar

/-- The fields of a record that was read are canonical. -/
theorem canonical_member? {place shape : Shape} {kind : RecordKind} {json record value : Json}
    {key : String} (holds : place.recordKind? = some kind) (read : place.read json = .ok record)
    (field : kind.field? key = some shape) (found : record.member? key = some value) :
    shape.Canonical value := by
  have ofRecord (read : kind.read json = .ok record) : shape.Canonical value := by
    have given := RecordKind.readGiven_member? read field
    rw [found] at given
    rcases readGiven_eq_ok_iff.1 given with ⟨-, absent⟩ | ⟨_, _, -, same, here⟩
    · cases absent
    · cases same
      exact canonical_of_read here
  cases place with
  | record =>
    cases holds
    exact ofRecord read
  | reference =>
    cases holds
    rcases read_record_of_read_reference read with read | ⟨id, rfl⟩
    · exact ofRecord read
    · exact canonical_ofIdentifier field found
  | text | flag | scalar | freeform | list | table => cases holds

end Shape

end CloudInventory
