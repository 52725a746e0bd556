import CloudInventory.Decode.Record
import CloudInventory.Proofs.Schema.Canonical
import Mathlib.Logic.Relation

/-!
# Bare identifiers and the records that they stand for

The service shows a resource inside another one by a record or by a bare identifier.
A step puts the record that holds nothing but the identifier in the place of one bare
identifier, at any depth, in lists, in objects and in arrays of values. The reader
does not see such steps: it reads both values as the same canonical form, or reports
the same fault.

Results:
1. `RecordKind.hasIdentity_of_target`: every kind that is referred to has a field for
   its identifier.
2. `Shape.read_of_inlinedOnce`: one step does not change what is read.
3. `Shape.read_of_inlined`: any number of steps does not.
-/

namespace CloudInventory

/-! ## Identities -/

namespace RecordKind

/-- Records of the kind have a field for the identifier, and text is allowed there. -/
def HasIdentity (kind : RecordKind) : Prop :=
  kind.field? kind.identity = some .text ∨ kind.field? kind.identity = some .scalar

instance (kind : RecordKind) : Decidable kind.HasIdentity :=
  inferInstanceAs (Decidable (_ ∨ _))

end RecordKind

namespace Shape

/-- The kind of records that a field refers to, alone or in a list. -/
def target? : Shape → Option RecordKind
  | .reference kind => some kind
  | .list item => item.target?
  | _ => none

/-- The kind of the records in a place, whether bare identifiers are allowed or not. -/
def recordKind? : Shape → Option RecordKind
  | .record kind => some kind
  | .reference kind => some kind
  | _ => none

end Shape

/-- Every kind that some field refers to has a field for its identifier. -/
theorem RecordKind.hasIdentity_of_target {kind target : RecordKind} {key : String} {shape : Shape}
    (field : kind.field? key = some shape) (refers : shape.target? = some target) :
    target.HasIdentity := by
  have all : ∀ entry ∈ kind.fields, ∀ target ∈ entry.2.target?, target.HasIdentity := by
    cases kind <;> decide
  exact all (key, shape) (Json.mem_of_lookup field) target refers

/-! ## Steps -/

namespace Shape

/-- The second value is the first one, but for one bare identifier that has become the
record with nothing else. -/
inductive InlinedOnce : Shape → Json → Json → Prop
  | bare {kind : RecordKind} (identity : kind.HasIdentity) (id : String) :
    InlinedOnce (.reference kind) (.string id) (.object [(kind.identity, .string id)])
  | item {shape : Shape} {a b : Json} (front back : List Json) (inside : InlinedOnce shape a b) :
    InlinedOnce (.list shape) (.array (front ++ a :: back)) (.array (front ++ b :: back))
  | entry {kind : RecordKind} {key : String} {a b : Json} (front back : List (String × Json))
    (inside : InlinedOnce (.record kind) a b) :
    InlinedOnce (.table kind) (.object (front ++ (key, a) :: back))
      (.object (front ++ (key, b) :: back))
  | member {place shape : Shape} {kind : RecordKind} {key : String} {a b : Json}
    (front back : List (String × Json)) (holds : place.recordKind? = some kind)
    (field : kind.field? key = some shape) (inside : InlinedOnce shape a b) :
    InlinedOnce place (.object (front ++ (key, a) :: back)) (.object (front ++ (key, b) :: back))
  | element {place shape : Shape} {kind : RecordKind} {key : String} {a b : Json}
    (front back : List Json) (holds : place.recordKind? = some kind)
    (field : kind.fields[front.length]? = some (key, shape)) (inside : InlinedOnce shape a b) :
    InlinedOnce place (.array (front ++ a :: back)) (.array (front ++ b :: back))

/-- Any number of bare identifiers have become records with nothing else. -/
def Inlined (shape : Shape) : Json → Json → Prop :=
  Relation.ReflTransGen (InlinedOnce shape)

/-- A step takes a value to a value: the reader leaves out neither of them. -/
theorem InlinedOnce.ne_null {shape : Shape} {a b : Json} (inlined : InlinedOnce shape a b) :
    a ≠ .null ∧ b ≠ .null := by
  cases inlined <;> exact ⟨Json.noConfusion, Json.noConfusion⟩

/-! ## Reading around a place -/

section

variable {a b : Json} {shape : Shape}

theorem readItems_congr (same : shape.read a = shape.read b) (front back : List Json) :
    readItems (front ++ a :: back) shape = readItems (front ++ b :: back) shape := by
  induction front with
  | nil => rw [List.nil_append, List.nil_append, readItems, readItems, same]
  | cons first front ih =>
    rw [List.cons_append, List.cons_append, readItems, readItems, ih]

theorem readTable_congr {kind : RecordKind} (same : (record kind).read a = (record kind).read b)
    (key : String) (front back : List (String × Json)) :
    readTable (front ++ (key, a) :: back) kind = readTable (front ++ (key, b) :: back) kind := by
  induction front with
  | nil => rw [List.nil_append, List.nil_append, readTable, readTable, same]
  | cons first front ih =>
    obtain ⟨other, json⟩ := first
    rw [List.cons_append, List.cons_append, readTable, readTable, ih]

theorem readMembers_congr (notNull : a ≠ .null ∧ b ≠ .null) (same : shape.read a = shape.read b)
    {fields : List (String × Shape)} {key : String} (field : fields.lookup key = some shape)
    (front back : List (String × Json)) :
    readMembers (front ++ (key, a) :: back) fields =
      readMembers (front ++ (key, b) :: back) fields := by
  induction front with
  | nil =>
    rw [List.nil_append, List.nil_append, readMembers, readMembers, field]
    · simp only [same]
    · exact notNull.2
    · exact notNull.1
  | cons first front ih =>
    obtain ⟨other, json⟩ := first
    by_cases null : json = .null
    · rw [null, List.cons_append, List.cons_append, readMembers, readMembers, ih]
    · rw [List.cons_append, List.cons_append, readMembers, readMembers, ih]
      · exact null
      · exact null

theorem readPositions_congr (notNull : a ≠ .null ∧ b ≠ .null)
    (same : shape.read a = shape.read b) {fields : List (String × Shape)} {key : String}
    (front back : List Json) (field : fields[front.length]? = some (key, shape)) :
    readPositions (front ++ a :: back) fields = readPositions (front ++ b :: back) fields := by
  induction front generalizing fields with
  | nil =>
    cases fields with
    | nil => cases field
    | cons first fields =>
      cases field
      rw [List.nil_append, List.nil_append, readPositions, readPositions, same]
      · exact notNull.2
      · exact notNull.1
  | cons json front ih =>
    cases fields with
    | nil => cases field
    | cons first fields =>
      obtain ⟨other, otherShape⟩ := first
      have rest := ih field
      by_cases null : json = .null
      · rw [null, List.cons_append, List.cons_append, readPositions, readPositions, rest]
      · rw [List.cons_append, List.cons_append, readPositions, readPositions, rest]
        · exact null
        · exact null

end

/-- Where a record may stand, an object is read by its members. -/
theorem read_object_congr {place : Shape} {kind : RecordKind}
    {members others : List (String × Json)}
    (holds : place.recordKind? = some kind)
    (same : readMembers members kind.fields = readMembers others kind.fields) :
    place.read (.object members) = place.read (.object others) := by
  cases place with
  | record =>
    cases holds
    rw [read, read, same]
  | reference =>
    cases holds
    rw [read, read, same]
  | text | flag | scalar | freeform | list | table => cases holds

/-- Where a record may stand, an array is read by its elements. -/
theorem read_array_congr {place : Shape} {kind : RecordKind} {items others : List Json}
    (holds : place.recordKind? = some kind) (length : items.length = others.length)
    (same : readPositions items kind.fields = readPositions others kind.fields) :
    place.read (.array items) = place.read (.array others) := by
  cases place with
  | record =>
    cases holds
    rw [read, read, same, length]
  | reference =>
    cases holds
    rw [read, read, same, length]
  | text | flag | scalar | freeform | list | table => cases holds

theorem readMembers_identity {kind : RecordKind} (identity : kind.HasIdentity) (id : String) :
    readMembers [(kind.identity, .string id)] kind.fields = .ok [(kind.identity, .string id)] := by
  rcases identity with text | scalar
  · exact readMembers_eq (.cons (.intro text rfl) .nil)
  · exact readMembers_eq (.cons (.intro scalar rfl) .nil)

/-- A bare identifier and the record that holds nothing else are read alike. -/
theorem read_identity {kind : RecordKind} (identity : kind.HasIdentity) (id : String) :
    (reference kind).read (.string id) =
      (reference kind).read (.object [(kind.identity, .string id)]) := by
  rw [read, read, readMembers_identity identity]
  rfl

/-! ## Reading before and after -/

/-- One step does not change what is read, be it a value or a fault. -/
theorem read_of_inlinedOnce {shape : Shape} {a b : Json} (inlined : InlinedOnce shape a b) :
    shape.read a = shape.read b := by
  induction inlined with
  | bare identity id => exact read_identity identity id
  | item front back inside ih => rw [read, read, readItems_congr ih front back]
  | entry front back inside ih => rw [read, read, readTable_congr ih _ front back]
  | member front back holds field inside ih =>
    exact read_object_congr holds (readMembers_congr inside.ne_null ih field front back)
  | element front back holds field inside ih =>
    refine read_array_congr holds ?_ (readPositions_congr inside.ne_null ih front back field)
    rw [List.length_append, List.length_append, List.length_cons, List.length_cons]

/-- No number of steps changes what is read. -/
theorem read_of_inlined {shape : Shape} {a b : Json} (inlined : Inlined shape a b) :
    shape.read a = shape.read b := by
  induction inlined with
  | refl => rfl
  | tail _ step ih => exact ih.trans (read_of_inlinedOnce step)

end Shape

end CloudInventory
