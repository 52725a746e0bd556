import CloudInventory.Schema.Reader
import CloudInventory.Proofs.Json.Fields

/-!
# Canonical records

What reading by the schema makes of an object of fields: the object of what each
field reads as. A writer and the schema are compared field by field, so the order in
which the fields are written and the ones that are absent do not matter.

Results:
1. `Shape.Reads.map` and `Shape.Reads.list`: an optional field and a list are read
   as their items are.
2. `RecordKind.read_ofFields`: an object of readable fields reads as the object of
   their canonical values.
-/

namespace CloudInventory

namespace Shape

/-! ## Fields -/

theorem read_null (shape : Shape) (canonical : Json) : shape.read .null ≠ .ok canonical := by
  cases shape <;> simp [read]

/-- A field with a value of the shape, or an absent one, beside its canonical form. -/
inductive Reads (shape : Shape) : Option Json → Option Json → Prop
  | absent : Reads shape none none
  | present {json canonical : Json} (found : shape.read json = .ok canonical) :
    Reads shape (some json) (some canonical)

namespace Reads

variable {α : Type} {shape : Shape} {write canonical : α → Json}

/-- An optional value is read as the value is. -/
theorem map (reads : ∀ x, shape.read (write x) = .ok (canonical x)) (value : Option α) :
    shape.Reads (value.map write) (value.map canonical) := by
  cases value with
  | none => exact .absent
  | some x => exact .present (reads x)

theorem readItems_map (reads : ∀ x, shape.read (write x) = .ok (canonical x)) (values : List α) :
    readItems (values.map write) shape = .ok (values.map canonical) := by
  induction values with
  | nil => rfl
  | cons x xs ih =>
    rw [List.map_cons, List.map_cons, readItems, reads x, ih]
    rfl

theorem array (reads : ∀ x, shape.read (write x) = .ok (canonical x)) (values : List α) :
    (Shape.list shape).read (.array (values.map write)) = .ok (.array (values.map canonical)) := by
  rw [read, readItems_map reads]
  rfl

end Reads

end Shape

/-! ## Records -/

/-- A field of a kind beside its canonical form. -/
inductive FieldReads (kind : RecordKind) : String × Option Json → String × Option Json → Prop
  | intro {key : String} {shape : Shape} {sent canonical : Option Json}
    (field : kind.field? key = some shape) (reads : shape.Reads sent canonical) :
    FieldReads kind (key, sent) (key, canonical)

/-- A member of a kind beside its canonical form. -/
inductive MemberReads (kind : RecordKind) : String × Json → String × Json → Prop
  | intro {key : String} {shape : Shape} {json canonical : Json}
    (field : kind.field? key = some shape) (reads : shape.read json = .ok canonical) :
    MemberReads kind (key, json) (key, canonical)

variable {kind : RecordKind}

theorem MemberReads.sameKey (a b : String × Json) (reads : MemberReads kind a b) : a.1 = b.1 := by
  cases reads
  rfl

/-- The fields that are present read as the canonical ones that are present. -/
theorem memberReads_present {sent canonical : List (String × Option Json)}
    (reads : List.Forall₂ (FieldReads kind) sent canonical) :
    List.Forall₂ (MemberReads kind)
      (sent.filterMap fun (key, value) => value.map (key, ·))
      (canonical.filterMap fun (key, value) => value.map (key, ·)) := by
  induction reads with
  | nil => exact .nil
  | cons first _ ih =>
    cases first with
    | intro field reads =>
      cases reads with
      | absent => exact ih
      | present found => exact .cons (.intro field found) ih

theorem readMembers_eq {members canonical : List (String × Json)}
    (reads : List.Forall₂ (MemberReads kind) members canonical) :
    Shape.readMembers members kind.fields = .ok canonical := by
  induction reads with
  | nil => rfl
  | cons first _ ih =>
    cases first with
    | @intro key shape json canonical field reads =>
      -- The reader leaves out a `null` before it looks at the field.
      have notNull : json ≠ .null := by
        rintro rfl
        exact Shape.read_null shape canonical reads
      have found : kind.fields.lookup key = some shape := field
      rw [Shape.readMembers, found]
      · simp only [reads, ih]
        rfl
      · exact notNull

namespace RecordKind

/-- An object of readable fields reads as the object of their canonical values. -/
theorem read_ofFields {sent canonical : List (String × Option Json)}
    (reads : List.Forall₂ (FieldReads kind) sent canonical) :
    kind.read (.ofFields sent) = .ok (.ofFields canonical) := by
  have sorted := forall₂_sortMembers MemberReads.sameKey (memberReads_present reads)
  rw [read, Json.ofFields, Shape.read, readMembers_eq sorted]
  rfl

end RecordKind

end CloudInventory
