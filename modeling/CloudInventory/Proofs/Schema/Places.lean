import CloudInventory.Proofs.Schema.BareIdentifiers

/-!
# Places inside a value

A value of the schema holds records in fields, in lists and in tables, to any depth, and a
record comes as an object or as an array of values. A place is the way from the whole value
to a part of it. A change at one place is given by what may change there; around the place
the value stays as it is.

Results:
1. `Shape.Within.read_congr`: what the reader does not see at a place it does not see in
   the whole value.
-/

namespace CloudInventory

/-- A step from a value to a part of it. -/
inductive Step where
  /-- To the value of a field, whether the record is an object or an array. -/
  | field (key : String)
  /-- To an item of a list. -/
  | item (index : Nat)
  /-- To a record of a table. -/
  | entry (key : String)
  deriving DecidableEq, Repr

/-- The way to a part of a value. -/
abbrev Place : Type := List Step

namespace Shape

/-- The second value is the first one, but for a change at a place inside. `change` says
what changes, in a value of which shape and at which place of that value. Of several
members with one key the reader sees the first, and only that one is a field. -/
inductive Within (change : Shape → Place → Json → Json → Prop) :
    Shape → Place → Json → Json → Prop
  | here {shape : Shape} {place : Place} {a b : Json} (changed : change shape place a b) :
    Within change shape place a b
  | item {shape : Shape} {place : Place} {a b : Json} (front back : List Json)
    (inside : Within change shape place a b) :
    Within change (.list shape) (.item front.length :: place)
      (.array (front ++ a :: back)) (.array (front ++ b :: back))
  | entry {kind : RecordKind} {place : Place} {key : String} {a b : Json}
    (front back : List (String × Json)) (inside : Within change (.record kind) place a b) :
    Within change (.table kind) (.entry key :: place)
      (.object (front ++ (key, a) :: back)) (.object (front ++ (key, b) :: back))
  | member {outer shape : Shape} {place : Place} {kind : RecordKind} {key : String} {a b : Json}
    (front back : List (String × Json)) (holds : outer.recordKind? = some kind)
    (field : kind.field? key = some shape) (first : key ∉ front.map Prod.fst)
    (inside : Within change shape place a b) :
    Within change outer (.field key :: place)
      (.object (front ++ (key, a) :: back)) (.object (front ++ (key, b) :: back))
  | element {outer shape : Shape} {place : Place} {kind : RecordKind} {key : String} {a b : Json}
    (front back : List Json) (holds : outer.recordKind? = some kind)
    (field : kind.fields[front.length]? = some (key, shape))
    (inside : Within change shape place a b) :
    Within change outer (.field key :: place)
      (.array (front ++ a :: back)) (.array (front ++ b :: back))

namespace Within

variable {change : Shape → Place → Json → Json → Prop} {shape : Shape} {place : Place} {a b : Json}

/-- If a change leaves no `null` behind and takes none, neither does one inside a value. -/
theorem ne_null (notNull : ∀ shape place a b, change shape place a b → a ≠ .null ∧ b ≠ .null)
    (within : Within change shape place a b) : a ≠ .null ∧ b ≠ .null := by
  cases within with
  | here changed => exact notNull _ _ _ _ changed
  | item | entry | member | element => exact ⟨Json.noConfusion, Json.noConfusion⟩

/-- A change that the reader does not see at its place is one that it does not see in the
whole value. -/
theorem read_congr (notNull : ∀ shape place a b, change shape place a b → a ≠ .null ∧ b ≠ .null)
    (same : ∀ shape place a b, change shape place a b → shape.read a = shape.read b)
    (within : Within change shape place a b) : shape.read a = shape.read b := by
  induction within with
  | here changed => exact same _ _ _ _ changed
  | item front back inside ih => rw [read, read, readItems_congr ih front back]
  | entry front back inside ih => rw [read, read, readTable_congr ih _ front back]
  | member front back holds field first inside ih =>
    exact read_object_congr holds (readMembers_congr (inside.ne_null notNull) ih field front back)
  | element front back holds field inside ih =>
    refine read_array_congr holds ?_
      (readPositions_congr (inside.ne_null notNull) ih front back field)
    rw [List.length_append, List.length_append, List.length_cons, List.length_cons]

end Within

end Shape

end CloudInventory
