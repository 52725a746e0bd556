import CloudInventory.Schema.Basic
import CloudInventory.Scalar.Basic

/-!
# Reading by the schema

Reading a value by a shape yields its canonical form, or the first fault. In
canonical form a record is an object with its known, present fields only: unknown
members and `null` are gone, an array of values has become an object, and a bare
identifier has become the record that holds nothing else. So two bodies that
differ only in such matters have one canonical form, and decoding looks at
canonical records only.
-/

namespace CloudInventory

namespace RecordKind

/-- The record that a bare identifier stands for. -/
def ofIdentifier (kind : RecordKind) (id : Scalar) : Json :=
  .object [(kind.identity, .string id.plainText)]

/-- The name of the kind as the expectation of a message. -/
def expectation (kind : RecordKind) : String :=
  "struct " ++ kind.typeName

end RecordKind

namespace Shape

/-- The fault of a value in a place for a reference. Faults inside the record are
not told apart. -/
def referenceFault : SchemaFault :=
  .noVariant "WireRef"

/-- The canonical record of an array with so many elements. Excess elements are a
fault, found after the faults of the fields. -/
def ofElements (length : Nat) (fields : List (String × Shape))
    (members : List (String × Json)) : Except SchemaFault Json :=
  if fields.length < length then .error (.tooManyElements length)
  else .ok (.object (sortMembers members))

mutual

/-- The canonical form of a value. The fields of an object are read in key order,
the elements of an array in field order. -/
def read : Json → Shape → Except SchemaFault Json
  | .string s, .text => .ok (.string s)
  | json, .text => .error (.wrongType json "a string")
  | .bool b, .flag => .ok (.bool b)
  | json, .flag => .error (.wrongType json "a boolean")
  | .number n, .scalar => .ok (.number n)
  | .string s, .scalar => .ok (.string s)
  | _, .scalar => .error (.noVariant "WireNumber")
  | .object members, .freeform => .ok (.object members)
  | json, .freeform => .error (.wrongType json "a map")
  | .array items, .list item => (readItems items item).map .array
  | json, .list _ => .error (.wrongType json "a sequence")
  | .object members, .table kind => (readTable members kind).map .object
  | json, .table _ => .error (.wrongType json "a map")
  | .object members, .record kind => (readMembers members kind.fields).map .object
  | .array items, .record kind =>
    (readPositions items kind.fields).bind (ofElements items.length kind.fields)
  | json, .record kind => .error (.wrongType json kind.expectation)
  | .number n, .reference kind => .ok (kind.ofIdentifier (.number n))
  | .string s, .reference kind => .ok (kind.ofIdentifier (.text s))
  | .object members, .reference kind =>
    ((readMembers members kind.fields).map .object).mapError fun _ => referenceFault
  | .array items, .reference kind =>
    ((readPositions items kind.fields).bind (ofElements items.length kind.fields)).mapError
      fun _ => referenceFault
  | _, .reference _ => .error referenceFault

/-- The canonical forms of the items of a list. -/
def readItems : List Json → Shape → Except SchemaFault (List Json)
  | [], _ => .ok []
  | json :: items, item => do
    let first ← read json item
    let rest ← readItems items item
    pure (first :: rest)

/-- The canonical forms of records under any keys. -/
def readTable : List (String × Json) → RecordKind → Except SchemaFault (List (String × Json))
  | [], _ => .ok []
  | (key, json) :: members, kind => do
    let first ← read json (.record kind)
    let rest ← readTable members kind
    pure ((key, first) :: rest)

/-- The canonical fields of an object. -/
def readMembers : List (String × Json) → List (String × Shape) →
    Except SchemaFault (List (String × Json))
  | [], _ => .ok []
  | (_, .null) :: members, fields => readMembers members fields
  | (key, json) :: members, fields =>
    match fields.lookup key with
    | none => readMembers members fields
    | some shape => do
      let first ← read json shape
      let rest ← readMembers members fields
      pure ((key, first) :: rest)

/-- The canonical fields of the elements, in field order. -/
def readPositions : List Json → List (String × Shape) →
    Except SchemaFault (List (String × Json))
  | [], _ => .ok []
  | _ :: _, [] => .ok []
  | .null :: items, _ :: fields => readPositions items fields
  | json :: items, (key, shape) :: fields => do
    let first ← read json shape
    let rest ← readPositions items fields
    pure ((key, first) :: rest)

end

end Shape

/-- The canonical form of a record of a kind. -/
def RecordKind.read (kind : RecordKind) (json : Json) : Except SchemaFault Json :=
  Shape.read json (.record kind)

/-- The canonical form of a record of a kind, or of a bare identifier in its place. -/
def RecordKind.readReference (kind : RecordKind) (json : Json) : Except SchemaFault Json :=
  Shape.read json (.reference kind)

end CloudInventory
