import CloudInventory.Decode.Record

/-!
# Envelopes

The service delivers a resource bare, or in an object under `objects`, alone or in
a list beside pagination. Which of them a body is can be seen without decoding it
(`Envelope.detect`); decoding then takes the first record or all of them. A
non-empty `objects` array wins over the members next to it, and an object with
nothing but `meta` is a record unless that is pagination.
-/

namespace CloudInventory

/-- The form of a body. -/
inductive Envelope where
  /-- The body is the record. -/
  | bare (record : Json)
  /-- The body holds records; there is at least one. -/
  | objects (first : Json) (rest : List Json)
  /-- The body holds no record. -/
  | empty
  deriving DecidableEq

namespace Envelope

/-- The member that holds the records. -/
def objectsKey : String := "objects"

/-- The member that holds the pagination of a list, or metadata of a record. -/
def metaKey : String := "meta"

/-- The members that only pagination has. -/
def paginationKeys : List String := ["total_count", "limit", "offset"]

/-- Whether the value of `meta` is the pagination of a list. -/
def isPagination (json : Json) : Bool :=
  paginationKeys.any fun key => (json.member? key).isSome

/-- Whether the object has a member that only a record has. -/
def hasRecordMember (members : List (String × Json)) : Bool :=
  members.any fun member => member.1 != objectsKey && member.1 != metaKey

/-- The form of an object without records under `objects`. -/
def detectRecord (members : List (String × Json)) : Envelope :=
  if hasRecordMember members then .bare (.object members)
  else
    match members.lookup objectsKey, members.lookup metaKey with
    | none, some metadata =>
      if isPagination metadata then .empty else .bare (.object members)
    | _, _ => .empty

/-- The form of a body. -/
def detect : Json → Envelope
  | .array (first :: rest) => .objects first rest
  | .object members =>
    match members.lookup objectsKey with
    | some (.array (first :: rest)) => .objects first rest
    | _ => detectRecord members
  | _ => .empty

/-- The records of the body in order. -/
def records : Envelope → List Json
  | bare record => [record]
  | objects first rest => first :: rest
  | empty => []

/-- The first record of the body. -/
def first? : Envelope → Option Json
  | bare record => some record
  | objects first _ => some first
  | empty => none

def isEmpty : Envelope → Bool
  | empty => true
  | _ => false

/-- The name of the form. -/
def kind : Envelope → String
  | bare _ => "bare"
  | objects _ _ => "objects"
  | empty => "empty"

/-- The first record is the head of the records. -/
theorem first?_eq_head? (x : Envelope) : x.first? = x.records.head? := by
  cases x <;> rfl

end Envelope

/-- The resource of a body that carries one; `none` if there is no body or no
record in it. -/
def unwrapSingle (α : Type) [Resource α] (body : Option Json) : Except DecodeError (Option α) :=
  (body.bind fun json => (Envelope.detect json).first?).mapM Resource.decode

/-- The resources of a body that carries a list, in order. The first faulty record
fails the list. -/
def unwrapList (α : Type) [Resource α] (body : Option Json) : Except DecodeError (List α) :=
  ((body.map fun json => (Envelope.detect json).records).getD []).mapM Resource.decode

end CloudInventory
