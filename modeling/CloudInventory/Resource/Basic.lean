import CloudInventory.Decode.Record

/-!
# Owners and references

What every resource carries: the account that owns it and free-form metadata. The
first section says how fields become members of an object: an unset option, an
empty list and empty metadata have no member.
-/

namespace CloudInventory

/-! ## Members of an object -/

namespace Member

def text (value : Option String) : Option Json :=
  value.map .string

def flag (value : Option Bool) : Option Json :=
  value.map .bool

def number {α : Type} (toNumber : α → Number) (value : Option α) : Option Json :=
  value.map fun x => .number (toNumber x)

/-- A list without items has no member. -/
def list {α : Type} (toJson : α → Json) : List α → Option Json
  | [] => none
  | x :: xs => some (.array ((x :: xs).map toJson))

def texts : List String → Option Json :=
  list .string

/-- Metadata without entries has no member. -/
def metadata (value : Meta) : Option Json :=
  if value.isEmpty then none else some value.toJson

end Member

/-! ## Owners -/

/-- The account that owns a resource, as far as it is known. -/
structure Owner where
  uuid : Option String := none
  resourceUri : Option String := none
  email : Option String := none
  deriving DecidableEq, Repr, Inhabited

namespace Owner

def ofRecord (record : Json) : Except DecodeError Owner :=
  .ok {
    uuid := record.textField "uuid"
    resourceUri := record.textField "resource_uri"
    email := record.textField "email"
  }

def toJson (x : Owner) : Json :=
  .ofFields [
    ("uuid", Member.text x.uuid),
    ("resource_uri", Member.text x.resourceUri),
    ("email", Member.text x.email)]

instance : Resource Owner where
  kind := .owner
  ofRecord := ofRecord
  toJson := toJson

end Owner

/-! ## References of unknown kind -/

/-- The identity of a resource whose kind is not known. -/
structure ResourceRef where
  uuid : Option String := none
  resourceUri : Option String := none
  owner : Option Owner := none
  deriving DecidableEq, Repr, Inhabited

namespace ResourceRef

def ofRecord (record : Json) : Except DecodeError ResourceRef := do
  let owner ← record.recordField Owner.ofRecord "owner"
  pure {
    uuid := record.textField "uuid"
    resourceUri := record.textField "resource_uri"
    owner
  }

def fields (x : ResourceRef) : List (String × Option Json) := [
  ("uuid", Member.text x.uuid),
  ("resource_uri", Member.text x.resourceUri),
  ("owner", x.owner.map Owner.toJson)]

def toJson (x : ResourceRef) : Json :=
  .ofFields x.fields

instance : Resource ResourceRef where
  kind := .tagResource
  ofRecord := ofRecord
  toJson := toJson

end ResourceRef

end CloudInventory
