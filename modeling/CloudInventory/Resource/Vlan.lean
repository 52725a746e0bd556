import CloudInventory.Resource.Basic

/-!
# VLANs

The summary of a VLAN: its identity.
-/

namespace CloudInventory

/-- A VLAN: its identity. -/
structure Vlan where
  uuid : Option String := none
  resourceUri : Option String := none
  owner : Option Owner := none
  deriving DecidableEq, Repr, Inhabited

namespace Vlan

def ofRecord (record : Json) : Except DecodeError Vlan := do
  let owner ← record.recordField Owner.ofRecord "owner"
  pure {
    uuid := record.textField "uuid"
    resourceUri := record.textField "resource_uri"
    owner
  }

def fields (x : Vlan) : List (String × Option Json) := [
  ("uuid", Member.text x.uuid),
  ("resource_uri", Member.text x.resourceUri),
  ("owner", x.owner.map Owner.toJson)]

def toJson (x : Vlan) : Json :=
  .ofFields x.fields

instance : Resource Vlan where
  kind := .vlan
  ofRecord := ofRecord
  toJson := toJson

end Vlan

end CloudInventory
