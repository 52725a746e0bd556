import CloudInventory.Resource.Basic

/-!
# Drives

The summary of a drive: identity and state.
-/

namespace CloudInventory

/-- A drive: identity and state. -/
structure Drive where
  uuid : Option String := none
  resourceUri : Option String := none
  owner : Option Owner := none
  status : Option DriveStatus := none
  deriving DecidableEq, Repr, Inhabited

namespace Drive

def ofRecord (record : Json) : Except DecodeError Drive := do
  let owner ← record.recordField Owner.ofRecord "owner"
  pure {
    uuid := record.textField "uuid"
    resourceUri := record.textField "resource_uri"
    owner
    status := record.tokenField "status"
  }

def fields (x : Drive) : List (String × Option Json) := [
  ("uuid", Member.text x.uuid),
  ("resource_uri", Member.text x.resourceUri),
  ("owner", x.owner.map Owner.toJson),
  ("status", x.status.map Token.toJson)]

def toJson (x : Drive) : Json :=
  .ofFields x.fields

instance : Resource Drive where
  kind := .drive
  ofRecord := ofRecord
  toJson := toJson

end Drive

end CloudInventory
