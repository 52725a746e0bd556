import CloudInventory.Resource.Drive
import CloudInventory.Resource.Server.Equality
import CloudInventory.Resource.Vlan

/-!
# Tags

A tag labels resources of any kind. A labelled resource is shown by its identity
alone; its kind is a token, and the identity of a resource of another kind is kept
too.
-/

namespace CloudInventory

/-- A resource that a tag labels. -/
inductive TagResource where
  | server (value : Server)
  | drive (value : Drive)
  | ip (value : Ip)
  | vlan (value : Vlan)
  /-- A resource whose kind is not known. -/
  | unrecognized (value : ResourceRef)
  deriving DecidableEq, Inhabited

/-- A label with the resources that it is attached to. -/
structure Tag where
  uuid : Option String := none
  resourceUri : Option String := none
  owner : Option Owner := none
  name : Option String := none
  resources : List TagResource := []
  metadata : Meta := .empty
  deriving DecidableEq, Inhabited

namespace TagResource

/-- The kind of the resource. -/
def type : TagResource → TagResourceType
  | .server _ => .servers
  | .drive _ => .drives
  | .ip _ => .ips
  | .vlan _ => .vlans
  | .unrecognized _ => .unrecognized

def uuid : TagResource → Option String
  | .server x => x.uuid
  | .drive x => x.uuid
  | .ip x => x.uuid
  | .vlan x => x.uuid
  | .unrecognized x => x.uuid

def resourceUri : TagResource → Option String
  | .server x => x.resourceUri
  | .drive x => x.resourceUri
  | .ip x => x.resourceUri
  | .vlan x => x.resourceUri
  | .unrecognized x => x.resourceUri

/-- The resource with the given identity, of the kind that a token names. -/
def ofIdentity (x : ResourceRef) : Option TagResourceType → TagResource
  | some .servers =>
    .server { uuid := x.uuid, resourceUri := x.resourceUri, owner := x.owner }
  | some .drives =>
    .drive { uuid := x.uuid, resourceUri := x.resourceUri, owner := x.owner }
  | some .ips =>
    .ip { uuid := x.uuid, resourceUri := x.resourceUri, owner := x.owner }
  | some .vlans =>
    .vlan { uuid := x.uuid, resourceUri := x.resourceUri, owner := x.owner }
  | some .unrecognized => .unrecognized x
  | none => .unrecognized x

def ofRecord (record : Json) : Except DecodeError TagResource := do
  let identity ← ResourceRef.ofRecord record
  pure (ofIdentity identity (record.tokenField "res_type"))

def fields (x : TagResource) : List (String × Option Json) :=
  ("res_type", some (Token.toJson x.type)) ::
    match x with
    | .server x => x.fields
    | .drive x => x.fields
    | .ip x => x.fields
    | .vlan x => x.fields
    | .unrecognized x => x.fields

def toJson (x : TagResource) : Json :=
  .ofFields x.fields

instance : Resource TagResource where
  kind := .tagResource
  ofRecord := ofRecord
  toJson := toJson

end TagResource

namespace Tag

/-- The labelled resources of one kind. -/
def resourcesOf (x : Tag) (type : TagResourceType) : List TagResource :=
  x.resources.filter fun resource => resource.type == type

def ofRecord (record : Json) : Except DecodeError Tag := do
  let owner ← record.recordField Owner.ofRecord "owner"
  let resources ← record.recordsField TagResource.ofRecord "resources"
  pure {
    uuid := record.textField "uuid"
    resourceUri := record.textField "resource_uri"
    owner
    name := record.textField "name"
    resources
    metadata := record.metaField "meta"
  }

def toJson (x : Tag) : Json :=
  .ofFields [
    ("uuid", Member.text x.uuid),
    ("resource_uri", Member.text x.resourceUri),
    ("owner", x.owner.map Owner.toJson),
    ("name", Member.text x.name),
    ("resources", Member.list TagResource.toJson x.resources),
    ("meta", Member.metadata x.metadata)]

instance : Resource Tag where
  kind := .tag
  ofRecord := ofRecord
  toJson := toJson

end Tag

end CloudInventory
