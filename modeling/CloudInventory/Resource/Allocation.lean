import CloudInventory.Resource.Subscription
import CloudInventory.Resource.Tag

/-!
# Allocated VLANs and addresses

The details of what an account rents by subscription: VLANs with the servers on
them, and addresses with their subnets.
-/

namespace CloudInventory

/-- A VLAN with all its attributes. -/
structure VlanInfo where
  vlan : Vlan := {}
  servers : List Server := []
  subscription : Option Subscription := none
  tags : List Tag := []
  metadata : Meta := .empty
  deriving DecidableEq, Inhabited

/-- An address with all its attributes. -/
structure IpInfo where
  ip : Ip := {}
  gateway : Option String := none
  nameservers : List String := []
  /-- The prefix length of the subnet. -/
  netmask : Option UInt8 := none
  subscription : Option Subscription := none
  tags : List Tag := []
  metadata : Meta := .empty
  deriving DecidableEq, Inhabited

namespace VlanInfo

def uuid (x : VlanInfo) : Option String :=
  x.vlan.uuid

def ofRecord (record : Json) : Except DecodeError VlanInfo := do
  let vlan ← Vlan.ofRecord record
  let servers ← record.recordsField Server.ofRecord "servers"
  let subscription ← record.recordField Subscription.ofRecord "subscription"
  let tags ← record.recordsField Tag.ofRecord "tags"
  pure { vlan, servers, subscription, tags, metadata := record.metaField "meta" }

def toJson (x : VlanInfo) : Json :=
  .ofFields (x.vlan.fields ++ [
    ("servers", Member.list Resource.toJson x.servers),
    ("subscription", x.subscription.map Subscription.toJson),
    ("tags", Member.list Tag.toJson x.tags),
    ("meta", Member.metadata x.metadata)])

instance : Resource VlanInfo where
  kind := .vlan
  ofRecord := ofRecord
  toJson := toJson

end VlanInfo

namespace IpInfo

/-- The address itself. -/
def address (x : IpInfo) : Option String :=
  x.ip.uuid

/-- The address with the prefix length of its subnet. -/
def cidr (x : IpInfo) : Option String :=
  x.address.map fun address =>
    match x.netmask with
    | some length => address ++ "/" ++ Text.numeralText length.toNat
    | none => address

def ofRecord (record : Json) : Except DecodeError IpInfo := do
  let ip ← Ip.ofRecord record
  let netmask ← record.boundedField UInt8 "netmask"
  let subscription ← record.recordField Subscription.ofRecord "subscription"
  let tags ← record.recordsField Tag.ofRecord "tags"
  pure {
    ip
    gateway := record.textField "gateway"
    nameservers := record.textsField "nameservers"
    netmask
    subscription
    tags
    metadata := record.metaField "meta"
  }

def toJson (x : IpInfo) : Json :=
  .ofFields (x.ip.fields ++ [
    ("gateway", Member.text x.gateway),
    ("nameservers", Member.texts x.nameservers),
    ("netmask", Member.number (fun n => Number.ofUInt32 n.toUInt32) x.netmask),
    ("subscription", x.subscription.map Subscription.toJson),
    ("tags", Member.list Tag.toJson x.tags),
    ("meta", Member.metadata x.metadata)])

instance : Resource IpInfo where
  kind := .ip
  ofRecord := ofRecord
  toJson := toJson

end IpInfo

end CloudInventory
