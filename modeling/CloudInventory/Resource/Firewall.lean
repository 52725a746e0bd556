import CloudInventory.Resource.Tag
import CloudInventory.Network.PortRange

/-!
# Firewall policies

A policy is a list of rules in the order in which they are tried. A rule field
that is not set restricts nothing.
-/

namespace CloudInventory

/-- A rule of a firewall policy. -/
structure FirewallRule where
  action : Option FirewallAction := none
  comment : Option String := none
  direction : Option FirewallDirection := none
  ipProtocol : Option FirewallIpProtocol := none
  sourceIp : Option AddressMatch := none
  sourcePort : Option PortRange := none
  destinationIp : Option AddressMatch := none
  destinationPort : Option PortRange := none
  deriving DecidableEq, Inhabited

/-- A firewall policy and the servers that it protects. -/
structure FirewallPolicy where
  uuid : Option String := none
  resourceUri : Option String := none
  owner : Option Owner := none
  name : Option String := none
  rules : List FirewallRule := []
  servers : List Server := []
  tags : List Tag := []
  metadata : Meta := .empty
  deriving DecidableEq, Inhabited

namespace FirewallRule

/-- A rule that accepts inbound traffic of a protocol. -/
def acceptInbound (protocol : FirewallIpProtocol) : FirewallRule :=
  { action := some .accept, direction := some .inbound, ipProtocol := some protocol }

/-- Whether the rule applies to inbound traffic. -/
def appliesInbound (x : FirewallRule) : Bool :=
  match x.direction with
  | some .inbound => true
  | some .both => true
  | _ => false

def ofRecord (record : Json) : Except DecodeError FirewallRule := do
  let sourceIp ← AddressMatch.decode (record.textField "src_ip")
  let sourcePort ← PortRange.decode (record.scalarField "src_port")
  let destinationIp ← AddressMatch.decode (record.textField "dst_ip")
  let destinationPort ← PortRange.decode (record.scalarField "dst_port")
  pure {
    action := record.tokenField "action"
    comment := record.textField "comment"
    direction := record.tokenField "direction"
    ipProtocol := record.tokenField "ip_proto"
    sourceIp
    sourcePort
    destinationIp
    destinationPort
  }

def toJson (x : FirewallRule) : Json :=
  .ofFields [
    ("action", x.action.map Token.toJson),
    ("comment", Member.text x.comment),
    ("direction", x.direction.map Token.toJson),
    ("ip_protocol", x.ipProtocol.map Token.toJson),
    ("source_ip", x.sourceIp.map AddressMatch.toJson),
    ("source_port", x.sourcePort.map PortRange.toJson),
    ("destination_ip", x.destinationIp.map AddressMatch.toJson),
    ("destination_port", x.destinationPort.map PortRange.toJson)]

instance : Resource FirewallRule where
  kind := .firewallRule
  ofRecord := ofRecord
  toJson := toJson

end FirewallRule

namespace FirewallPolicy

/-- The rules that apply to inbound traffic. -/
def inboundRules (x : FirewallPolicy) : List FirewallRule :=
  x.rules.filter FirewallRule.appliesInbound

def ofRecord (record : Json) : Except DecodeError FirewallPolicy := do
  let owner ← record.recordField Owner.ofRecord "owner"
  let rules ← record.recordsField FirewallRule.ofRecord "rules"
  let servers ← record.recordsField Server.ofRecord "servers"
  let tags ← record.recordsField Tag.ofRecord "tags"
  pure {
    uuid := record.textField "uuid"
    resourceUri := record.textField "resource_uri"
    owner
    name := record.textField "name"
    rules
    servers
    tags
    metadata := record.metaField "meta"
  }

def toJson (x : FirewallPolicy) : Json :=
  .ofFields [
    ("uuid", Member.text x.uuid),
    ("resource_uri", Member.text x.resourceUri),
    ("owner", x.owner.map Owner.toJson),
    ("name", Member.text x.name),
    ("rules", Member.list FirewallRule.toJson x.rules),
    ("servers", Member.list Resource.toJson x.servers),
    ("tags", Member.list Tag.toJson x.tags),
    ("meta", Member.metadata x.metadata)]

instance : Resource FirewallPolicy where
  kind := .firewallPolicy
  ofRecord := ofRecord
  toJson := toJson

end FirewallPolicy

end CloudInventory
