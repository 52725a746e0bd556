import CloudInventory.Resource.Firewall

/-!
# Ingress permissions

The inbound rules of a firewall policy as the permissions of a security group. A
permission has one protocol, one range of ports and one address block, and cannot
be inverted: an inverted port range is widened to all ports and an inverted source
to its whole family.
-/

namespace CloudInventory

/-- What a security group lets in. -/
structure IngressPermission where
  protocol : FirewallIpProtocol
  firstPort : UInt16
  lastPort : UInt16
  source : AddressBlock
  deriving DecidableEq

namespace FirewallRule

/-- The protocols that the rule opens: all known ones if it names none, and none
if it names an unknown one. -/
def openedProtocols (x : FirewallRule) : List FirewallIpProtocol :=
  match x.ipProtocol with
  | none => (Vocabulary.known (α := FirewallIpProtocol)).map Prod.fst
  | some protocol => if Token.isRecognized protocol then [protocol] else []

/-- The first and the last port that the rule opens. -/
def openedPorts (x : FirewallRule) : UInt16 × UInt16 :=
  match x.destinationPort.filter fun range => !range.negated with
  | some range => (range.first, range.last)
  | none => (0, 65535)

/-- The block of addresses to which the rule opens ports. -/
def openedSource (x : FirewallRule) : AddressBlock :=
  match x.sourceIp with
  | some source => source.collapsed
  | none => .unrestricted false

/-- The permissions of an inbound rule that accepts: one for each protocol. -/
def permissions (x : FirewallRule) : List IngressPermission :=
  x.openedProtocols.map fun protocol =>
    ⟨protocol, x.openedPorts.1, x.openedPorts.2, x.openedSource⟩

end FirewallRule

/-- The permissions of the inbound rules that accept, in rule order. -/
def FirewallPolicy.ingressPermissions (x : FirewallPolicy) : List IngressPermission :=
  (x.inboundRules.filter fun rule => rule.action == some .accept).flatMap FirewallRule.permissions

/-- The form that is shown. -/
def IngressPermission.toJson (x : IngressPermission) : Json :=
  .ofFields [
    ("protocol", some (Token.toJson x.protocol)),
    ("from_port", some (PortRange.portJson x.firstPort)),
    ("to_port", some (PortRange.portJson x.lastPort)),
    ("cidr", some x.source.toJson)]

end CloudInventory
