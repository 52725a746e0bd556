import CloudInventory.Request.Basic
import CloudInventory.Resource.Firewall

/-!
# Request bodies of firewall policies

What is sent to create or change a firewall policy. Addresses and ports are sent
as text that keeps the `!` of an inverted match.
-/

namespace CloudInventory

instance : Sendable FirewallRule where
  requestBody x := .ofFields [
    ("action", Member.token x.action),
    ("comment", Member.text x.comment),
    ("direction", Member.token x.direction),
    ("ip_proto", Member.token x.ipProtocol),
    ("src_ip", Member.text (x.sourceIp.map AddressMatch.text)),
    ("src_port", Member.text (x.sourcePort.map PortRange.text)),
    ("dst_ip", Member.text (x.destinationIp.map AddressMatch.text)),
    ("dst_port", Member.text (x.destinationPort.map PortRange.text))]

instance : Sendable FirewallPolicy where
  requestBody x := .ofFields [
    ("name", Member.text x.name),
    ("meta", Member.metadata x.metadata),
    ("rules", Member.list Sendable.requestBody x.rules),
    ("tags", Member.tags x.tags)]

end CloudInventory
