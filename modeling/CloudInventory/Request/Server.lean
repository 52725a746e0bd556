import CloudInventory.Request.Basic
import CloudInventory.Resource.ServerInfo

/-!
# Request bodies of servers

What is sent to create or change a server with its drives and interfaces. Drives,
policies, VLANs and addresses are sent as their uuids, and a boot order only if
there is one.
-/

namespace CloudInventory

namespace Member

/-- A boot order; there is no member for the one of what is not booted from. -/
def bootOrder (value : Int32) : Option Json :=
  if value = bootOrderUnset then none else some (.number (.ofInt32 value))

end Member

instance : Sendable ServerDrive where
  requestBody x := .ofFields [
    ("boot_order", Member.bootOrder x.bootOrder),
    ("dev_channel", Member.text x.deviceChannel),
    ("device", Member.token x.deviceEmulationType),
    ("drive", Member.text x.attachedUuid)]

instance : Sendable IpConfiguration where
  requestBody x := .ofFields [
    ("conf", Member.token x.configurationType),
    ("ip", Member.text (x.ip.bind Ip.uuid))]

instance : Sendable Nic where
  requestBody x := .ofFields [
    ("boot_order", Member.bootOrder x.bootOrder),
    ("firewall_policy", Member.text (x.firewallPolicy.bind FirewallPolicy.uuid)),
    ("ip_v4_conf", x.ipv4Configuration.map Sendable.requestBody),
    ("ip_v6_conf", x.ipv6Configuration.map Sendable.requestBody),
    ("mac", Member.text x.mac),
    ("model", Member.token x.model),
    ("vlan", Member.text (x.vlan.bind Vlan.uuid))]

instance : Sendable ServerInfo where
  requestBody x := .ofFields [
    ("name", Member.text x.name),
    ("cpu", Member.number .ofUInt32 x.cpu),
    ("smp", Member.number .ofUInt32 x.smp),
    ("mem", Member.magnitude x.memory),
    ("cpus_instead_of_cores", Member.flag x.cpusInsteadOfCores),
    ("enable_numa", Member.flag x.enableNuma),
    ("hv_relaxed", Member.flag x.hvRelaxed),
    ("hv_tsc", Member.flag x.hvTsc),
    ("vnc_password", Member.text x.vncPassword),
    ("drives", Member.list Sendable.requestBody x.drives),
    ("nics", Member.list Sendable.requestBody x.nics),
    ("requirements", Member.texts x.requirements),
    ("meta", Member.metadata x.metadata),
    ("tags", Member.tags x.tags)]

end CloudInventory
