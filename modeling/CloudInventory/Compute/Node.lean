import CloudInventory.Compute.BootDrive

/-!
# Compute nodes

A server as a node of a compute inventory, in terms that do not depend on the
service: status, size, addresses, image and labels. An address is private when its
interface is on a VLAN or says so itself.
-/

namespace CloudInventory

/-- The state of a node. -/
inductive NodeStatus where
  | running
  | pending
  | suspended
  | error
  | unrecognized
  deriving DecidableEq, Repr, Inhabited

namespace NodeStatus

def text : NodeStatus → String
  | running => "running"
  | pending => "pending"
  | suspended => "suspended"
  | error => "error"
  | unrecognized => "unrecognized"

/-- The state of the node that a server is. -/
def ofServer : ServerStatus → NodeStatus
  | .running => running
  | .starting => pending
  | .stopping => pending
  | .paused => suspended
  | .stopped => suspended
  | .unavailable => error
  | .unrecognized => unrecognized

end NodeStatus

namespace Nic

/-- Whether the addresses of the interface are private. -/
def isPrivate (x : Nic) : Bool :=
  x.vlan.isSome || x.runtime.bind NicStats.interfaceType == some .privateNetwork

/-- The addresses that are bound to the interface, the IPv4 address first. -/
def boundAddresses (x : Nic) : List String :=
  [x.runtime.bind NicStats.ipv4, x.runtime.bind NicStats.ipv6].filterMap fun ip =>
    ip.bind Ip.uuid

/-- The addresses that are configured for the interface, the IPv4 address first. -/
def configuredAddresses (x : Nic) : List String :=
  [x.ipv4Configuration, x.ipv6Configuration].filterMap fun configuration =>
    (configuration.bind IpConfiguration.ip).bind Ip.uuid

/-- The bound addresses, or the configured ones if none is bound. -/
def addresses (x : Nic) : List String :=
  if x.boundAddresses.isEmpty then x.configuredAddresses else x.boundAddresses

end Nic

/-- The name of a tag, or else its uuid. -/
def Tag.label (x : Tag) : Option String :=
  x.name.or x.uuid

/-- A node of a compute inventory. -/
structure ComputeNode where
  id : Option String
  name : Option String
  status : NodeStatus
  /-- The clock frequency in MHz. -/
  cpuMhz : Option UInt32
  cores : Option UInt32
  /-- The memory in bytes. -/
  memory : Option Magnitude
  publicAddresses : List String
  privateAddresses : List String
  /-- The uuid of the drive that the node boots from. -/
  bootDrive : Option String
  /-- The name of the drive that the node boots from. -/
  image : Option String
  tags : List String
  deriving DecidableEq

namespace ComputeNode

/-- The node of a server, with the uuid and the name of its boot drive. -/
def ofServer (server : ServerInfo) (bootDrive image : Option String) : ComputeNode where
  id := server.uuid
  name := server.name
  status := (server.server.status.map NodeStatus.ofServer).getD .unrecognized
  cpuMhz := server.cpu
  cores := server.smp
  memory := server.memory
  publicAddresses := (server.nics.filter fun nic => !nic.isPrivate).flatMap Nic.addresses
  privateAddresses := (server.nics.filter Nic.isPrivate).flatMap Nic.addresses
  bootDrive
  image
  tags := server.tags.filterMap Tag.label

/-- A member that is `null` when unset. -/
def nullable (value : Option Json) : Json :=
  value.getD .null

/-- A member that is a list, also when it is empty. -/
def listed (values : List String) : Json :=
  .array (values.map .string)

/-- Every field in declaration order, `null` where it is unset. -/
def fields (x : ComputeNode) : List (String × Json) := [
  ("id", nullable (Member.text x.id)),
  ("name", nullable (Member.text x.name)),
  ("status", .string x.status.text),
  ("cpu_mhz", nullable (Member.number .ofUInt32 x.cpuMhz)),
  ("cores", nullable (Member.number .ofUInt32 x.cores)),
  ("memory", nullable (x.memory.map Magnitude.toJson)),
  ("public_addresses", listed x.publicAddresses),
  ("private_addresses", listed x.privateAddresses),
  ("boot_drive", nullable (Member.text x.bootDrive)),
  ("image", nullable (Member.text x.image)),
  ("tags", listed x.tags)]

def toJson (x : ComputeNode) : Json :=
  .object (sortMembers x.fields)

/-- The line that an inventory prints: the fields in declaration order. -/
def line (x : ComputeNode) : String :=
  (Json.object x.fields).compact

end ComputeNode

end CloudInventory
