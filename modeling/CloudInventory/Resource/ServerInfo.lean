import CloudInventory.Resource.Firewall

/-!
# Server details

Everything about a server: its summary, its capacity, the drives attached to it
and its network interfaces. A boot order of -1 means that a drive or interface is
not booted from.
-/

namespace CloudInventory

/-- The boot order of what is not booted from. -/
def bootOrderUnset : Int32 := -1

/-- How an interface gets its address. -/
structure IpConfiguration where
  configurationType : Option IpConfigurationType := none
  ip : Option Ip := none
  deriving DecidableEq, Inhabited

/-- A drive attached to a server. -/
structure ServerDrive where
  bootOrder : Int32 := bootOrderUnset
  /-- The position on the bus. -/
  deviceChannel : Option String := none
  deviceEmulationType : Option DeviceEmulationType := none
  driveUuid : Option String := none
  drive : Option Drive := none
  deriving DecidableEq, Inhabited

/-- A network interface of a server. -/
structure Nic where
  bootOrder : Int32 := bootOrderUnset
  firewallPolicy : Option FirewallPolicy := none
  ipv4Configuration : Option IpConfiguration := none
  ipv6Configuration : Option IpConfiguration := none
  mac : Option String := none
  model : Option NicModel := none
  runtime : Option NicStats := none
  vlan : Option Vlan := none
  deriving DecidableEq, Inhabited

/-- A server with all its attributes. -/
structure ServerInfo where
  server : Server := {}
  /-- The clock frequency in MHz. -/
  cpu : Option UInt32 := none
  cpusInsteadOfCores : Option Bool := none
  smp : Option UInt32 := none
  memory : Option Magnitude := none
  enableNuma : Option Bool := none
  hvRelaxed : Option Bool := none
  hvTsc : Option Bool := none
  context : Option Bool := none
  vncPassword : Option String := none
  drives : List ServerDrive := []
  nics : List Nic := []
  requirements : List String := []
  tags : List Tag := []
  metadata : Meta := .empty
  deriving DecidableEq, Inhabited

namespace IpConfiguration

def ofRecord (record : Json) : Except DecodeError IpConfiguration := do
  let ip ← record.recordField Ip.ofRecord "ip"
  pure { configurationType := record.tokenField "conf", ip }

def toJson (x : IpConfiguration) : Json :=
  .ofFields [
    ("configuration_type", x.configurationType.map Token.toJson),
    ("ip", x.ip.map Resource.toJson)]

instance : Resource IpConfiguration where
  kind := .ipConfiguration
  ofRecord := ofRecord
  toJson := toJson

end IpConfiguration

namespace ServerDrive

/-- The attachment of a drive at a position of a bus. -/
def attach (driveUuid deviceChannel : String) (emulation : DeviceEmulationType) : ServerDrive :=
  { deviceChannel := some deviceChannel, deviceEmulationType := some emulation,
    driveUuid := some driveUuid }

def hasBootOrder (x : ServerDrive) : Bool :=
  x.bootOrder != bootOrderUnset

/-- The uuid of the attached drive, given directly or by its record. -/
def attachedUuid (x : ServerDrive) : Option String :=
  x.driveUuid.or (x.drive.bind Drive.uuid)

def ofRecord (record : Json) : Except DecodeError ServerDrive := do
  let drive ← record.recordField Drive.ofRecord "drive"
  let bootOrder ← record.boundedField Int32 "boot_order"
  pure {
    bootOrder := bootOrder.getD bootOrderUnset
    deviceChannel := record.textField "dev_channel"
    deviceEmulationType := record.tokenField "device"
    driveUuid := drive.bind Drive.uuid
    drive
  }

def toJson (x : ServerDrive) : Json :=
  .ofFields [
    ("boot_order", some (.number (.ofInt32 x.bootOrder))),
    ("device_channel", Member.text x.deviceChannel),
    ("device_emulation_type", x.deviceEmulationType.map Token.toJson),
    ("drive_uuid", Member.text x.driveUuid),
    ("drive", x.drive.map Drive.toJson)]

instance : Resource ServerDrive where
  kind := .serverDrive
  ofRecord := ofRecord
  toJson := toJson

end ServerDrive

namespace Nic

/-- An interface with an address by DHCP. -/
def dhcp (model : NicModel) : Nic :=
  { model := some model, ipv4Configuration := some { configurationType := some .dhcp } }

/-- An interface on a VLAN. -/
def onVlan (model : NicModel) (vlan : Vlan) : Nic :=
  { model := some model, vlan := some vlan }

/-- The IPv4 address bound to the interface, or else the one configured for it. -/
def ipv4Address (x : Nic) : Option String :=
  ((x.runtime.bind NicStats.ipv4).or (x.ipv4Configuration.bind IpConfiguration.ip)).bind Ip.uuid

def ofRecord (record : Json) : Except DecodeError Nic := do
  let bootOrder ← record.boundedField Int32 "boot_order"
  let firewallPolicy ← record.recordField FirewallPolicy.ofRecord "firewall_policy"
  let ipv4Configuration ← record.recordField IpConfiguration.ofRecord "ip_v4_conf"
  let ipv6Configuration ← record.recordField IpConfiguration.ofRecord "ip_v6_conf"
  let runtime ← record.recordField NicStats.ofRecord "runtime"
  let vlan ← record.recordField Vlan.ofRecord "vlan"
  pure {
    bootOrder := bootOrder.getD bootOrderUnset
    firewallPolicy
    ipv4Configuration
    ipv6Configuration
    mac := record.textField "mac"
    model := record.tokenField "model"
    runtime
    vlan
  }

def toJson (x : Nic) : Json :=
  .ofFields [
    ("boot_order", some (.number (.ofInt32 x.bootOrder))),
    ("firewall_policy", x.firewallPolicy.map FirewallPolicy.toJson),
    ("ip_v4_configuration", x.ipv4Configuration.map IpConfiguration.toJson),
    ("ip_v6_configuration", x.ipv6Configuration.map IpConfiguration.toJson),
    ("mac", Member.text x.mac),
    ("model", x.model.map Token.toJson),
    ("runtime", x.runtime.map Resource.toJson),
    ("vlan", x.vlan.map Vlan.toJson)]

instance : Resource Nic where
  kind := .nic
  ofRecord := ofRecord
  toJson := toJson

end Nic

namespace ServerInfo

def uuid (x : ServerInfo) : Option String :=
  x.server.uuid

def name (x : ServerInfo) : Option String :=
  x.server.name

def ofRecord (record : Json) : Except DecodeError ServerInfo := do
  let server ← Server.ofRecord record
  let cpu ← record.boundedField UInt32 "cpu"
  let smp ← record.boundedField UInt32 "smp"
  let memory ← record.magnitudeField "mem"
  let drives ← record.recordsField ServerDrive.ofRecord "drives"
  let nics ← record.recordsField Nic.ofRecord "nics"
  let tags ← record.recordsField Tag.ofRecord "tags"
  pure {
    server
    cpu
    cpusInsteadOfCores := record.flagField "cpus_instead_of_cores"
    smp
    memory
    enableNuma := record.flagField "enable_numa"
    hvRelaxed := record.flagField "hv_relaxed"
    hvTsc := record.flagField "hv_tsc"
    context := record.flagField "context"
    vncPassword := record.textField "vnc_password"
    drives
    nics
    requirements := record.textsField "requirements"
    tags
    metadata := record.metaField "meta"
  }

def toJson (x : ServerInfo) : Json :=
  .ofFields (x.server.fields ++ [
    ("cpu", Member.number .ofUInt32 x.cpu),
    ("cpus_instead_of_cores", Member.flag x.cpusInsteadOfCores),
    ("smp", Member.number .ofUInt32 x.smp),
    ("memory", x.memory.map Magnitude.toJson),
    ("enable_numa", Member.flag x.enableNuma),
    ("hv_relaxed", Member.flag x.hvRelaxed),
    ("hv_tsc", Member.flag x.hvTsc),
    ("context", Member.flag x.context),
    ("vnc_password", Member.text x.vncPassword),
    ("drives", Member.list ServerDrive.toJson x.drives),
    ("nics", Member.list Nic.toJson x.nics),
    ("requirements", Member.texts x.requirements),
    ("tags", Member.list Tag.toJson x.tags),
    ("meta", Member.metadata x.metadata)])

instance : Resource ServerInfo where
  kind := .server
  ofRecord := ofRecord
  toJson := toJson

end ServerInfo

end CloudInventory
