import CloudInventory.Resource.DriveInfo
import CloudInventory.Resource.ServerInfo

/-!
# Assembling resources

Values for requests are assembled step by step from nothing or from a summary.
A step sets one attribute, replacing what was set before, or appends one item to a
list; every step leaves all other attributes as they are.
-/

namespace CloudInventory

/-! ## Drives -/

namespace DriveInfo

/-- The details of a drive of which only the summary is known. -/
def ofSummary (drive : Drive) : DriveInfo :=
  { drive }

def withUuid (x : DriveInfo) (uuid : String) : DriveInfo :=
  { x with drive := { x.drive with uuid := some uuid } }

def withName (x : DriveInfo) (name : String) : DriveInfo :=
  { x with name := some name }

def withSize (x : DriveInfo) (size : Magnitude) : DriveInfo :=
  { x with size := some size }

def withMedia (x : DriveInfo) (media : MediaType) : DriveInfo :=
  { x with media := some media }

def withAllowMultimount (x : DriveInfo) (allow : Bool) : DriveInfo :=
  { x with allowMultimount := some allow }

def withStorageType (x : DriveInfo) (storageType : String) : DriveInfo :=
  { x with storageType := some storageType }

def addAffinity (x : DriveInfo) (affinity : String) : DriveInfo :=
  { x with affinities := x.affinities ++ [affinity] }

def addLicense (x : DriveInfo) (license : DriveLicense) : DriveInfo :=
  { x with licenses := x.licenses ++ [license] }

def addTag (x : DriveInfo) (tag : Tag) : DriveInfo :=
  { x with tags := x.tags ++ [tag] }

def addMetadata (x : DriveInfo) (key value : String) : DriveInfo :=
  { x with metadata := x.metadata.insert key value }

end DriveInfo

/-! ## Servers -/

/-- The attachment with a boot order. -/
def ServerDrive.withBootOrder (x : ServerDrive) (bootOrder : Int32) : ServerDrive :=
  { x with bootOrder }

namespace ServerInfo

/-- The details of a server of which only the summary is known. -/
def ofSummary (server : Server) : ServerInfo :=
  { server }

def withName (x : ServerInfo) (name : String) : ServerInfo :=
  { x with server := { x.server with name := some name } }

def withCpu (x : ServerInfo) (mhz : UInt32) : ServerInfo :=
  { x with cpu := some mhz }

def withSmp (x : ServerInfo) (cores : UInt32) : ServerInfo :=
  { x with smp := some cores }

def withMemory (x : ServerInfo) (memory : Magnitude) : ServerInfo :=
  { x with memory := some memory }

def withVncPassword (x : ServerInfo) (password : String) : ServerInfo :=
  { x with vncPassword := some password }

def addDrive (x : ServerInfo) (drive : ServerDrive) : ServerInfo :=
  { x with drives := x.drives ++ [drive] }

def addNic (x : ServerInfo) (nic : Nic) : ServerInfo :=
  { x with nics := x.nics ++ [nic] }

def addTag (x : ServerInfo) (tag : Tag) : ServerInfo :=
  { x with tags := x.tags ++ [tag] }

def addMetadata (x : ServerInfo) (key value : String) : ServerInfo :=
  { x with metadata := x.metadata.insert key value }

end ServerInfo

/-! ## Tags -/

namespace Tag

def withUuid (x : Tag) (uuid : String) : Tag :=
  { x with uuid := some uuid }

def withName (x : Tag) (name : String) : Tag :=
  { x with name := some name }

def addResource (x : Tag) (resource : TagResource) : Tag :=
  { x with resources := x.resources ++ [resource] }

def addMetadata (x : Tag) (key value : String) : Tag :=
  { x with metadata := x.metadata.insert key value }

end Tag

/-! ## Firewall policies -/

namespace FirewallRule

def withDestinationPort (x : FirewallRule) (port : PortRange) : FirewallRule :=
  { x with destinationPort := some port }

def withSourceIp (x : FirewallRule) (source : AddressMatch) : FirewallRule :=
  { x with sourceIp := some source }

def withComment (x : FirewallRule) (comment : String) : FirewallRule :=
  { x with comment := some comment }

end FirewallRule

namespace FirewallPolicy

def withUuid (x : FirewallPolicy) (uuid : String) : FirewallPolicy :=
  { x with uuid := some uuid }

def withName (x : FirewallPolicy) (name : String) : FirewallPolicy :=
  { x with name := some name }

def addRule (x : FirewallPolicy) (rule : FirewallRule) : FirewallPolicy :=
  { x with rules := x.rules ++ [rule] }

def addTag (x : FirewallPolicy) (tag : Tag) : FirewallPolicy :=
  { x with tags := x.tags ++ [tag] }

def addMetadata (x : FirewallPolicy) (key value : String) : FirewallPolicy :=
  { x with metadata := x.metadata.insert key value }

end FirewallPolicy

end CloudInventory
