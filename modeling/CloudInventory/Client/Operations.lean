import CloudInventory.Client.Basic
import CloudInventory.Compute.Adapter
import CloudInventory.Request.Drive
import CloudInventory.Request.Firewall
import CloudInventory.Request.Server
import CloudInventory.Resource.Billing

/-!
# Operations of the service

Every operation with its path. A collection has a path of its own, a resource is a
segment behind it, and lists are asked for without pagination.
-/

namespace CloudInventory.Client

/-! ## Paths -/

/-- The query for a list without pagination. -/
def allItems : String := "?limit=0"

/-- The path of a list. -/
def listPath (path : String) : String :=
  path ++ allItems

/-- The path of a resource in a collection. -/
def itemPath (collection id : String) : String :=
  collection ++ Url.segment id ++ "/"

/-- The path of an action on a resource. -/
def actionPath (collection id action : String) : String :=
  itemPath collection id ++ "action/?do=" ++ action

variable (client : Client)

/-! ## Servers -/

def listServers : Session (Outcome (List Server)) :=
  client.getList Server (listPath "servers/")

def listServersDetail : Session (Outcome (List ServerInfo)) :=
  client.getList ServerInfo (listPath "servers/detail/")

def getServer (uuid : String) : Session (Outcome (Option ServerInfo)) :=
  client.getOne ServerInfo (itemPath "servers/" uuid)

def createServer (server : ServerInfo) : Session (Outcome (Option ServerInfo)) :=
  client.create "servers/" server

def editServer (uuid : String) (server : ServerInfo) : Session (Outcome (Option ServerInfo)) :=
  client.update (itemPath "servers/" uuid) server

def deleteServer (uuid : String) : Session (Outcome Unit) :=
  client.delete (itemPath "servers/" uuid)

def startServer (uuid : String) : Session (Outcome Unit) :=
  client.command .post (actionPath "servers/" uuid "start")

def stopServer (uuid : String) : Session (Outcome Unit) :=
  client.command .post (actionPath "servers/" uuid "stop")

/-! ## Drives -/

def listDrivesDetail : Session (Outcome (List DriveInfo)) :=
  client.getList DriveInfo (listPath "drives/detail/")

def getDrive (uuid : String) : Session (Outcome (Option DriveInfo)) :=
  client.getOne DriveInfo (itemPath "drives/" uuid)

def createDrive (drive : DriveInfo) : Session (Outcome (Option DriveInfo)) :=
  client.create "drives/" drive

def editDrive (uuid : String) (drive : DriveInfo) : Session (Outcome (Option DriveInfo)) :=
  client.update (itemPath "drives/" uuid) drive

def deleteDrive (uuid : String) : Session (Outcome Unit) :=
  client.delete (itemPath "drives/" uuid)

/-- Clones a drive, and yields the clone as it is when the service accepts it. -/
def cloneDrive (uuid : String) (clone : CloneRequest) : Session (Outcome (Option DriveInfo)) := do
  let body ← client.send .post (actionPath "drives/" uuid "clone")
    (some (Sendable.requestBody clone))
  pure (single DriveInfo body)

def listLibraryDrives : Session (Outcome (List LibraryDrive)) :=
  client.getList LibraryDrive (listPath "libdrives/")

def getLibraryDrive (uuid : String) : Session (Outcome (Option LibraryDrive)) :=
  client.getOne LibraryDrive (itemPath "libdrives/" uuid)

/-- The details of drives by uuid, for the compute adapter. -/
def driveLookup : DriveLookup Session :=
  client.getDrive

/-! ## Firewall policies -/

def listFirewallPoliciesDetail : Session (Outcome (List FirewallPolicy)) :=
  client.getList FirewallPolicy (listPath "fwpolicies/detail/")

def getFirewallPolicy (uuid : String) : Session (Outcome (Option FirewallPolicy)) :=
  client.getOne FirewallPolicy (itemPath "fwpolicies/" uuid)

/-- A policy with its rules. A policy without rules may be a mere reference, and is
asked for if it has a uuid; any other is taken as it is. -/
def resolveFirewallPolicy (policy : FirewallPolicy) : Session (Outcome (Option FirewallPolicy)) :=
  match policy.uuid with
  | some uuid =>
    if policy.rules.isEmpty then client.getFirewallPolicy uuid else pure (.ok (some policy))
  | none => pure (.ok (some policy))

def createFirewallPolicy (policy : FirewallPolicy) : Session (Outcome (Option FirewallPolicy)) :=
  client.create "fwpolicies/" policy

def editFirewallPolicy (uuid : String) (policy : FirewallPolicy) :
    Session (Outcome (Option FirewallPolicy)) :=
  client.update (itemPath "fwpolicies/" uuid) policy

def deleteFirewallPolicy (uuid : String) : Session (Outcome Unit) :=
  client.delete (itemPath "fwpolicies/" uuid)

/-! ## VLANs and addresses -/

def listVlansDetail : Session (Outcome (List VlanInfo)) :=
  client.getList VlanInfo (listPath "vlans/detail/")

def getVlan (uuid : String) : Session (Outcome (Option VlanInfo)) :=
  client.getOne VlanInfo (itemPath "vlans/" uuid)

def editVlan (uuid : String) (vlan : VlanInfo) : Session (Outcome (Option VlanInfo)) :=
  client.update (itemPath "vlans/" uuid) vlan

def listIpsDetail : Session (Outcome (List IpInfo)) :=
  client.getList IpInfo (listPath "ips/detail/")

def getIp (uuid : String) : Session (Outcome (Option IpInfo)) :=
  client.getOne IpInfo (itemPath "ips/" uuid)

def editIp (uuid : String) (ip : IpInfo) : Session (Outcome (Option IpInfo)) :=
  client.update (itemPath "ips/" uuid) ip

/-! ## Tags -/

def listTagsDetail : Session (Outcome (List Tag)) :=
  client.getList Tag (listPath "tags/detail/")

def getTag (uuid : String) : Session (Outcome (Option Tag)) :=
  client.getOne Tag (itemPath "tags/" uuid)

def createTag (tag : Tag) : Session (Outcome (Option Tag)) :=
  client.create "tags/" tag

def editTag (uuid : String) (tag : Tag) : Session (Outcome (Option Tag)) :=
  client.update (itemPath "tags/" uuid) tag

def deleteTag (uuid : String) : Session (Outcome Unit) :=
  client.delete (itemPath "tags/" uuid)

/-- The servers that carry a tag. -/
def listTaggedServers (uuid : String) : Session (Outcome (List ServerInfo)) :=
  client.getList ServerInfo (listPath (itemPath "tags/" uuid ++ "servers/detail/"))

/-! ## Billing and account -/

def listSubscriptions : Session (Outcome (List Subscription)) :=
  client.getList Subscription (listPath "subscriptions/")

def getSubscription (id : String) : Session (Outcome (Option Subscription)) :=
  client.getOne Subscription (itemPath "subscriptions/" id)

def createSubscription (subscription : Subscription) : Session (Outcome (Option Subscription)) :=
  client.create "subscriptions/" subscription

def listPricing : Session (Outcome (List Pricing)) :=
  client.getList Pricing (listPath "pricing/")

def balance : Session (Outcome (Option Balance)) :=
  client.getOne Balance "balance/"

def currentUsage : Session (Outcome (Option AccountUsage)) :=
  client.getOne AccountUsage "currentusage/"

def listDiscounts : Session (Outcome (List Discount)) :=
  client.getList Discount "discount/"

def listTransactions : Session (Outcome (List Transaction)) :=
  client.getList Transaction (listPath "ledger/")

def listLicenses : Session (Outcome (List License)) :=
  client.getList License (listPath "licenses/")

def profile : Session (Outcome (Option ProfileInfo)) :=
  client.getOne ProfileInfo "profile/"

def editProfile (profile : ProfileInfo) : Session (Outcome (Option ProfileInfo)) :=
  client.update "profile/" profile

end CloudInventory.Client
