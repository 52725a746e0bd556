import CloudInventory.Resource.Allocation
import CloudInventory.Resource.Billing
import CloudInventory.Resource.DriveInfo
import CloudInventory.Resource.Profile
import CloudInventory.Resource.ServerInfo

/-!
# Tables of fields

The decoder of each type of resources as a table: which field of the record it takes, by
which rule the value of the field is converted, and which part of the resource it becomes.
The fields stand in the order in which the decoder evaluates them, so that the first fault
is that of the first faulty field. The rules are one definition for all types
(`Rule.convert`).
-/

namespace CloudInventory

/-! ## Types of resources -/

/-- The types of values that records are decoded into. -/
inductive ResourceType where
  | owner
  | resourceRef
  | drive
  | driveInfo
  | libraryDrive
  | license
  | driveLicense
  | server
  | serverInfo
  | serverDrive
  | serverRuntime
  | nic
  | nicStats
  | ioStats
  | ipConfiguration
  | firewallPolicy
  | firewallRule
  | vlan
  | vlanInfo
  | ip
  | ipInfo
  | tag
  | tagResource
  | subscription
  | pricing
  | balance
  | discount
  | transaction
  | accountUsage
  | usageRecord
  | profileInfo
  deriving DecidableEq, Repr

namespace ResourceType

/-- The values of a type. -/
@[reducible]
def Value : ResourceType → Type
  | owner => Owner
  | resourceRef => ResourceRef
  | drive => Drive
  | driveInfo => DriveInfo
  | libraryDrive => LibraryDrive
  | license => License
  | driveLicense => DriveLicense
  | server => Server
  | serverInfo => ServerInfo
  | serverDrive => ServerDrive
  | serverRuntime => ServerRuntime
  | nic => Nic
  | nicStats => NicStats
  | ioStats => IoStats
  | ipConfiguration => IpConfiguration
  | firewallPolicy => FirewallPolicy
  | firewallRule => FirewallRule
  | vlan => Vlan
  | vlanInfo => VlanInfo
  | ip => Ip
  | ipInfo => IpInfo
  | tag => Tag
  | tagResource => TagResource
  | subscription => Subscription
  | pricing => Pricing
  | balance => Balance
  | discount => Discount
  | transaction => Transaction
  | accountUsage => AccountUsage
  | usageRecord => UsageRecord
  | profileInfo => ProfileInfo

/-- The decoder of a type. -/
@[reducible]
instance resource : (type : ResourceType) → Resource type.Value
  | owner => inferInstanceAs (Resource Owner)
  | resourceRef => inferInstanceAs (Resource ResourceRef)
  | drive => inferInstanceAs (Resource Drive)
  | driveInfo => inferInstanceAs (Resource DriveInfo)
  | libraryDrive => inferInstanceAs (Resource LibraryDrive)
  | license => inferInstanceAs (Resource License)
  | driveLicense => inferInstanceAs (Resource DriveLicense)
  | server => inferInstanceAs (Resource Server)
  | serverInfo => inferInstanceAs (Resource ServerInfo)
  | serverDrive => inferInstanceAs (Resource ServerDrive)
  | serverRuntime => inferInstanceAs (Resource ServerRuntime)
  | nic => inferInstanceAs (Resource Nic)
  | nicStats => inferInstanceAs (Resource NicStats)
  | ioStats => inferInstanceAs (Resource IoStats)
  | ipConfiguration => inferInstanceAs (Resource IpConfiguration)
  | firewallPolicy => inferInstanceAs (Resource FirewallPolicy)
  | firewallRule => inferInstanceAs (Resource FirewallRule)
  | vlan => inferInstanceAs (Resource Vlan)
  | vlanInfo => inferInstanceAs (Resource VlanInfo)
  | ip => inferInstanceAs (Resource Ip)
  | ipInfo => inferInstanceAs (Resource IpInfo)
  | tag => inferInstanceAs (Resource Tag)
  | tagResource => inferInstanceAs (Resource TagResource)
  | subscription => inferInstanceAs (Resource Subscription)
  | pricing => inferInstanceAs (Resource Pricing)
  | balance => inferInstanceAs (Resource Balance)
  | discount => inferInstanceAs (Resource Discount)
  | transaction => inferInstanceAs (Resource Transaction)
  | accountUsage => inferInstanceAs (Resource AccountUsage)
  | usageRecord => inferInstanceAs (Resource UsageRecord)
  | profileInfo => inferInstanceAs (Resource ProfileInfo)

/-- The kind of the records of a type. -/
def kind (type : ResourceType) : RecordKind :=
  Resource.kind type.Value

/-- The value of a canonical record, or the first fault of its fields. -/
def convert (type : ResourceType) (record : Json) : Except DecodeError type.Value :=
  Resource.ofRecord record

end ResourceType

/-! ## Rules -/

/-- The integer types of bounded fields. -/
inductive IntegerType where
  | uint8
  | uint32
  | uint64
  | int32
  deriving DecidableEq, Repr

namespace IntegerType

@[reducible]
def Value : IntegerType → Type
  | uint8 => UInt8
  | uint32 => UInt32
  | uint64 => UInt64
  | int32 => Int32

@[reducible]
instance fixedWidth : (type : IntegerType) → FixedWidth type.Value
  | uint8 => inferInstanceAs (FixedWidth UInt8)
  | uint32 => inferInstanceAs (FixedWidth UInt32)
  | uint64 => inferInstanceAs (FixedWidth UInt64)
  | int32 => inferInstanceAs (FixedWidth Int32)

end IntegerType

/-- How the value of a field is converted. -/
inductive Rule : Type 1 where
  | text
  | flag
  /-- The text of a scalar, never rounded. -/
  | decimal
  | token (α : Type) [Vocabulary α]
  /-- The token of a labelled resource; the kind of a resource is never unset. -/
  | variant
  | instant
  | magnitude
  | integer (type : IntegerType)
  /-- A boot order; it is never unset either, but has a value that means so. -/
  | bootOrder
  | address
  | port
  | texts
  | metadata
  /-- A record inside the record. -/
  | record (type : ResourceType)
  /-- A list of records. -/
  | records (type : ResourceType)
  /-- Records under any keys. -/
  | table (type : ResourceType)

namespace Rule

/-- What a field is converted into. -/
@[reducible]
def Value : Rule → Type
  | text => Option String
  | flag => Option Bool
  | decimal => Option String
  | token α => Option α
  | variant => TagResourceType
  | instant => Option Instant
  | magnitude => Option Magnitude
  | integer type => Option type.Value
  | bootOrder => Int32
  | address => Option AddressMatch
  | port => Option PortRange
  | texts => List String
  | metadata => Meta
  | record type => Option type.Value
  | records type => List type.Value
  | table type => Dictionary type.Value

/-- The value of a field; `none` is a field that the record does not have. -/
def convert (key : String) : (rule : Rule) → Option Json → Except DecodeError rule.Value
  | text, json => pure (json.bind Json.text?)
  | flag, json => pure (json.bind Json.flag?)
  | decimal, json => pure ((json.bind Scalar.ofJson?).map Scalar.plainText)
  | token _, json => pure ((json.bind Json.text?).map Token.ofText)
  | variant, json => pure (((json.bind Json.text?).map Token.ofText).getD .unrecognized)
  | instant, json => (json.bind Json.text?).mapM Instant.decode
  | magnitude, json => (json.bind Scalar.ofJson?).mapM Magnitude.ofScalar
  | integer type, json => (json.bind Scalar.ofJson?).mapM (Scalar.toBounded type.Value key)
  | bootOrder, json =>
    (·.getD bootOrderUnset) <$> (json.bind Scalar.ofJson?).mapM (Scalar.toBounded Int32 key)
  | address, json => AddressMatch.decode (json.bind Json.text?)
  | port, json => PortRange.decode (json.bind Scalar.ofJson?)
  | texts, json => pure (((json.map Json.items).getD []).filterMap Json.text?)
  | metadata, json => pure (.ofMembers ((json.map Json.members).getD []))
  | record type, json => json.mapM type.convert
  | records type, json => ((json.map Json.items).getD []).mapM type.convert
  | table type, json =>
    .ofList <$> ((json.map Json.members).getD []).mapM fun (key, json) =>
      (type.convert json).map (key, ·)

/-- Whether a rule is for values of a shape. -/
def Fits : Rule → Shape → Prop
  | text, shape => shape = .text
  | flag, shape => shape = .flag
  | decimal, shape => shape = .scalar
  | token _, shape => shape = .text
  | variant, shape => shape = .text
  | instant, shape => shape = .text
  | magnitude, shape => shape = .scalar
  | integer _, shape => shape = .scalar
  | bootOrder, shape => shape = .scalar
  | address, shape => shape = .text
  | port, shape => shape = .scalar
  | texts, shape => shape = .list .text
  | metadata, shape => shape = .freeform
  | record type, shape => shape = .record type.kind ∨ shape = .reference type.kind
  | records type, shape =>
    shape = .list (.record type.kind) ∨ shape = .list (.reference type.kind)
  | table type, shape => shape = .table type.kind

instance : (rule : Rule) → (shape : Shape) → Decidable (rule.Fits shape)
  | text, _ | flag, _ | decimal, _ | token _, _ | variant, _ | instant, _ | magnitude, _
  | integer _, _ | bootOrder, _ | address, _ | port, _ | texts, _ | metadata, _ | table _, _ =>
    inferInstanceAs (Decidable (_ = _))
  | record _, _ | records _, _ => inferInstanceAs (Decidable (_ ∨ _))

end Rule

/-! ## Fields -/

/-- A field of the records of a type. -/
structure Field (α : Type) : Type 1 where
  /-- The key in the record. -/
  key : String
  rule : Rule
  /-- The part of the resource that the field becomes. -/
  value : α → rule.Value

namespace Field

variable {α β : Type}

/-- A field of a part of the resource. -/
def comap (field : Field β) (part : α → β) : Field α :=
  ⟨field.key, field.rule, fun x => field.value (part x)⟩

/-- What a field is converted into, for a canonical record. -/
def convert (field : Field α) (record : Json) : Except DecodeError field.rule.Value :=
  field.rule.convert field.key (record.member? field.key)

/-- Values for all fields of a table. -/
def Values : List (Field α) → Type
  | [] => Unit
  | field :: fields => field.rule.Value × Values fields

/-- The parts of a resource. -/
def values (x : α) : (fields : List (Field α)) → Values fields
  | [] => ()
  | field :: fields => (field.value x, values x fields)

/-- The fields are converted one after the other, and the first fault ends it. -/
def convertAll (record : Json) : (fields : List (Field α)) → Except DecodeError (Values fields)
  | [] => pure ()
  | field :: fields => do
    let first ← field.convert record
    let rest ← convertAll record fields
    pure (first, rest)

end Field

/-! ## The tables -/

/-- The owner of a labelled resource. -/
def TagResource.owner : TagResource → Option Owner
  | .server x => x.owner
  | .drive x => x.owner
  | .ip x => x.owner
  | .vlan x => x.owner
  | .unrecognized x => x.owner

namespace ResourceType

def ownerFields : List (Field Owner) := [
  ⟨"uuid", .text, Owner.uuid⟩,
  ⟨"resource_uri", .text, Owner.resourceUri⟩,
  ⟨"email", .text, Owner.email⟩]

def resourceRefFields : List (Field ResourceRef) := [
  ⟨"uuid", .text, ResourceRef.uuid⟩,
  ⟨"resource_uri", .text, ResourceRef.resourceUri⟩,
  ⟨"owner", .record .owner, ResourceRef.owner⟩]

def driveFields : List (Field Drive) := [
  ⟨"uuid", .text, Drive.uuid⟩,
  ⟨"resource_uri", .text, Drive.resourceUri⟩,
  ⟨"owner", .record .owner, Drive.owner⟩,
  ⟨"status", .token DriveStatus, Drive.status⟩]

def driveInfoFields : List (Field DriveInfo) :=
  driveFields.map (·.comap DriveInfo.drive) ++ [
    ⟨"name", .text, DriveInfo.name⟩,
    ⟨"size", .magnitude, DriveInfo.size⟩,
    ⟨"media", .token MediaType, DriveInfo.media⟩,
    ⟨"allow_multimount", .flag, DriveInfo.allowMultimount⟩,
    ⟨"storage_type", .text, DriveInfo.storageType⟩,
    ⟨"affinities", .texts, DriveInfo.affinities⟩,
    ⟨"licenses", .records .driveLicense, DriveInfo.licenses⟩,
    ⟨"mounted_on", .records .server, DriveInfo.mountedOn⟩,
    ⟨"tags", .records .tag, DriveInfo.tags⟩,
    ⟨"meta", .metadata, DriveInfo.metadata⟩]

def libraryDriveFields : List (Field LibraryDrive) :=
  driveInfoFields.map (·.comap LibraryDrive.info) ++ [
    ⟨"arch", .text, LibraryDrive.arch⟩,
    ⟨"category", .texts, LibraryDrive.category⟩,
    ⟨"description", .text, LibraryDrive.description⟩,
    ⟨"favorite", .flag, LibraryDrive.favorite⟩,
    ⟨"image_type", .token ImageType, LibraryDrive.imageType⟩,
    ⟨"install_notes", .text, LibraryDrive.installNotes⟩,
    ⟨"os", .text, LibraryDrive.os⟩,
    ⟨"paid", .flag, LibraryDrive.paid⟩,
    ⟨"url", .text, LibraryDrive.url⟩]

def licenseFields : List (Field License) := [
  ⟨"burstable", .flag, License.burstable⟩,
  ⟨"long_name", .text, License.longName⟩,
  ⟨"name", .text, License.name⟩,
  ⟨"resource_uri", .text, License.resourceUri⟩,
  ⟨"type", .text, License.licenseType⟩,
  ⟨"user_metric", .text, License.userMetric⟩]

def driveLicenseFields : List (Field DriveLicense) := [
  ⟨"amount", .magnitude, DriveLicense.amount⟩,
  ⟨"license", .record .license, DriveLicense.license⟩,
  ⟨"user", .record .owner, DriveLicense.user⟩]

def serverFields : List (Field Server) := [
  ⟨"uuid", .text, Server.uuid⟩,
  ⟨"resource_uri", .text, Server.resourceUri⟩,
  ⟨"owner", .record .owner, Server.owner⟩,
  ⟨"name", .text, Server.name⟩,
  ⟨"status", .token ServerStatus, Server.status⟩,
  ⟨"runtime", .record .serverRuntime, Server.runtime⟩]

def serverInfoFields : List (Field ServerInfo) :=
  serverFields.map (·.comap ServerInfo.server) ++ [
    ⟨"cpu", .integer .uint32, ServerInfo.cpu⟩,
    ⟨"cpus_instead_of_cores", .flag, ServerInfo.cpusInsteadOfCores⟩,
    ⟨"smp", .integer .uint32, ServerInfo.smp⟩,
    ⟨"mem", .magnitude, ServerInfo.memory⟩,
    ⟨"enable_numa", .flag, ServerInfo.enableNuma⟩,
    ⟨"hv_relaxed", .flag, ServerInfo.hvRelaxed⟩,
    ⟨"hv_tsc", .flag, ServerInfo.hvTsc⟩,
    ⟨"context", .flag, ServerInfo.context⟩,
    ⟨"vnc_password", .text, ServerInfo.vncPassword⟩,
    ⟨"drives", .records .serverDrive, ServerInfo.drives⟩,
    ⟨"nics", .records .nic, ServerInfo.nics⟩,
    ⟨"requirements", .texts, ServerInfo.requirements⟩,
    ⟨"tags", .records .tag, ServerInfo.tags⟩,
    ⟨"meta", .metadata, ServerInfo.metadata⟩]

/-- The drive comes before the boot order, as in the decoder. -/
def serverDriveFields : List (Field ServerDrive) := [
  ⟨"drive", .record .drive, ServerDrive.drive⟩,
  ⟨"boot_order", .bootOrder, ServerDrive.bootOrder⟩,
  ⟨"dev_channel", .text, ServerDrive.deviceChannel⟩,
  ⟨"device", .token DeviceEmulationType, ServerDrive.deviceEmulationType⟩]

def serverRuntimeFields : List (Field ServerRuntime) := [
  ⟨"active_since", .instant, ServerRuntime.activeSince⟩,
  ⟨"nics", .records .nicStats, ServerRuntime.nics⟩,
  ⟨"status", .token ServerStatus, ServerRuntime.status⟩]

def nicFields : List (Field Nic) := [
  ⟨"boot_order", .bootOrder, Nic.bootOrder⟩,
  ⟨"firewall_policy", .record .firewallPolicy, Nic.firewallPolicy⟩,
  ⟨"ip_v4_conf", .record .ipConfiguration, Nic.ipv4Configuration⟩,
  ⟨"ip_v6_conf", .record .ipConfiguration, Nic.ipv6Configuration⟩,
  ⟨"mac", .text, Nic.mac⟩,
  ⟨"model", .token NicModel, Nic.model⟩,
  ⟨"runtime", .record .nicStats, Nic.runtime⟩,
  ⟨"vlan", .record .vlan, Nic.vlan⟩]

def nicStatsFields : List (Field NicStats) := [
  ⟨"interface_type", .token InterfaceType, NicStats.interfaceType⟩,
  ⟨"io", .record .ioStats, NicStats.io⟩,
  ⟨"ip_v4", .record .ip, NicStats.ipv4⟩,
  ⟨"ip_v6", .record .ip, NicStats.ipv6⟩,
  ⟨"mac", .text, NicStats.mac⟩]

def ioStatsFields : List (Field IoStats) := [
  ⟨"bytes_recv", .magnitude, IoStats.bytesReceived⟩,
  ⟨"bytes_sent", .magnitude, IoStats.bytesSent⟩,
  ⟨"packets_recv", .magnitude, IoStats.packetsReceived⟩,
  ⟨"packets_sent", .magnitude, IoStats.packetsSent⟩]

def ipConfigurationFields : List (Field IpConfiguration) := [
  ⟨"conf", .token IpConfigurationType, IpConfiguration.configurationType⟩,
  ⟨"ip", .record .ip, IpConfiguration.ip⟩]

def firewallPolicyFields : List (Field FirewallPolicy) := [
  ⟨"uuid", .text, FirewallPolicy.uuid⟩,
  ⟨"resource_uri", .text, FirewallPolicy.resourceUri⟩,
  ⟨"owner", .record .owner, FirewallPolicy.owner⟩,
  ⟨"name", .text, FirewallPolicy.name⟩,
  ⟨"rules", .records .firewallRule, FirewallPolicy.rules⟩,
  ⟨"servers", .records .server, FirewallPolicy.servers⟩,
  ⟨"tags", .records .tag, FirewallPolicy.tags⟩,
  ⟨"meta", .metadata, FirewallPolicy.metadata⟩]

def firewallRuleFields : List (Field FirewallRule) := [
  ⟨"action", .token FirewallAction, FirewallRule.action⟩,
  ⟨"comment", .text, FirewallRule.comment⟩,
  ⟨"direction", .token FirewallDirection, FirewallRule.direction⟩,
  ⟨"ip_proto", .token FirewallIpProtocol, FirewallRule.ipProtocol⟩,
  ⟨"src_ip", .address, FirewallRule.sourceIp⟩,
  ⟨"src_port", .port, FirewallRule.sourcePort⟩,
  ⟨"dst_ip", .address, FirewallRule.destinationIp⟩,
  ⟨"dst_port", .port, FirewallRule.destinationPort⟩]

def vlanFields : List (Field Vlan) := [
  ⟨"uuid", .text, Vlan.uuid⟩,
  ⟨"resource_uri", .text, Vlan.resourceUri⟩,
  ⟨"owner", .record .owner, Vlan.owner⟩]

def vlanInfoFields : List (Field VlanInfo) :=
  vlanFields.map (·.comap VlanInfo.vlan) ++ [
    ⟨"servers", .records .server, VlanInfo.servers⟩,
    ⟨"subscription", .record .subscription, VlanInfo.subscription⟩,
    ⟨"tags", .records .tag, VlanInfo.tags⟩,
    ⟨"meta", .metadata, VlanInfo.metadata⟩]

def ipFields : List (Field Ip) := [
  ⟨"uuid", .text, Ip.uuid⟩,
  ⟨"resource_uri", .text, Ip.resourceUri⟩,
  ⟨"owner", .record .owner, Ip.owner⟩,
  ⟨"server", .record .server, Ip.server⟩]

def ipInfoFields : List (Field IpInfo) :=
  ipFields.map (·.comap IpInfo.ip) ++ [
    ⟨"gateway", .text, IpInfo.gateway⟩,
    ⟨"nameservers", .texts, IpInfo.nameservers⟩,
    ⟨"netmask", .integer .uint8, IpInfo.netmask⟩,
    ⟨"subscription", .record .subscription, IpInfo.subscription⟩,
    ⟨"tags", .records .tag, IpInfo.tags⟩,
    ⟨"meta", .metadata, IpInfo.metadata⟩]

def tagFields : List (Field Tag) := [
  ⟨"uuid", .text, Tag.uuid⟩,
  ⟨"resource_uri", .text, Tag.resourceUri⟩,
  ⟨"owner", .record .owner, Tag.owner⟩,
  ⟨"name", .text, Tag.name⟩,
  ⟨"resources", .records .tagResource, Tag.resources⟩,
  ⟨"meta", .metadata, Tag.metadata⟩]

def tagResourceFields : List (Field TagResource) := [
  ⟨"uuid", .text, TagResource.uuid⟩,
  ⟨"resource_uri", .text, TagResource.resourceUri⟩,
  ⟨"owner", .record .owner, TagResource.owner⟩,
  ⟨"res_type", .variant, TagResource.type⟩]

def subscriptionFields : List (Field Subscription) := [
  ⟨"id", .decimal, Subscription.id⟩,
  ⟨"uuid", .text, Subscription.uuid⟩,
  ⟨"resource_uri", .text, Subscription.resourceUri⟩,
  ⟨"amount", .magnitude, Subscription.amount⟩,
  ⟨"auto_renew", .flag, Subscription.autoRenew⟩,
  ⟨"descendants", .records .subscription, Subscription.descendants⟩,
  ⟨"discount_amount", .decimal, Subscription.discountAmount⟩,
  ⟨"discount_percent", .decimal, Subscription.discountPercent⟩,
  ⟨"start_time", .instant, Subscription.startTime⟩,
  ⟨"end_time", .instant, Subscription.endTime⟩,
  ⟨"last_notification", .instant, Subscription.lastNotification⟩,
  ⟨"period", .text, Subscription.period⟩,
  ⟨"price", .decimal, Subscription.price⟩,
  ⟨"remaining", .magnitude, Subscription.remaining⟩,
  ⟨"resource", .token SubscriptionResource, Subscription.resource⟩,
  ⟨"status", .token SubscriptionStatus, Subscription.status⟩,
  ⟨"subscribed_object", .text, Subscription.subscribedObject⟩]

def pricingFields : List (Field Pricing) := [
  ⟨"id", .decimal, Pricing.id⟩,
  ⟨"currency", .text, Pricing.currency⟩,
  ⟨"level", .integer .uint32, Pricing.level⟩,
  ⟨"multiplier", .magnitude, Pricing.multiplier⟩,
  ⟨"price", .decimal, Pricing.price⟩,
  ⟨"resource", .token SubscriptionResource, Pricing.resource⟩,
  ⟨"unit", .text, Pricing.unit⟩]

def balanceFields : List (Field Balance) := [
  ⟨"balance", .decimal, Balance.balance⟩,
  ⟨"currency", .text, Balance.currency⟩]

def discountFields : List (Field Discount) := [
  ⟨"period", .text, Discount.period⟩,
  ⟨"value", .decimal, Discount.value⟩]

def transactionFields : List (Field Transaction) := [
  ⟨"id", .decimal, Transaction.id⟩,
  ⟨"amount", .decimal, Transaction.amount⟩,
  ⟨"billing_cycle", .integer .uint64, Transaction.billingCycle⟩,
  ⟨"initial", .decimal, Transaction.initial⟩,
  ⟨"reason", .text, Transaction.reason⟩,
  ⟨"start", .instant, Transaction.start⟩,
  ⟨"end", .instant, Transaction.finish⟩,
  ⟨"time", .instant, Transaction.time⟩]

/-- The table of usage comes before the balance, as in the decoder. -/
def accountUsageFields : List (Field AccountUsage) := [
  ⟨"usage", .table .usageRecord, AccountUsage.usage⟩,
  ⟨"balance", .record .balance, AccountUsage.balance⟩]

def usageRecordFields : List (Field UsageRecord) := [
  ⟨"burst", .magnitude, UsageRecord.burst⟩,
  ⟨"subscribed", .magnitude, UsageRecord.subscribed⟩,
  ⟨"using", .magnitude, UsageRecord.inUse⟩]

def profileInfoFields : List (Field ProfileInfo) := [
  ⟨"uuid", .text, ProfileInfo.uuid⟩,
  ⟨"resource_uri", .text, ProfileInfo.resourceUri⟩,
  ⟨"email", .text, ProfileInfo.email⟩,
  ⟨"first_name", .text, ProfileInfo.firstName⟩,
  ⟨"last_name", .text, ProfileInfo.lastName⟩,
  ⟨"nickname", .text, ProfileInfo.nickname⟩,
  ⟨"title", .text, ProfileInfo.title⟩,
  ⟨"company", .text, ProfileInfo.company⟩,
  ⟨"address", .text, ProfileInfo.address⟩,
  ⟨"town", .text, ProfileInfo.town⟩,
  ⟨"postcode", .text, ProfileInfo.postcode⟩,
  ⟨"state", .text, ProfileInfo.state⟩,
  ⟨"country", .text, ProfileInfo.country⟩,
  ⟨"phone", .text, ProfileInfo.phone⟩,
  ⟨"vat", .text, ProfileInfo.vat⟩,
  ⟨"bank_reference", .text, ProfileInfo.bankReference⟩,
  ⟨"currency", .text, ProfileInfo.currency⟩,
  ⟨"language", .text, ProfileInfo.language⟩,
  ⟨"reseller", .text, ProfileInfo.reseller⟩,
  ⟨"my_notes", .text, ProfileInfo.myNotes⟩,
  ⟨"api_https_only", .flag, ProfileInfo.apiHttpsOnly⟩,
  ⟨"key_auth", .flag, ProfileInfo.keyAuth⟩,
  ⟨"mailing_list", .flag, ProfileInfo.mailingList⟩,
  ⟨"autotopup_amount", .decimal, ProfileInfo.autotopupAmount⟩,
  ⟨"autotopup_threshold", .decimal, ProfileInfo.autotopupThreshold⟩,
  ⟨"signup_time", .instant, ProfileInfo.signupTime⟩,
  ⟨"meta", .metadata, ProfileInfo.metadata⟩]

/-- The fields of a type in the order in which its decoder evaluates them. -/
@[reducible]
def fields : (type : ResourceType) → List (Field type.Value)
  | owner => ownerFields
  | resourceRef => resourceRefFields
  | drive => driveFields
  | driveInfo => driveInfoFields
  | libraryDrive => libraryDriveFields
  | license => licenseFields
  | driveLicense => driveLicenseFields
  | server => serverFields
  | serverInfo => serverInfoFields
  | serverDrive => serverDriveFields
  | serverRuntime => serverRuntimeFields
  | nic => nicFields
  | nicStats => nicStatsFields
  | ioStats => ioStatsFields
  | ipConfiguration => ipConfigurationFields
  | firewallPolicy => firewallPolicyFields
  | firewallRule => firewallRuleFields
  | vlan => vlanFields
  | vlanInfo => vlanInfoFields
  | ip => ipFields
  | ipInfo => ipInfoFields
  | tag => tagFields
  | tagResource => tagResourceFields
  | subscription => subscriptionFields
  | pricing => pricingFields
  | balance => balanceFields
  | discount => discountFields
  | transaction => transactionFields
  | accountUsage => accountUsageFields
  | usageRecord => usageRecordFields
  | profileInfo => profileInfoFields

/-- How the parts of a resource that have no field of their own follow from the others: the
uuid of an attached drive is that of its record, and a labelled resource has nothing but its
identity and its kind. -/
def Derived : (type : ResourceType) → type.Value → Prop
  | serverDrive, x => x.driveUuid = x.drive.bind Drive.uuid
  | tagResource, x =>
    x = .ofIdentity { uuid := x.uuid, resourceUri := x.resourceUri, owner := x.owner } (some x.type)
  | _, _ => True

end ResourceType

end CloudInventory
