import CloudInventory.Request.Server
import CloudInventory.Proofs.Request.ResourceBodies

/-!
# Reading back the bodies of servers

A body of a server holds the bodies of its drives and interfaces, and these hold
identifiers of further resources. Each level is read back by its own law, and the
lists by the law of their items.

Results:
1. Instances of `ReadsBack` for attached drives, address configurations, interfaces
   and servers.
2. `requestBody_stable`: every body is read back as a value with the same body, and
   sizes and boot orders come back as they were.
-/

namespace CloudInventory

/-! ## Bare identifiers -/

theorem Drive.ofRecord_ofIdentifier (id : String) :
    Drive.ofRecord (RecordKind.drive.ofIdentifier (.text id)) = .ok { uuid := some id } := rfl

theorem Vlan.ofRecord_ofIdentifier (id : String) :
    Vlan.ofRecord (RecordKind.vlan.ofIdentifier (.text id)) = .ok { uuid := some id } := rfl

theorem FirewallPolicy.ofRecord_ofIdentifier (id : String) :
    FirewallPolicy.ofRecord (RecordKind.firewallPolicy.ofIdentifier (.text id)) =
      .ok { uuid := some id } := rfl

theorem Ip.ofRecord_ofIdentifier (id : String) :
    Ip.ofRecord (RecordKind.ip.ofIdentifier (.text id)) = .ok { uuid := some id } := by
  -- An address may hold a server, so its decoder is recursive and does not unfold by itself.
  have server : (RecordKind.ip.ofIdentifier (.text id)).child? "server" = none :=
    Json.child?_of_absent rfl
  rw [ofRecord, server]
  rfl

/-! ## Boot orders -/

theorem Shape.Reads.bootOrder (value : Int32) :
    Shape.scalar.Reads (Member.bootOrder value) (Member.bootOrder value) := by
  rw [Member.bootOrder]
  split
  · exact .absent
  · exact .present rfl

/-- A boot order comes back; the one that is not sent is the default. -/
theorem Json.bootOrderField_of_bootOrder {record : Json} {key : String} {value : Int32}
    (found : record.member? key = Member.bootOrder value) :
    ∃ sent, record.boundedField Int32 key = .ok sent ∧ sent.getD bootOrderUnset = value := by
  rw [Member.bootOrder] at found
  by_cases unset : value = bootOrderUnset
  · rw [if_pos unset] at found
    exact ⟨none, boundedField_of_absent found, unset.symm⟩
  · rw [if_neg unset] at found
    have number : record.member? key = Member.number .ofInt32 (some value) := found
    exact ⟨some value, boundedField_of_number number (Scalar.toBounded_ofInt32 key), rfl⟩

/-! ## Attached drives -/

namespace ServerDrive

def canonicalFields (x : ServerDrive) : List (String × Option Json) := [
  ("boot_order", Member.bootOrder x.bootOrder),
  ("dev_channel", Member.text x.deviceChannel),
  ("device", Member.token x.deviceEmulationType),
  ("drive", Member.record .drive x.attachedUuid)]

def asSent (x : ServerDrive) : ServerDrive where
  bootOrder := x.bootOrder
  deviceChannel := x.deviceChannel
  deviceEmulationType := x.deviceEmulationType.filter Token.isRecognized
  driveUuid := x.attachedUuid
  drive := x.attachedUuid.map fun id => { uuid := some id }

theorem read_requestBody (x : ServerDrive) :
    RecordKind.serverDrive.read (Sendable.requestBody x) = .ok (.ofFields x.canonicalFields) := by
  refine RecordKind.read_ofFields ?_
  exact .cons (.intro rfl (.bootOrder _)) <|
    .cons (.intro rfl (.text _)) <|
    .cons (.intro rfl (.token _)) <|
    .cons (.intro rfl (.identifier .drive _)) .nil

theorem ofRecord_eq (x : ServerDrive) (record : Json)
    (found : record.HasFields x.canonicalFields) : ofRecord record = .ok x.asSent := by
  obtain ⟨sent, bootOrder, same⟩ := Json.bootOrderField_of_bootOrder (found "boot_order")
  have deviceChannel : record.textField "dev_channel" = x.deviceChannel :=
    Json.textField_of_text (found "dev_channel")
  have device : record.tokenField "device" = x.deviceEmulationType.filter Token.isRecognized :=
    Json.tokenField_of_token (found "device")
  have drive : record.recordField Drive.ofRecord "drive" = .ok x.asSent.drive :=
    Json.recordField_of_map (found "drive") Drive.ofRecord_ofIdentifier
  have driveUuid : x.asSent.drive.bind Drive.uuid = x.attachedUuid :=
    bind_identifier_map (fun _ => by rfl) x.attachedUuid
  simp only [ofRecord, drive, bootOrder, deviceChannel, device]
  show Except.ok _ = _
  rw [same, driveUuid]
  rfl

theorem requestBody_asSent (x : ServerDrive) :
    Sendable.requestBody x.asSent = Sendable.requestBody x := by
  have attached : x.asSent.attachedUuid = x.attachedUuid := by
    have identifier : x.asSent.drive.bind Drive.uuid = x.attachedUuid :=
      bind_identifier_map (fun _ => by rfl) x.attachedUuid
    rw [attachedUuid, identifier]
    exact Option.or_self
  simp only [Sendable.requestBody, attached]
  simp only [asSent, Member.token_filter]

instance : ReadsBack ServerDrive where
  canonicalFields := canonicalFields
  asSent := asSent
  distinct x := by simp [canonicalFields]
  read_requestBody := read_requestBody
  ofRecord_eq := ofRecord_eq
  requestBody_asSent := requestBody_asSent

end ServerDrive

/-! ## Interfaces -/

namespace IpConfiguration

def canonicalFields (x : IpConfiguration) : List (String × Option Json) := [
  ("conf", Member.token x.configurationType),
  ("ip", Member.record .ip (x.ip.bind Ip.uuid))]

def asSent (x : IpConfiguration) : IpConfiguration where
  configurationType := x.configurationType.filter Token.isRecognized
  ip := (x.ip.bind Ip.uuid).map fun id => { uuid := some id }

theorem read_requestBody (x : IpConfiguration) :
    RecordKind.ipConfiguration.read (Sendable.requestBody x) =
      .ok (.ofFields x.canonicalFields) := by
  refine RecordKind.read_ofFields ?_
  exact .cons (.intro rfl (.token _)) <|
    .cons (.intro rfl (.identifier .ip _)) .nil

theorem ofRecord_eq (x : IpConfiguration) (record : Json)
    (found : record.HasFields x.canonicalFields) : ofRecord record = .ok x.asSent := by
  have configurationType : record.tokenField "conf" =
      x.configurationType.filter Token.isRecognized := Json.tokenField_of_token (found "conf")
  have ip : record.recordField Ip.ofRecord "ip" = .ok x.asSent.ip :=
    Json.recordField_of_map (found "ip") Ip.ofRecord_ofIdentifier
  simp only [ofRecord, configurationType, ip]
  rfl

theorem requestBody_asSent (x : IpConfiguration) :
    Sendable.requestBody x.asSent = Sendable.requestBody x := by
  have uuid : x.asSent.ip.bind Ip.uuid = x.ip.bind Ip.uuid :=
    bind_identifier_map (fun _ => by rfl) _
  simp only [Sendable.requestBody, uuid]
  simp only [asSent, Member.token_filter]

instance : ReadsBack IpConfiguration where
  canonicalFields := canonicalFields
  asSent := asSent
  distinct x := by simp [canonicalFields]
  read_requestBody := read_requestBody
  ofRecord_eq := ofRecord_eq
  requestBody_asSent := requestBody_asSent

end IpConfiguration

namespace Nic

def canonicalFields (x : Nic) : List (String × Option Json) := [
  ("boot_order", Member.bootOrder x.bootOrder),
  ("firewall_policy", Member.record .firewallPolicy (x.firewallPolicy.bind FirewallPolicy.uuid)),
  ("ip_v4_conf", x.ipv4Configuration.map fun ip => .ofFields ip.canonicalFields),
  ("ip_v6_conf", x.ipv6Configuration.map fun ip => .ofFields ip.canonicalFields),
  ("mac", Member.text x.mac),
  ("model", Member.token x.model),
  ("vlan", Member.record .vlan (x.vlan.bind Vlan.uuid))]

def asSent (x : Nic) : Nic where
  bootOrder := x.bootOrder
  firewallPolicy := (x.firewallPolicy.bind FirewallPolicy.uuid).map fun id => { uuid := some id }
  ipv4Configuration := x.ipv4Configuration.map IpConfiguration.asSent
  ipv6Configuration := x.ipv6Configuration.map IpConfiguration.asSent
  mac := x.mac
  model := x.model.filter Token.isRecognized
  vlan := (x.vlan.bind Vlan.uuid).map fun id => { uuid := some id }

theorem read_requestBody (x : Nic) :
    RecordKind.nic.read (Sendable.requestBody x) = .ok (.ofFields x.canonicalFields) := by
  refine RecordKind.read_ofFields ?_
  exact .cons (.intro rfl (.bootOrder _)) <|
    .cons (.intro rfl (.identifier .firewallPolicy _)) <|
    .cons (.intro rfl (.map IpConfiguration.read_requestBody _)) <|
    .cons (.intro rfl (.map IpConfiguration.read_requestBody _)) <|
    .cons (.intro rfl (.text _)) <|
    .cons (.intro rfl (.token _)) <|
    .cons (.intro rfl (.identifier .vlan _)) .nil

theorem ofRecord_eq (x : Nic) (record : Json) (found : record.HasFields x.canonicalFields) :
    ofRecord record = .ok x.asSent := by
  obtain ⟨sent, bootOrder, same⟩ := Json.bootOrderField_of_bootOrder (found "boot_order")
  have firewallPolicy : record.recordField FirewallPolicy.ofRecord "firewall_policy" =
      .ok x.asSent.firewallPolicy :=
    Json.recordField_of_map (found "firewall_policy") FirewallPolicy.ofRecord_ofIdentifier
  have ipv4Configuration : record.recordField IpConfiguration.ofRecord "ip_v4_conf" =
      .ok x.asSent.ipv4Configuration :=
    Json.recordField_of_map (found "ip_v4_conf") ReadsBack.ofRecord_canonicalFields
  have ipv6Configuration : record.recordField IpConfiguration.ofRecord "ip_v6_conf" =
      .ok x.asSent.ipv6Configuration :=
    Json.recordField_of_map (found "ip_v6_conf") ReadsBack.ofRecord_canonicalFields
  have mac : record.textField "mac" = x.mac := Json.textField_of_text (found "mac")
  have model : record.tokenField "model" = x.model.filter Token.isRecognized :=
    Json.tokenField_of_token (found "model")
  have runtime : record.recordField NicStats.ofRecord "runtime" = .ok none :=
    Json.recordField_of_absent (found "runtime")
  have vlan : record.recordField Vlan.ofRecord "vlan" = .ok x.asSent.vlan :=
    Json.recordField_of_map (found "vlan") Vlan.ofRecord_ofIdentifier
  simp only [ofRecord, bootOrder, firewallPolicy, ipv4Configuration, ipv6Configuration, mac,
    model, runtime, vlan]
  show Except.ok _ = _
  rw [same]
  rfl

theorem requestBody_eq (x : Nic) : Sendable.requestBody x = .ofFields [
    ("boot_order", Member.bootOrder x.bootOrder),
    ("firewall_policy", Member.text (x.firewallPolicy.bind FirewallPolicy.uuid)),
    ("ip_v4_conf", x.ipv4Configuration.map Sendable.requestBody),
    ("ip_v6_conf", x.ipv6Configuration.map Sendable.requestBody),
    ("mac", Member.text x.mac),
    ("model", Member.token x.model),
    ("vlan", Member.text (x.vlan.bind Vlan.uuid))] := rfl

theorem requestBody_asSent (x : Nic) : Sendable.requestBody x.asSent = Sendable.requestBody x := by
  have policy : x.asSent.firewallPolicy.bind FirewallPolicy.uuid =
      x.firewallPolicy.bind FirewallPolicy.uuid := bind_identifier_map (fun _ => by rfl) _
  have ipv4 : x.asSent.ipv4Configuration.map Sendable.requestBody =
      x.ipv4Configuration.map Sendable.requestBody := ReadsBack.map_requestBody_asSent _
  have ipv6 : x.asSent.ipv6Configuration.map Sendable.requestBody =
      x.ipv6Configuration.map Sendable.requestBody := ReadsBack.map_requestBody_asSent _
  have model : Member.token x.asSent.model = Member.token x.model := Member.token_filter _
  have vlan : x.asSent.vlan.bind Vlan.uuid = x.vlan.bind Vlan.uuid :=
    bind_identifier_map (fun _ => by rfl) _
  rw [requestBody_eq, policy, ipv4, ipv6, model, vlan]
  rfl

instance : ReadsBack Nic where
  canonicalFields := canonicalFields
  asSent := asSent
  distinct x := by simp [canonicalFields]
  read_requestBody := read_requestBody
  ofRecord_eq := ofRecord_eq
  requestBody_asSent := requestBody_asSent

end Nic

/-! ## Servers -/

theorem Server.ofRecord_of_name {record : Json} {name : Option String}
    (named : record.textField "name" = name) (uuid : record.member? "uuid" = none)
    (resourceUri : record.member? "resource_uri" = none) (owner : record.member? "owner" = none)
    (status : record.member? "status" = none) (runtime : record.member? "runtime" = none) :
    Server.ofRecord record = .ok { name } := by
  have noUuid : record.textField "uuid" = none := Json.textField_of_text uuid
  have noUri : record.textField "resource_uri" = none := Json.textField_of_text resourceUri
  have noOwner : record.recordField Owner.ofRecord "owner" = .ok none :=
    Json.recordField_of_absent owner
  have noStatus : record.tokenField (α := ServerStatus) "status" = none :=
    Json.tokenField_of_absent status
  rw [ofRecord]
  simp only [noUuid, noUri, noOwner, named, noStatus, Json.child?_of_absent runtime]
  rfl

namespace ServerInfo

def canonicalFields (x : ServerInfo) : List (String × Option Json) := [
  ("name", Member.text x.name),
  ("cpu", Member.number .ofUInt32 x.cpu),
  ("smp", Member.number .ofUInt32 x.smp),
  ("mem", Member.magnitude x.memory),
  ("cpus_instead_of_cores", Member.flag x.cpusInsteadOfCores),
  ("enable_numa", Member.flag x.enableNuma),
  ("hv_relaxed", Member.flag x.hvRelaxed),
  ("hv_tsc", Member.flag x.hvTsc),
  ("vnc_password", Member.text x.vncPassword),
  ("drives", Member.list (fun drive => .ofFields drive.canonicalFields) x.drives),
  ("nics", Member.list (fun nic => .ofFields nic.canonicalFields) x.nics),
  ("requirements", Member.texts x.requirements),
  ("meta", Member.metadata x.metadata),
  ("tags", Member.records .tag (x.tags.filterMap Tag.uuid))]

def asSent (x : ServerInfo) : ServerInfo where
  server := { name := x.name }
  cpu := x.cpu
  cpusInsteadOfCores := x.cpusInsteadOfCores
  smp := x.smp
  memory := x.memory
  enableNuma := x.enableNuma
  hvRelaxed := x.hvRelaxed
  hvTsc := x.hvTsc
  vncPassword := x.vncPassword
  drives := x.drives.map ServerDrive.asSent
  nics := x.nics.map Nic.asSent
  requirements := x.requirements
  tags := Tag.ofIdentifiers (x.tags.filterMap Tag.uuid)
  metadata := x.metadata

theorem read_requestBody (x : ServerInfo) :
    RecordKind.server.read (Sendable.requestBody x) = .ok (.ofFields x.canonicalFields) := by
  refine RecordKind.read_ofFields ?_
  exact .cons (.intro rfl (.text _)) <|
    .cons (.intro rfl (.number _ _)) <|
    .cons (.intro rfl (.number _ _)) <|
    .cons (.intro rfl (.magnitude _)) <|
    .cons (.intro rfl (.flag _)) <|
    .cons (.intro rfl (.flag _)) <|
    .cons (.intro rfl (.flag _)) <|
    .cons (.intro rfl (.flag _)) <|
    .cons (.intro rfl (.text _)) <|
    .cons (.intro rfl (.list ServerDrive.read_requestBody _)) <|
    .cons (.intro rfl (.list Nic.read_requestBody _)) <|
    .cons (.intro rfl (.texts _)) <|
    .cons (.intro rfl (.metadata _)) <|
    .cons (.intro rfl (.identifiers .tag _)) .nil

theorem ofRecord_eq (x : ServerInfo) (record : Json)
    (found : record.HasFields x.canonicalFields) : ofRecord record = .ok x.asSent := by
  have name : record.textField "name" = x.name := Json.textField_of_text (found "name")
  have server : Server.ofRecord record = .ok { name := x.name } :=
    Server.ofRecord_of_name name (found "uuid") (found "resource_uri") (found "owner")
      (found "status") (found "runtime")
  have cpu : record.boundedField UInt32 "cpu" = .ok x.cpu :=
    Json.boundedField_of_number (found "cpu") (Scalar.toBounded_ofUInt32 "cpu")
  have smp : record.boundedField UInt32 "smp" = .ok x.smp :=
    Json.boundedField_of_number (found "smp") (Scalar.toBounded_ofUInt32 "smp")
  have memory : record.magnitudeField "mem" = .ok x.memory :=
    Json.magnitudeField_of_magnitude (found "mem")
  have cpusInsteadOfCores : record.flagField "cpus_instead_of_cores" = x.cpusInsteadOfCores :=
    Json.flagField_of_flag (found "cpus_instead_of_cores")
  have enableNuma : record.flagField "enable_numa" = x.enableNuma :=
    Json.flagField_of_flag (found "enable_numa")
  have hvRelaxed : record.flagField "hv_relaxed" = x.hvRelaxed :=
    Json.flagField_of_flag (found "hv_relaxed")
  have hvTsc : record.flagField "hv_tsc" = x.hvTsc := Json.flagField_of_flag (found "hv_tsc")
  have context : record.flagField "context" = none := Json.flagField_of_flag (found "context")
  have vncPassword : record.textField "vnc_password" = x.vncPassword :=
    Json.textField_of_text (found "vnc_password")
  have drives : record.recordsField ServerDrive.ofRecord "drives" = .ok x.asSent.drives :=
    Json.recordsField_of_list (found "drives") ReadsBack.ofRecord_canonicalFields
  have nics : record.recordsField Nic.ofRecord "nics" = .ok x.asSent.nics :=
    Json.recordsField_of_list (found "nics") ReadsBack.ofRecord_canonicalFields
  have requirements : record.textsField "requirements" = x.requirements :=
    Json.textsField_of_texts (found "requirements")
  have tags : record.recordsField Tag.ofRecord "tags" = .ok x.asSent.tags :=
    Json.tagsField_of_tags (found "tags")
  have metadata : record.metaField "meta" = x.metadata := Json.metaField_of_metadata (found "meta")
  simp only [ofRecord, server, cpu, smp, memory, cpusInsteadOfCores, enableNuma, hvRelaxed, hvTsc,
    context, vncPassword, drives, nics, requirements, tags, metadata]
  rfl

theorem requestBody_eq (x : ServerInfo) : Sendable.requestBody x = .ofFields [
    ("name", Member.text x.name),
    ("cpu", Member.number .ofUInt32 x.cpu),
    ("smp", Member.number .ofUInt32 x.smp),
    ("mem", Member.magnitude x.memory),
    ("cpus_instead_of_cores", Member.flag x.cpusInsteadOfCores),
    ("enable_numa", Member.flag x.enableNuma),
    ("hv_relaxed", Member.flag x.hvRelaxed),
    ("hv_tsc", Member.flag x.hvTsc),
    ("vnc_password", Member.text x.vncPassword),
    ("drives", Member.list Sendable.requestBody x.drives),
    ("nics", Member.list Sendable.requestBody x.nics),
    ("requirements", Member.texts x.requirements),
    ("meta", Member.metadata x.metadata),
    ("tags", Member.tags x.tags)] := rfl

theorem requestBody_asSent (x : ServerInfo) :
    Sendable.requestBody x.asSent = Sendable.requestBody x := by
  have drives : Member.list Sendable.requestBody x.asSent.drives =
      Member.list Sendable.requestBody x.drives := ReadsBack.list_requestBody_asSent _
  have nics : Member.list Sendable.requestBody x.asSent.nics =
      Member.list Sendable.requestBody x.nics := ReadsBack.list_requestBody_asSent _
  have tags : Member.tags x.asSent.tags = Member.tags x.tags := Member.tags_ofIdentifiers _
  rw [requestBody_eq, drives, nics, tags]
  rfl

instance : ReadsBack ServerInfo where
  canonicalFields := canonicalFields
  asSent := asSent
  distinct x := by simp [canonicalFields]
  read_requestBody := read_requestBody
  ofRecord_eq := ofRecord_eq
  requestBody_asSent := requestBody_asSent

end ServerInfo

/-! ## All bodies -/

/-- Every value comes back as one that is sent as the same body, whatever it has set.
Sizes and amounts come back on both sides of the greatest word, and every boot order
comes back. -/
theorem requestBody_stable :
    (∀ x : Tag, ∃ y, ComesBackAs x y) ∧
    (∀ x : VlanInfo, ∃ y, ComesBackAs x y) ∧
    (∀ x : IpInfo, ∃ y, ComesBackAs x y) ∧
    (∀ x : DriveInfo, ∃ y, ComesBackAs x y ∧ y.size = x.size) ∧
    (∀ x : ServerInfo, ∃ y, ComesBackAs x y ∧ y.memory = x.memory ∧
      y.drives.map ServerDrive.bootOrder = x.drives.map ServerDrive.bootOrder ∧
      y.nics.map Nic.bootOrder = x.nics.map Nic.bootOrder) ∧
    (∀ x : Subscription, ∃ y, ComesBackAs x y ∧ y.amount = x.amount) ∧
    ∀ x : ProfileInfo, ∃ y, ComesBackAs x y := by
  refine ⟨fun x => ⟨_, comesBackAs_asSent x⟩, fun x => ⟨_, comesBackAs_asSent x⟩,
    fun x => ⟨_, comesBackAs_asSent x⟩, fun x => ⟨_, comesBackAs_asSent x, rfl⟩, fun x => ?_,
    fun x => ⟨_, comesBackAs_asSent x, rfl⟩, fun x => ⟨_, comesBackAs_asSent x⟩⟩
  -- A server comes back item by item, and each item keeps its boot order.
  have drives : (x.drives.map ServerDrive.asSent).map ServerDrive.bootOrder =
      x.drives.map ServerDrive.bootOrder := by
    rw [List.map_map]
    rfl
  have nics : (x.nics.map Nic.asSent).map Nic.bootOrder = x.nics.map Nic.bootOrder := by
    rw [List.map_map]
    rfl
  exact ⟨x.asSent, comesBackAs_asSent x, rfl, drives, nics⟩

end CloudInventory
