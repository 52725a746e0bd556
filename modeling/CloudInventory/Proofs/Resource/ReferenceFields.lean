import CloudInventory.Proofs.Resource.References

/-!
# The references of each resource

Which fields of a resource hold references, and what they hold after decoding: the
conversion of what the record gives for the field, in the order of the record. The
types that nest in each other are no exception. Only an attached drive keeps more than
that, the uuid.

Results:
1. `referencesConverted`: the references of every type of resources.
-/

namespace CloudInventory

section

variable {β : Type} [Resource β] [Identified β]

/-- The value of a field is the conversion of the reference that is given for it, if one
is given. -/
def HoldsReference (kind : RecordKind) (json : Json) (key : String) (value : Option β) : Prop :=
  (kind.given? json key).mapM convertReference = .ok value

/-- The values of a field are the conversions of the references that are given for it. -/
def HoldsReferences (kind : RecordKind) (json : Json) (key : String) (values : List β) : Prop :=
  (((kind.given? json key).map Json.items).getD []).mapM convertReference = .ok values

variable {kind : RecordKind} {json record : Json} {key : String}

theorem holdsReference_of_recordField {value : Option β} (found : kind.read json = .ok record)
    (field : kind.field? key = some (.reference (Resource.kind β)))
    (decoded : record.recordField (Resource.ofRecord (α := β)) key = .ok value) :
    HoldsReference kind json key value :=
  (recordField_eq_convertReference found field).symm.trans decoded

theorem holdsReferences_of_recordsField {values : List β} (found : kind.read json = .ok record)
    (field : kind.field? key = some (.list (.reference (Resource.kind β))))
    (decoded : record.recordsField (Resource.ofRecord (α := β)) key = .ok values) :
    HoldsReferences kind json key values :=
  (recordsField_eq_convertReference found field).symm.trans decoded

end

/-! ## Bare identifiers -/

/-- The text of a bare identifier; none for a record. -/
def bareIdentifier? (json : Json) : Option String :=
  (Scalar.ofJson? json).map Scalar.plainText

/-- A reference is an identifier, which makes the value that holds nothing else, or a record
that is decoded. -/
theorem convertReference_eq_ok_iff {α : Type} [Resource α] [Identified α] {json : Json} {x : α} :
    convertReference json = .ok x ↔
      (∃ id, bareIdentifier? json = some id ∧ x = Identified.ofIdentifier id) ∨
        (bareIdentifier? json = none ∧ Resource.decode json = .ok x) := by
  cases json with
  | string id | number n =>
    rw [convertReference, Except.ok.injEq]
    constructor
    · rintro rfl
      exact .inl ⟨_, rfl, rfl⟩
    · rintro (⟨_, ⟨⟩, rfl⟩ | ⟨⟨⟩, -⟩)
      rfl
  | null | bool | array | object =>
    rw [convertReference, Resource.decode_eq_ok_iff]
    · constructor
      · intro converted
        split at converted
        next record read => exact .inr ⟨rfl, record, read, converted⟩
        next => cases converted
      · rintro (⟨_, ⟨⟩, -⟩ | ⟨-, record, read, made⟩)
        rw [read]
        exact made
    all_goals exact fun _ => Json.noConfusion

/-! ## Drives and servers -/

section

variable {json : Json}

theorem DriveInfo.references_of_decode {x : DriveInfo} (decoded : Resource.decode json = .ok x) :
    HoldsReferences .drive json "mounted_on" x.mountedOn ∧
      HoldsReferences .drive json "tags" x.tags := by
  obtain ⟨record, read, made⟩ := Resource.decode_eq_ok_iff.1 decoded
  simp only [Resource.ofRecord, ofRecord, bind_eq_ok_iff] at made
  obtain ⟨_, -, _, -, _, -, _, mountedOn, _, tags, made⟩ := made
  cases made
  exact ⟨holdsReferences_of_recordsField read rfl mountedOn,
    holdsReferences_of_recordsField read rfl tags⟩

theorem ServerInfo.references_of_decode {x : ServerInfo} (decoded : Resource.decode json = .ok x) :
    HoldsReferences .server json "tags" x.tags := by
  obtain ⟨record, read, made⟩ := Resource.decode_eq_ok_iff.1 decoded
  simp only [Resource.ofRecord, ofRecord, bind_eq_ok_iff] at made
  obtain ⟨_, -, _, -, _, -, _, -, _, -, _, -, _, tags, made⟩ := made
  cases made
  exact holdsReferences_of_recordsField read rfl tags

/-- The uuid of an attached drive is the bare identifier or, without one, that of the
record. -/
theorem ServerDrive.references_of_decode {x : ServerDrive}
    (decoded : Resource.decode json = .ok x) :
    HoldsReference .serverDrive json "drive" x.drive ∧
      x.driveUuid = ((RecordKind.serverDrive.given? json "drive").bind bareIdentifier?).or
        (x.drive.bind Drive.uuid) := by
  obtain ⟨record, read, made⟩ := Resource.decode_eq_ok_iff.1 decoded
  simp only [Resource.ofRecord, ofRecord, bind_eq_ok_iff] at made
  obtain ⟨drive, attached, _, -, made⟩ := made
  cases made
  have holds : HoldsReference .serverDrive json "drive" drive :=
    holdsReference_of_recordField read rfl attached
  refine ⟨holds, ?_⟩
  unfold HoldsReference at holds
  cases given : RecordKind.serverDrive.given? json "drive" with
  | none => rfl
  | some reference =>
    rw [given] at holds
    cases reference with
    | string | number =>
      -- The converted drive holds the identifier, so both uuids are the same.
      cases holds
      rfl
    | null | bool | array | object => rfl

theorem Nic.references_of_decode {x : Nic} (decoded : Resource.decode json = .ok x) :
    HoldsReference .nic json "firewall_policy" x.firewallPolicy ∧
      HoldsReference .nic json "vlan" x.vlan := by
  obtain ⟨record, read, made⟩ := Resource.decode_eq_ok_iff.1 decoded
  simp only [Resource.ofRecord, ofRecord, bind_eq_ok_iff] at made
  obtain ⟨_, -, _, policy, _, -, _, -, _, -, _, vlan, made⟩ := made
  cases made
  exact ⟨holdsReference_of_recordField read rfl policy,
    holdsReference_of_recordField read rfl vlan⟩

theorem IpConfiguration.references_of_decode {x : IpConfiguration}
    (decoded : Resource.decode json = .ok x) : HoldsReference .ipConfiguration json "ip" x.ip := by
  obtain ⟨record, read, made⟩ := Resource.decode_eq_ok_iff.1 decoded
  simp only [Resource.ofRecord, ofRecord, bind_eq_ok_iff] at made
  obtain ⟨_, ip, made⟩ := made
  cases made
  exact holdsReference_of_recordField read rfl ip

theorem NicStats.references_of_decode {x : NicStats} (decoded : Resource.decode json = .ok x) :
    HoldsReference .nicStats json "ip_v4" x.ipv4 ∧
      HoldsReference .nicStats json "ip_v6" x.ipv6 := by
  obtain ⟨record, read, made⟩ := Resource.decode_eq_ok_iff.1 decoded
  simp only [Resource.ofRecord, ofRecord, bind_eq_ok_iff] at made
  obtain ⟨_, -, _, ipv4, _, ipv6, made⟩ := made
  cases made
  exact ⟨holdsReference_of_recordField read rfl ((Json.mapM_child? ..).symm.trans ipv4),
    holdsReference_of_recordField read rfl ((Json.mapM_child? ..).symm.trans ipv6)⟩

/-! ## Networks -/

theorem FirewallPolicy.references_of_decode {x : FirewallPolicy}
    (decoded : Resource.decode json = .ok x) :
    HoldsReferences .firewallPolicy json "servers" x.servers ∧
      HoldsReferences .firewallPolicy json "tags" x.tags := by
  obtain ⟨record, read, made⟩ := Resource.decode_eq_ok_iff.1 decoded
  simp only [Resource.ofRecord, ofRecord, bind_eq_ok_iff] at made
  obtain ⟨_, -, _, -, _, servers, _, tags, made⟩ := made
  cases made
  exact ⟨holdsReferences_of_recordsField read rfl servers,
    holdsReferences_of_recordsField read rfl tags⟩

theorem VlanInfo.references_of_decode {x : VlanInfo} (decoded : Resource.decode json = .ok x) :
    HoldsReferences .vlan json "servers" x.servers ∧
      HoldsReference .vlan json "subscription" x.subscription ∧
      HoldsReferences .vlan json "tags" x.tags := by
  obtain ⟨record, read, made⟩ := Resource.decode_eq_ok_iff.1 decoded
  simp only [Resource.ofRecord, ofRecord, bind_eq_ok_iff] at made
  obtain ⟨_, -, _, servers, _, subscription, _, tags, made⟩ := made
  cases made
  exact ⟨holdsReferences_of_recordsField read rfl servers,
    holdsReference_of_recordField read rfl subscription,
    holdsReferences_of_recordsField read rfl tags⟩

theorem Ip.references_of_decode {x : Ip} (decoded : Resource.decode json = .ok x) :
    HoldsReference .ip json "server" x.server := by
  obtain ⟨record, read, made⟩ := Resource.decode_eq_ok_iff.1 decoded
  simp only [Resource.ofRecord, ofRecord, bind_eq_ok_iff] at made
  obtain ⟨_, -, _, server, made⟩ := made
  cases made
  exact holdsReference_of_recordField read rfl ((Json.mapM_child? ..).symm.trans server)

theorem IpInfo.references_of_decode {x : IpInfo} (decoded : Resource.decode json = .ok x) :
    HoldsReference .ip json "subscription" x.subscription ∧
      HoldsReferences .ip json "tags" x.tags := by
  obtain ⟨record, read, made⟩ := Resource.decode_eq_ok_iff.1 decoded
  simp only [Resource.ofRecord, ofRecord, bind_eq_ok_iff] at made
  obtain ⟨_, -, _, -, _, subscription, _, tags, made⟩ := made
  cases made
  exact ⟨holdsReference_of_recordField read rfl subscription,
    holdsReferences_of_recordsField read rfl tags⟩

/-! ## Tags and subscriptions -/

theorem Tag.references_of_decode {x : Tag} (decoded : Resource.decode json = .ok x) :
    HoldsReferences .tag json "resources" x.resources := by
  obtain ⟨record, read, made⟩ := Resource.decode_eq_ok_iff.1 decoded
  simp only [Resource.ofRecord, ofRecord, bind_eq_ok_iff] at made
  obtain ⟨_, -, _, resources, made⟩ := made
  cases made
  exact holdsReferences_of_recordsField read rfl resources

theorem Subscription.references_of_decode {x : Subscription}
    (decoded : Resource.decode json = .ok x) :
    HoldsReferences .subscription json "descendants" x.descendants := by
  obtain ⟨record, read, made⟩ := Resource.decode_eq_ok_iff.1 decoded
  change ofRecord record = .ok x at made
  rw [ofRecord] at made
  simp only [bind_eq_ok_iff] at made
  obtain ⟨_, -, _, descendants, _, -, _, -, _, -, _, -, made⟩ := made
  cases made
  exact holdsReferences_of_recordsField read rfl ((Json.mapM_children ..).symm.trans descendants)

/-! ## All of them -/

/-- Whatever type a value is decoded as, the fields for references hold the conversions of
what it gives for them. An attached drive has a uuid of its own as well. -/
structure ReferencesConverted (json : Json) : Prop where
  driveInfo : ∀ x : DriveInfo, Resource.decode json = .ok x →
    HoldsReferences .drive json "mounted_on" x.mountedOn ∧
      HoldsReferences .drive json "tags" x.tags
  serverInfo : ∀ x : ServerInfo, Resource.decode json = .ok x →
    HoldsReferences .server json "tags" x.tags
  serverDrive : ∀ x : ServerDrive, Resource.decode json = .ok x →
    HoldsReference .serverDrive json "drive" x.drive ∧
      x.driveUuid = ((RecordKind.serverDrive.given? json "drive").bind bareIdentifier?).or
        (x.drive.bind Drive.uuid)
  nic : ∀ x : Nic, Resource.decode json = .ok x →
    HoldsReference .nic json "firewall_policy" x.firewallPolicy ∧
      HoldsReference .nic json "vlan" x.vlan
  ipConfiguration : ∀ x : IpConfiguration, Resource.decode json = .ok x →
    HoldsReference .ipConfiguration json "ip" x.ip
  nicStats : ∀ x : NicStats, Resource.decode json = .ok x →
    HoldsReference .nicStats json "ip_v4" x.ipv4 ∧ HoldsReference .nicStats json "ip_v6" x.ipv6
  firewallPolicy : ∀ x : FirewallPolicy, Resource.decode json = .ok x →
    HoldsReferences .firewallPolicy json "servers" x.servers ∧
      HoldsReferences .firewallPolicy json "tags" x.tags
  vlanInfo : ∀ x : VlanInfo, Resource.decode json = .ok x →
    HoldsReferences .vlan json "servers" x.servers ∧
      HoldsReference .vlan json "subscription" x.subscription ∧
      HoldsReferences .vlan json "tags" x.tags
  ip : ∀ x : Ip, Resource.decode json = .ok x → HoldsReference .ip json "server" x.server
  ipInfo : ∀ x : IpInfo, Resource.decode json = .ok x →
    HoldsReference .ip json "subscription" x.subscription ∧
      HoldsReferences .ip json "tags" x.tags
  tag : ∀ x : Tag, Resource.decode json = .ok x →
    HoldsReferences .tag json "resources" x.resources
  subscription : ∀ x : Subscription, Resource.decode json = .ok x →
    HoldsReferences .subscription json "descendants" x.descendants

theorem referencesConverted (json : Json) : ReferencesConverted json where
  driveInfo _ := DriveInfo.references_of_decode
  serverInfo _ := ServerInfo.references_of_decode
  serverDrive _ := ServerDrive.references_of_decode
  nic _ := Nic.references_of_decode
  ipConfiguration _ := IpConfiguration.references_of_decode
  nicStats _ := NicStats.references_of_decode
  firewallPolicy _ := FirewallPolicy.references_of_decode
  vlanInfo _ := VlanInfo.references_of_decode
  ip _ := Ip.references_of_decode
  ipInfo _ := IpInfo.references_of_decode
  tag _ := Tag.references_of_decode
  subscription _ := Subscription.references_of_decode

end

end CloudInventory
