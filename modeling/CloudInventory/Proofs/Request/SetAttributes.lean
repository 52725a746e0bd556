import CloudInventory.Proofs.Decode.Token
import CloudInventory.Proofs.Json.Fields
import CloudInventory.Request.Drive
import CloudInventory.Request.Firewall
import CloudInventory.Request.Server

/-!
# Set attributes

A request changes the attributes that its body has a member for. So a body has a member
for every attribute that is set, also if it is set to `false` or zero, and for no other: not
for an empty list, not for a nested resource without uuid, not for a value that is not
recognized and not for the boot order of what is not booted from. Nothing that the service
could take for the wish to clear an attribute is sent at any depth.

Results:
1. `Writes.members` and `Writes.tidy_ofFields`: what holds of the attributes one by one
   holds of a body.
2. `bodies_write_set_attributes`: the attributes of all bodies, with the lists in them.
-/

namespace CloudInventory

/-! ## Values without blanks -/

/-- No part of the value is `null`, an empty list or empty metadata. -/
inductive Json.Tidy : Json → Prop
  | bool (value : Bool) : Tidy (.bool value)
  | number (value : Number) : Tidy (.number value)
  | string (value : String) : Tidy (.string value)
  | array {items : List Json} (nonempty : items ≠ []) (each : ∀ json ∈ items, Tidy json) :
    Tidy (.array items)
  | object {members : List (String × Json)} (each : ∀ member ∈ members, Tidy member.2)
    (metadata : ("meta", .object []) ∉ members) : Tidy (.object members)

/-- What is written of an attribute: there is a member exactly if the attribute is set, and
no part of it is blank. -/
structure Writes (field : String × Option Json) (entry : String × Prop) : Prop where
  key : field.1 = entry.1
  isSome : field.2.isSome = true ↔ entry.2
  tidy : ∀ json, field.2 = some json → json.Tidy
  nonempty : field.1 = "meta" → field.2 ≠ some (.object [])

namespace Writes

/-! ## Members -/

section

variable {key : String}

/-- An optional value is written if it is set. -/
theorem map {α : Type} {toJson : α → Json} (tidy : ∀ x, (toJson x).Tidy)
    (nonempty : key = "meta" → ∀ x, toJson x ≠ .object []) (value : Option α) :
    Writes (key, value.map toJson) (key, value.isSome) := by
  cases value with
  | none => exact ⟨rfl, Iff.rfl, fun _ absent => (nomatch absent), fun _ absent => nomatch absent⟩
  | some x =>
    refine ⟨rfl, Iff.rfl, ?_, fun same empty => nonempty same x (Option.some.inj empty)⟩
    rintro _ ⟨⟩
    exact tidy x

/-- A nested body is written if there is one, under any key but that of metadata. -/
theorem nested {α : Type} {toJson : α → Json} (tidy : ∀ x, (toJson x).Tidy)
    (other : key ≠ "meta") (value : Option α) :
    Writes (key, value.map toJson) (key, value.isSome) :=
  map tidy (fun same => absurd same other) value

/-- What is said of an attribute may be put in other words. -/
theorem congr {value : Option Json} {set other : Prop} (writes : Writes (key, value) (key, set))
    (same : set ↔ other) : Writes (key, value) (key, other) :=
  propext same ▸ writes

theorem text (value : Option String) : Writes (key, Member.text value) (key, value.isSome) :=
  map .string (fun _ _ => nofun) value

theorem mappedText {α : Type} (text : α → String) (value : Option α) :
    Writes (key, Member.text (value.map text)) (key, value.isSome) :=
  (Writes.text _).congr (by rw [Option.isSome_map])

theorem flag (value : Option Bool) : Writes (key, Member.flag value) (key, value.isSome) :=
  map .bool (fun _ _ => nofun) value

theorem number {α : Type} (toNumber : α → Number) (value : Option α) :
    Writes (key, Member.number toNumber value) (key, value.isSome) :=
  map (fun x => .number (toNumber x)) (fun _ _ => nofun) value

theorem magnitude (value : Option Magnitude) :
    Writes (key, Member.magnitude value) (key, value.isSome) := by
  have number_or_text (m : Magnitude) :
      (∃ n, m.toRequest = .number n) ∨ ∃ s, m.toRequest = .string s := by
    rw [Magnitude.toRequest]
    cases Number.ofInt? m.value with
    | none => exact .inr ⟨_, rfl⟩
    | some n => exact .inl ⟨n, rfl⟩
  refine map (fun m => ?_) (fun _ m => ?_) value
  · rcases number_or_text m with ⟨n, same⟩ | ⟨s, same⟩
    · exact same ▸ .number n
    · exact same ▸ .string s
  · rcases number_or_text m with ⟨n, same⟩ | ⟨s, same⟩ <;> rw [same] <;> exact Json.noConfusion

/-- A value of a vocabulary is written if it is a recognized one. -/
theorem token {α : Type} [Vocabulary α] [DecidableEq α] [ExactVocabulary α] (value : Option α) :
    Writes (key, Member.token value) (key, ∃ x ∈ value, x ≠ Vocabulary.unrecognized) := by
  have written : Member.token value = Member.text (value.bind Token.known?) := by
    cases value <;> rfl
  have recognized : (value.bind Token.known?).isSome = true ↔
      ∃ x ∈ value, x ≠ Vocabulary.unrecognized := by
    cases value with
    | none => simp
    | some x => simp [Option.isSome_iff_ne_none, ExactVocabulary.known?_eq_none]
  rw [written]
  exact (text _).congr recognized

/-- A list is written if it is not empty. -/
theorem list {α : Type} {toJson : α → Json} (tidy : ∀ x, (toJson x).Tidy) (values : List α) :
    Writes (key, Member.list toJson values) (key, values ≠ []) := by
  cases values with
  | nil =>
    exact ⟨rfl, iff_of_false nofun (absurd rfl ·), fun _ absent => (nomatch absent),
      fun _ absent => nomatch absent⟩
  | cons x xs =>
    refine ⟨rfl, iff_of_true rfl (List.cons_ne_nil x xs), ?_, fun _ => nofun⟩
    rintro _ ⟨⟩
    exact .array (List.cons_ne_nil _ _) (List.forall_mem_map.2 fun x _ => tidy x)

theorem texts (values : List String) : Writes (key, Member.texts values) (key, values ≠ []) :=
  list .string values

/-- The uuids of nested resources are written if one of them has any. -/
theorem uuids {α : Type} (uuid : α → Option String) (values : List α) :
    Writes (key, Member.texts (values.filterMap uuid))
      (key, ∃ x ∈ values, (uuid x).isSome = true) := by
  have some : values.filterMap uuid ≠ [] ↔ ∃ x ∈ values, (uuid x).isSome = true := by
    rw [ne_eq, List.filterMap_eq_nil_iff]
    simp [Option.isSome_iff_ne_none]
  exact (texts _).congr some

/-- The uuid of a nested resource is written if it has one. -/
theorem uuid {α : Type} (uuid : α → Option String) (value : Option α) :
    Writes (key, Member.text (value.bind uuid)) (key, ∃ x ∈ value, (uuid x).isSome = true) := by
  have some : (value.bind uuid).isSome = true ↔ ∃ x ∈ value, (uuid x).isSome = true := by
    cases value <;> simp
  exact (text _).congr some

theorem bootOrder (value : Int32) : Writes (key, Member.bootOrder value) (key, value ≠ -1) := by
  rw [Member.bootOrder]
  split
  next unset =>
    exact ⟨rfl, iff_of_false nofun (absurd unset ·), fun _ absent => (nomatch absent),
      fun _ absent => nomatch absent⟩
  next set =>
    refine ⟨rfl, iff_of_true rfl set, ?_, fun _ => nofun⟩
    rintro _ ⟨⟩
    exact .number _

/-- Metadata is written if it is not empty. -/
theorem metadata (value : Meta) :
    Writes (key, Member.metadata value) (key, value.members ≠ []) := by
  obtain ⟨members, sorted⟩ := value
  cases members with
  | nil =>
    exact ⟨rfl, iff_of_false nofun (absurd rfl ·), fun _ absent => (nomatch absent),
      fun _ absent => nomatch absent⟩
  | cons entry entries =>
    refine ⟨rfl, iff_of_true rfl (List.cons_ne_nil _ _), ?_, fun _ => nofun⟩
    rintro _ ⟨⟩
    refine .object (List.forall_mem_map.2 fun entry _ => .string _) fun inside => ?_
    obtain ⟨_, -, same⟩ := List.mem_map.1 inside
    exact Json.noConfusion (Prod.mk.inj same).2

end

/-! ## Bodies -/

variable {fields : List (String × Option Json)} {entries : List (String × Prop)}

theorem keys_eq (writes : List.Forall₂ Writes fields entries) :
    fields.map Prod.fst = entries.map Prod.fst := by
  induction writes with
  | nil => rfl
  | cons first _ ih => rw [List.map_cons, List.map_cons, first.key, ih]

/-- A body has members for the attributes that are set, and for no others. -/
theorem members (writes : List.Forall₂ Writes fields entries)
    (distinct : (entries.map Prod.fst).Nodup) (key : String) :
    ((Json.ofFields fields).member? key).isSome = true ↔ ∃ set, (key, set) ∈ entries ∧ set := by
  rw [Json.hasFields_ofFields (keys_eq writes ▸ distinct)]
  induction writes with
  | nil => simp
  | @cons field entry fields entries first _ ih =>
    obtain ⟨name, value⟩ := field
    obtain ⟨same, set⟩ := entry
    obtain rfl : name = same := first.key
    rw [List.map_cons, List.nodup_cons] at distinct
    rw [lookup_cons_eq_ite]
    by_cases here : key = name
    · subst here
      rw [if_pos rfl, Option.join_some, first.isSome]
      constructor
      · exact fun isSet => ⟨set, List.mem_cons_self, isSet⟩
      · rintro ⟨other, member, isSet⟩
        rcases List.mem_cons.1 member with same | later
        · cases same
          exact isSet
        · exact absurd (List.mem_map.2 ⟨_, later, rfl⟩) distinct.1
    · rw [if_neg here, ih distinct.2]
      refine exists_congr fun other => and_congr_left fun _ => ?_
      rw [List.mem_cons, Prod.mk.injEq, or_iff_right fun both => here both.1]

theorem exists_of_mem (writes : List.Forall₂ Writes fields entries)
    {field : String × Option Json} (member : field ∈ fields) : ∃ entry, Writes field entry := by
  induction writes with
  | nil => cases member
  | cons first _ ih =>
    rcases List.mem_cons.1 member with rfl | later
    · exact ⟨_, first⟩
    · exact ih later

/-- A body of tidy members is tidy. -/
theorem tidy_ofFields (writes : List.Forall₂ Writes fields entries) :
    (Json.ofFields fields).Tidy := by
  refine .object (fun member inside => ?_) fun inside => ?_
  · obtain ⟨entry, here⟩ := exists_of_mem writes (Json.mem_of_mem_ofFields inside)
    exact here.tidy _ rfl
  · obtain ⟨entry, here⟩ := exists_of_mem writes (Json.mem_of_mem_ofFields inside)
    exact here.nonempty rfl rfl

end Writes

/-! ## Attributes -/

/-- The attributes that requests change, with what it means for each of them to be set. -/
class Attributed (α : Type) where
  attributes : α → List (String × Prop)
  distinct (x : α) : ((attributes x).map Prod.fst).Nodup := by simp

/-- A body is an object with members for the attributes that are set and for no others, and
no part of it is blank. -/
def ExactBodies (α : Type) [Sendable α] [Attributed α] : Prop :=
  ∀ x : α, (∃ members, Sendable.requestBody x = .object members) ∧
    (Sendable.requestBody x).Tidy ∧
    ∀ key, ((Sendable.requestBody x).member? key).isSome = true ↔
      ∃ set, (key, set) ∈ Attributed.attributes x ∧ set

namespace ExactBodies

variable {α : Type} [Sendable α] [Attributed α]

theorem of_writes {fields : α → List (String × Option Json)}
    (body : ∀ x, Sendable.requestBody x = .ofFields (fields x))
    (writes : ∀ x, List.Forall₂ Writes (fields x) (Attributed.attributes x)) :
    ExactBodies α := by
  intro x
  rw [body]
  exact ⟨⟨_, rfl⟩, Writes.tidy_ofFields (writes x),
    Writes.members (writes x) (Attributed.distinct x)⟩

theorem tidy (exact : ExactBodies α) (x : α) : (Sendable.requestBody x).Tidy :=
  (exact x).2.1

end ExactBodies

/-! ### Tags, VLANs and addresses -/

instance : Attributed Tag where
  attributes x := [
    ("name", x.name.isSome),
    ("meta", x.metadata.members ≠ []),
    ("resources", ∃ resource ∈ x.resources, resource.uuid.isSome)]

instance : Attributed VlanInfo where
  attributes x := [
    ("meta", x.metadata.members ≠ []),
    ("tags", ∃ tag ∈ x.tags, tag.uuid.isSome)]

instance : Attributed IpInfo where
  attributes x := [
    ("meta", x.metadata.members ≠ []),
    ("tags", ∃ tag ∈ x.tags, tag.uuid.isSome)]

theorem Tag.exactBodies : ExactBodies Tag :=
  .of_writes (fun _ => rfl) fun _ =>
    .cons (.text _) <| .cons (.metadata _) <| .cons (.uuids _ _) .nil

theorem VlanInfo.exactBodies : ExactBodies VlanInfo :=
  .of_writes (fun _ => rfl) fun _ => .cons (.metadata _) <| .cons (.uuids _ _) .nil

theorem IpInfo.exactBodies : ExactBodies IpInfo :=
  .of_writes (fun _ => rfl) fun _ => .cons (.metadata _) <| .cons (.uuids _ _) .nil

/-! ### Drives -/

instance : Attributed DriveInfo where
  attributes x := [
    ("name", x.name.isSome),
    ("size", x.size.isSome),
    ("media", ∃ media ∈ x.media, media ≠ .unrecognized),
    ("allow_multimount", x.allowMultimount.isSome),
    ("storage_type", x.storageType.isSome),
    ("affinities", x.affinities ≠ []),
    ("meta", x.metadata.members ≠ []),
    ("tags", ∃ tag ∈ x.tags, tag.uuid.isSome)]

theorem DriveInfo.exactBodies : ExactBodies DriveInfo :=
  .of_writes (fun _ => rfl) fun _ =>
    .cons (.text _) <| .cons (.magnitude _) <| .cons (.token _) <| .cons (.flag _) <|
    .cons (.text _) <| .cons (.texts _) <| .cons (.metadata _) <| .cons (.uuids _ _) .nil

/-! ### Firewall policies -/

instance : Attributed FirewallRule where
  attributes x := [
    ("action", ∃ action ∈ x.action, action ≠ .unrecognized),
    ("comment", x.comment.isSome),
    ("direction", ∃ direction ∈ x.direction, direction ≠ .unrecognized),
    ("ip_proto", ∃ protocol ∈ x.ipProtocol, protocol ≠ .unrecognized),
    ("src_ip", x.sourceIp.isSome),
    ("src_port", x.sourcePort.isSome),
    ("dst_ip", x.destinationIp.isSome),
    ("dst_port", x.destinationPort.isSome)]

instance : Attributed FirewallPolicy where
  attributes x := [
    ("name", x.name.isSome),
    ("meta", x.metadata.members ≠ []),
    ("rules", x.rules ≠ []),
    ("tags", ∃ tag ∈ x.tags, tag.uuid.isSome)]

theorem FirewallRule.exactBodies : ExactBodies FirewallRule :=
  .of_writes (fun _ => rfl) fun _ =>
    .cons (.token _) <| .cons (.text _) <| .cons (.token _) <| .cons (.token _) <|
    .cons (.mappedText _ _) <| .cons (.mappedText _ _) <| .cons (.mappedText _ _) <|
    .cons (.mappedText _ _) .nil

theorem FirewallPolicy.exactBodies : ExactBodies FirewallPolicy :=
  .of_writes (fun _ => rfl) fun _ =>
    .cons (.text _) <| .cons (.metadata _) <| .cons (.list FirewallRule.exactBodies.tidy _) <|
    .cons (.uuids _ _) .nil

/-! ### Servers -/

instance : Attributed ServerDrive where
  attributes x := [
    ("boot_order", x.bootOrder ≠ -1),
    ("dev_channel", x.deviceChannel.isSome),
    ("device", ∃ device ∈ x.deviceEmulationType, device ≠ .unrecognized),
    ("drive", x.driveUuid.isSome ∨ ∃ drive ∈ x.drive, drive.uuid.isSome)]

instance : Attributed IpConfiguration where
  attributes x := [
    ("conf", ∃ type ∈ x.configurationType, type ≠ .unrecognized),
    ("ip", ∃ ip ∈ x.ip, ip.uuid.isSome)]

instance : Attributed Nic where
  attributes x := [
    ("boot_order", x.bootOrder ≠ -1),
    ("firewall_policy", ∃ policy ∈ x.firewallPolicy, policy.uuid.isSome),
    ("ip_v4_conf", x.ipv4Configuration.isSome),
    ("ip_v6_conf", x.ipv6Configuration.isSome),
    ("mac", x.mac.isSome),
    ("model", ∃ model ∈ x.model, model ≠ .unrecognized),
    ("vlan", ∃ vlan ∈ x.vlan, vlan.uuid.isSome)]

instance : Attributed ServerInfo where
  attributes x := [
    ("name", x.name.isSome),
    ("cpu", x.cpu.isSome),
    ("smp", x.smp.isSome),
    ("mem", x.memory.isSome),
    ("cpus_instead_of_cores", x.cpusInsteadOfCores.isSome),
    ("enable_numa", x.enableNuma.isSome),
    ("hv_relaxed", x.hvRelaxed.isSome),
    ("hv_tsc", x.hvTsc.isSome),
    ("vnc_password", x.vncPassword.isSome),
    ("drives", x.drives ≠ []),
    ("nics", x.nics ≠ []),
    ("requirements", x.requirements ≠ []),
    ("meta", x.metadata.members ≠ []),
    ("tags", ∃ tag ∈ x.tags, tag.uuid.isSome)]

/-- A drive is attached by its uuid, which the attachment or the drive itself has. -/
theorem ServerDrive.isSome_attachedUuid (x : ServerDrive) :
    x.attachedUuid.isSome = true ↔
      x.driveUuid.isSome = true ∨ ∃ drive ∈ x.drive, drive.uuid.isSome = true := by
  rw [attachedUuid, Option.isSome_or, Bool.or_eq_true]
  cases x.drive <;> simp

theorem ServerDrive.exactBodies : ExactBodies ServerDrive :=
  .of_writes (fun _ => rfl) fun x =>
    .cons (.bootOrder _) <| .cons (.text _) <| .cons (.token _) <|
    .cons ((Writes.text _).congr x.isSome_attachedUuid) .nil

theorem IpConfiguration.exactBodies : ExactBodies IpConfiguration :=
  .of_writes (fun _ => rfl) fun _ => .cons (.token _) <| .cons (.uuid _ _) .nil

theorem Nic.exactBodies : ExactBodies Nic :=
  .of_writes (fun _ => rfl) fun _ =>
    .cons (.bootOrder _) <| .cons (.uuid _ _) <|
    .cons (.nested IpConfiguration.exactBodies.tidy (by decide) _) <|
    .cons (.nested IpConfiguration.exactBodies.tidy (by decide) _) <|
    .cons (.text _) <| .cons (.token _) <| .cons (.uuid _ _) .nil

theorem ServerInfo.exactBodies : ExactBodies ServerInfo :=
  .of_writes (fun _ => rfl) fun _ =>
    .cons (.text _) <| .cons (.number _ _) <| .cons (.number _ _) <| .cons (.magnitude _) <|
    .cons (.flag _) <| .cons (.flag _) <| .cons (.flag _) <| .cons (.flag _) <|
    .cons (.text _) <| .cons (.list ServerDrive.exactBodies.tidy _) <|
    .cons (.list Nic.exactBodies.tidy _) <| .cons (.texts _) <| .cons (.metadata _) <|
    .cons (.uuids _ _) .nil

/-! ### Subscriptions and profiles -/

instance : Attributed Subscription where
  attributes x := [
    ("amount", x.amount.isSome),
    ("period", x.period.isSome),
    ("resource", ∃ resource ∈ x.resource, resource ≠ .unrecognized),
    ("auto_renew", x.autoRenew.isSome)]

instance : Attributed ProfileInfo where
  attributes x := [
    ("first_name", x.firstName.isSome),
    ("last_name", x.lastName.isSome),
    ("nickname", x.nickname.isSome),
    ("title", x.title.isSome),
    ("company", x.company.isSome),
    ("address", x.address.isSome),
    ("town", x.town.isSome),
    ("postcode", x.postcode.isSome),
    ("state", x.state.isSome),
    ("country", x.country.isSome),
    ("phone", x.phone.isSome),
    ("vat", x.vat.isSome),
    ("bank_reference", x.bankReference.isSome),
    ("language", x.language.isSome),
    ("my_notes", x.myNotes.isSome),
    ("api_https_only", x.apiHttpsOnly.isSome),
    ("key_auth", x.keyAuth.isSome),
    ("mailing_list", x.mailingList.isSome),
    ("autotopup_amount", x.autotopupAmount.isSome),
    ("autotopup_threshold", x.autotopupThreshold.isSome),
    ("meta", x.metadata.members ≠ [])]

theorem Subscription.exactBodies : ExactBodies Subscription :=
  .of_writes (fun _ => rfl) fun _ =>
    .cons (.magnitude _) <| .cons (.text _) <| .cons (.token _) <| .cons (.flag _) .nil

theorem ProfileInfo.exactBodies : ExactBodies ProfileInfo :=
  .of_writes (fun _ => rfl) fun _ =>
    .cons (.text _) <| .cons (.text _) <| .cons (.text _) <| .cons (.text _) <|
    .cons (.text _) <| .cons (.text _) <| .cons (.text _) <| .cons (.text _) <|
    .cons (.text _) <| .cons (.text _) <| .cons (.text _) <| .cons (.text _) <|
    .cons (.text _) <| .cons (.text _) <| .cons (.text _) <| .cons (.flag _) <|
    .cons (.flag _) <| .cons (.flag _) <| .cons (.text _) <| .cons (.text _) <|
    .cons (.metadata _) .nil

/-! ## Lists -/

/-- The items of a list in a body; a body without the list has none. -/
def Json.itemsOf (json : Json) (key : String) : List Json :=
  ((json.member? key).map items).getD []

/-- The items of a list are sent one by one and in order. -/
theorem itemsOf_ofFields {fields : List (String × Option Json)} {key : String} {α : Type}
    {toJson : α → Json} {values : List α} (distinct : (fields.map Prod.fst).Nodup)
    (found : (fields.lookup key).join = Member.list toJson values) :
    (Json.ofFields fields).itemsOf key = values.map toJson := by
  rw [Json.itemsOf, Json.hasFields_ofFields distinct, found]
  cases values <;> rfl

/-- Requests write exactly the set attributes: every body, and the body of everything in it,
has members for the attributes that are set and for no others, with no blank value at any
depth; drives, interfaces and rules are all sent and in order, and of tags and tagged
resources the uuids that exist, in order. -/
theorem bodies_write_set_attributes :
    (ExactBodies Tag ∧ ExactBodies VlanInfo ∧ ExactBodies IpInfo ∧ ExactBodies DriveInfo ∧
      ExactBodies ServerInfo ∧ ExactBodies FirewallPolicy ∧ ExactBodies Subscription ∧
      ExactBodies ProfileInfo) ∧
    (ExactBodies ServerDrive ∧ ExactBodies Nic ∧ ExactBodies IpConfiguration ∧
      ExactBodies FirewallRule) ∧
    (∀ x : ServerInfo,
      (Sendable.requestBody x).itemsOf "drives" = x.drives.map Sendable.requestBody ∧
      (Sendable.requestBody x).itemsOf "nics" = x.nics.map Sendable.requestBody ∧
      (Sendable.requestBody x).itemsOf "tags" = (x.tags.filterMap Tag.uuid).map .string) ∧
    (∀ x : Nic,
      (Sendable.requestBody x).member? "ip_v4_conf" =
        x.ipv4Configuration.map Sendable.requestBody ∧
      (Sendable.requestBody x).member? "ip_v6_conf" =
        x.ipv6Configuration.map Sendable.requestBody) ∧
    (∀ x : FirewallPolicy,
      (Sendable.requestBody x).itemsOf "rules" = x.rules.map Sendable.requestBody ∧
      (Sendable.requestBody x).itemsOf "tags" = (x.tags.filterMap Tag.uuid).map .string) ∧
    (∀ x : DriveInfo,
      (Sendable.requestBody x).itemsOf "tags" = (x.tags.filterMap Tag.uuid).map .string) ∧
    (∀ x : VlanInfo,
      (Sendable.requestBody x).itemsOf "tags" = (x.tags.filterMap Tag.uuid).map .string) ∧
    (∀ x : IpInfo,
      (Sendable.requestBody x).itemsOf "tags" = (x.tags.filterMap Tag.uuid).map .string) ∧
    ∀ x : Tag, (Sendable.requestBody x).itemsOf "resources" =
      (x.resources.filterMap TagResource.uuid).map .string := by
  refine ⟨⟨Tag.exactBodies, VlanInfo.exactBodies, IpInfo.exactBodies, DriveInfo.exactBodies,
      ServerInfo.exactBodies, FirewallPolicy.exactBodies, Subscription.exactBodies,
      ProfileInfo.exactBodies⟩,
    ⟨ServerDrive.exactBodies, Nic.exactBodies, IpConfiguration.exactBodies,
      FirewallRule.exactBodies⟩, fun x => ⟨?drives, ?nics, ?serverTags⟩,
    fun x => ⟨?version4, ?version6⟩, fun x => ⟨?rules, ?policyTags⟩, fun x => ?driveTags,
    fun x => ?vlanTags, fun x => ?ipTags, fun x => ?resources⟩
  case version4 | version6 => exact Json.hasFields_ofFields (by simp) _
  all_goals exact itemsOf_ofFields (by simp) rfl

end CloudInventory
