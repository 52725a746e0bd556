import CloudInventory.Proofs.Decode.Members
import CloudInventory.Proofs.Decode.Sequence
import CloudInventory.Proofs.Resource.FieldTables

/-!
# Decoders by their tables

Every decoder converts the fields of its table, one after the other, and puts the resource
together from them. So what holds of all rules holds of all decoders.

Results:
1. `ResourceType.values_convert`: a decoder converts the fields of its table in order.
2. `ResourceType.value_of_convert`: every part of a decoded resource is what its field is
   converted into.
3. `ResourceType.check_convert`: a decoder has the first fault of its fields.
4. `ResourceType.eq_of_fields`: a decoded resource is determined by its fields.
-/

namespace CloudInventory

/-! ## Parts of a resource -/

namespace Field

variable {α β : Type}

/-- Values for the fields of a part, and for the other fields. -/
def Values.append {part : α → β} {own : List (Field α)} :
    {fields : List (Field β)} → Values fields → Values own →
      Values (fields.map (fun field => field.comap part) ++ own)
  | [], _, rest => rest
  | _ :: _, (first, values), rest => (first, append values rest)

theorem values_append (x : α) (part : α → β) (fields : List (Field β)) (own : List (Field α)) :
    values x (fields.map (fun field => field.comap part) ++ own) =
      (values (part x) fields).append (values x own) := by
  induction fields with
  | nil => rfl
  | cons field fields ih => exact congrArg _ ih

/-- The fields of a part come first. -/
theorem convertAll_append (record : Json) (part : α → β) (fields : List (Field β))
    (own : List (Field α)) :
    convertAll record (fields.map (fun field => field.comap part) ++ own) = (do
      let first ← convertAll record fields
      let rest ← convertAll record own
      pure (first.append rest)) := by
  induction fields with
  | nil => exact (bind_pure _).symm
  | cons field fields ih =>
    change (field.convert record >>= fun first =>
      convertAll record (fields.map (fun field => field.comap part) ++ own) >>= fun rest =>
        pure (first, rest)) = _
    rw [ih]
    simp only [convertAll, bind_assoc, pure_bind]
    rfl

end Field

/-! ## Labelled resources -/

namespace TagResource

variable (x : ResourceRef) (type : Option TagResourceType)

/-- Whatever kind a token names, the identity is kept. -/
theorem uuid_ofIdentity : (ofIdentity x type).uuid = x.uuid := by
  rcases type with _ | _ | _ <;> rfl

theorem resourceUri_ofIdentity : (ofIdentity x type).resourceUri = x.resourceUri := by
  rcases type with _ | _ | _ <;> rfl

theorem owner_ofIdentity : (ofIdentity x type).owner = x.owner := by
  rcases type with _ | _ | _ <;> rfl

theorem type_ofIdentity : (ofIdentity x type).type = type.getD .unrecognized := by
  rcases type with _ | _ | _ <;> rfl

end TagResource

/-! ## Decoders and tables -/

namespace ResourceType

open CloudInventory.Field

theorem drive_values (record : Json) :
    (values · driveFields) <$> Drive.ofRecord record = convertAll record driveFields := by
  simp only [Drive.ofRecord, driveFields, convertAll, Field.convert, Rule.convert, pure_bind,
    map_bind, map_pure, bind_assoc]
  rfl

theorem driveInfo_values (record : Json) :
    (values · driveInfoFields) <$> DriveInfo.ofRecord record =
      convertAll record driveInfoFields := by
  simp only [driveInfoFields, values_append, convertAll_append, ← drive_values, bind_map_left]
  simp only [DriveInfo.ofRecord, convertAll, Field.convert, Rule.convert, pure_bind, map_bind,
    map_pure, bind_assoc]
  rfl

theorem vlan_values (record : Json) :
    (values · vlanFields) <$> Vlan.ofRecord record = convertAll record vlanFields := by
  simp only [Vlan.ofRecord, vlanFields, convertAll, Field.convert, Rule.convert, pure_bind,
    map_bind, map_pure, bind_assoc]
  rfl

theorem server_values (record : Json) :
    (values · serverFields) <$> Server.ofRecord record = convertAll record serverFields := by
  rw [Server.ofRecord]
  simp only [Json.mapM_child?, serverFields, convertAll, Field.convert, Rule.convert, pure_bind,
    map_bind, map_pure, bind_assoc]
  rfl

theorem ip_values (record : Json) :
    (values · ipFields) <$> Ip.ofRecord record = convertAll record ipFields := by
  rw [Ip.ofRecord]
  simp only [Json.mapM_child?, ipFields, convertAll, Field.convert, Rule.convert, pure_bind,
    map_bind, map_pure, bind_assoc]
  rfl

/-- A decoder converts the fields of its table in order. -/
theorem values_convert (type : ResourceType) (record : Json) :
    (values · type.fields) <$> type.convert record = convertAll record type.fields := by
  cases type with
  | drive => exact drive_values record
  | driveInfo => exact driveInfo_values record
  | vlan => exact vlan_values record
  | server => exact server_values record
  | ip => exact ip_values record
  -- Nothing can be faulty in these.
  | owner | license | balance | discount => rfl
  -- These decode records inside; the ones with themselves inside are left for below.
  | resourceRef | driveLicense | ioStats | ipConfiguration | serverDrive | nic | firewallPolicy
  | firewallRule | tag | pricing | transaction | accountUsage | usageRecord | profileInfo =>
    simp only [fields, convert, Resource.ofRecord, ResourceRef.ofRecord, DriveLicense.ofRecord,
      IoStats.ofRecord, IpConfiguration.ofRecord, ServerDrive.ofRecord, Nic.ofRecord,
      FirewallPolicy.ofRecord, FirewallRule.ofRecord, Tag.ofRecord, Pricing.ofRecord,
      Transaction.ofRecord, AccountUsage.ofRecord, UsageRecord.ofRecord, ProfileInfo.ofRecord,
      resourceRefFields, driveLicenseFields, ioStatsFields, ipConfigurationFields,
      serverDriveFields, nicFields, firewallPolicyFields, firewallRuleFields, tagFields,
      pricingFields, transactionFields, accountUsageFields, usageRecordFields,
      profileInfoFields, convertAll, Field.convert, Rule.convert, pure_bind, map_bind, map_pure,
      bind_assoc, bind_map_left]
    rfl
  | tagResource =>
    simp only [fields, convert, Resource.ofRecord, TagResource.ofRecord, map_bind, map_pure]
    simp only [values, tagResourceFields, TagResource.uuid_ofIdentity,
      TagResource.resourceUri_ofIdentity, TagResource.owner_ofIdentity,
      TagResource.type_ofIdentity, ResourceRef.ofRecord, convertAll, Field.convert, Rule.convert,
      pure_bind, bind_assoc]
    rfl
  | serverRuntime =>
    simp only [fields, convert, Resource.ofRecord]
    rw [ServerRuntime.ofRecord]
    simp only [Json.mapM_children, serverRuntimeFields, convertAll, Field.convert, Rule.convert,
      pure_bind, map_bind, map_pure, bind_assoc]
    rfl
  | nicStats =>
    simp only [fields, convert, Resource.ofRecord]
    rw [NicStats.ofRecord]
    simp only [Json.mapM_child?, nicStatsFields, convertAll, Field.convert, Rule.convert,
      pure_bind, map_bind, map_pure, bind_assoc]
    rfl
  | subscription =>
    simp only [fields, convert, Resource.ofRecord]
    rw [Subscription.ofRecord]
    simp only [Json.mapM_children, subscriptionFields, convertAll, Field.convert, Rule.convert,
      pure_bind, map_bind, map_pure, bind_assoc]
    rfl
  -- These have the fields of a summary and more of their own.
  | libraryDrive =>
    simp only [fields, libraryDriveFields, values_append, convertAll_append, ← driveInfo_values,
      bind_map_left]
    simp only [convert, Resource.ofRecord, LibraryDrive.ofRecord, convertAll, Field.convert,
      Rule.convert, pure_bind, map_bind, map_pure]
    rfl
  | serverInfo =>
    simp only [fields, serverInfoFields, values_append, convertAll_append, ← server_values,
      bind_map_left]
    simp only [convert, Resource.ofRecord, ServerInfo.ofRecord, convertAll, Field.convert,
      Rule.convert, pure_bind, map_bind, map_pure, bind_assoc]
    rfl
  | vlanInfo =>
    simp only [fields, vlanInfoFields, values_append, convertAll_append, ← vlan_values,
      bind_map_left]
    simp only [convert, Resource.ofRecord, VlanInfo.ofRecord, convertAll, Field.convert,
      Rule.convert, pure_bind, map_bind, map_pure, bind_assoc]
    rfl
  | ipInfo =>
    simp only [fields, ipInfoFields, values_append, convertAll_append, ← ip_values,
      bind_map_left]
    simp only [convert, Resource.ofRecord, IpInfo.ofRecord, convertAll, Field.convert,
      Rule.convert, pure_bind, map_bind, map_pure, bind_assoc]
    rfl

end ResourceType

/-! ## Values and faults -/

namespace Field

variable {α : Type} {record : Json}

/-- Fields that are converted are converted one by one. -/
theorem convert_of_convertAll {x : α} {fields : List (Field α)}
    (converted : convertAll record fields = .ok (values x fields)) :
    ∀ field ∈ fields, field.convert record = .ok (field.value x) := by
  induction fields with
  | nil => exact fun _ member => absurd member List.not_mem_nil
  | cons field fields ih =>
    obtain ⟨first, here, rest⟩ := bind_eq_ok_iff.1 converted
    obtain ⟨values, later, made⟩ := bind_eq_ok_iff.1 rest
    obtain ⟨rfl, rfl⟩ := Prod.mk.inj (Except.ok.inj made)
    exact List.forall_mem_cons.2 ⟨here, ih later⟩

/-- Fields have the first of their faults. -/
theorem check_convertAll (fields : List (Field α)) :
    check (convertAll record fields) = forM fields fun field => check (field.convert record) := by
  induction fields with
  | nil => rfl
  | cons field fields ih =>
    rw [List.forM_cons, ← ih]
    exact check_bind (field.convert record) (convertAll record fields) Prod.mk

end Field

namespace ResourceType

variable {type : ResourceType} {record other : Json} {x y : type.Value}

/-- Every part of a decoded resource is what its field is converted into. -/
theorem value_of_convert (converted : type.convert record = .ok x) :
    ∀ field ∈ type.fields, field.convert record = .ok (field.value x) := by
  have all := type.values_convert record
  rw [converted] at all
  exact Field.convert_of_convertAll all.symm

/-- A decoder has the first fault of its fields. -/
theorem check_convert (type : ResourceType) (record : Json) :
    check (type.convert record) =
      forM type.fields fun field => check (field.convert record) := by
  rw [← Field.check_convertAll, ← values_convert]
  exact (check_map _ _).symm

/-! ## Keys and shapes -/

/-- No table has two fields with one key. -/
theorem nodup_keys (type : ResourceType) : (type.fields.map Field.key).Nodup := by
  cases type <;> decide

/-- Every table is one of the kind: it takes fields that the schema has, and converts them
by rules for their shapes. -/
theorem fits (type : ResourceType) :
    ∀ field ∈ type.fields, ∃ shape, type.kind.field? field.key = some shape ∧
      field.rule.Fits shape := by
  have all : ∀ field ∈ type.fields,
      (type.kind.field? field.key).any fun shape => decide (field.rule.Fits shape) := by
    cases type <;> decide
  intro field member
  obtain ⟨shape, found, fits⟩ := (Option.any_eq_true _ _).1 (all field member)
  exact ⟨shape, found, of_decide_eq_true fits⟩

/-! ## Parts without fields -/

/-- The parts of a decoded resource that have no field follow from the others. -/
theorem derived_of_convert (converted : type.convert record = .ok x) : type.Derived x := by
  cases type with
  | serverDrive =>
    obtain ⟨drive, -, rest⟩ := bind_eq_ok_iff.1 converted
    obtain ⟨bootOrder, -, made⟩ := bind_eq_ok_iff.1 rest
    cases made
    rfl
  | tagResource =>
    obtain ⟨identity, -, made⟩ := bind_eq_ok_iff.1 converted
    cases made
    rw [Derived, TagResource.uuid_ofIdentity, TagResource.resourceUri_ofIdentity,
      TagResource.owner_ofIdentity, TagResource.type_ofIdentity]
    rcases record.tokenField "res_type" with _ | _ | _ <;> rfl
  | _ => trivial

/-- Resources with the same fields are equal, if their other parts follow from the fields. -/
theorem eq_of_fields (derived : type.Derived x) (derivedOther : type.Derived y)
    (same : ∀ field ∈ type.fields, field.value x = field.value y) : x = y := by
  cases type with
  | tagResource =>
    simp only [fields, tagResourceFields, List.forall_mem_cons] at same
    obtain ⟨uuid, resourceUri, owner, kind, -⟩ := same
    rw [Derived, uuid, resourceUri, owner, kind] at derived
    rw [derived, ← derivedOther]
  | serverDrive =>
    cases x; cases y
    simp only [fields, serverDriveFields, List.forall_mem_cons, Derived] at *
    simp only [derived, derivedOther, same]
  | owner | resourceRef | drive | license | driveLicense | server | serverRuntime | nic | nicStats
  | ioStats | ipConfiguration | firewallPolicy | firewallRule | vlan | ip | tag | subscription
  | pricing | balance | discount | transaction | accountUsage | usageRecord | profileInfo =>
    cases x; cases y
    simp only [fields, ownerFields, resourceRefFields, driveFields, licenseFields,
      driveLicenseFields, serverFields, serverRuntimeFields, nicFields, nicStatsFields,
      ioStatsFields, ipConfigurationFields, firewallPolicyFields, firewallRuleFields, vlanFields,
      ipFields, tagFields, subscriptionFields, pricingFields, balanceFields, discountFields,
      transactionFields, accountUsageFields, usageRecordFields, profileInfoFields,
      List.forall_mem_cons] at same
    simp only [same]
  -- In these a summary is a part.
  | driveInfo | serverInfo | vlanInfo | ipInfo =>
    obtain ⟨⟨⟩⟩ := x; obtain ⟨⟨⟩⟩ := y
    simp only [fields, driveInfoFields, driveFields, serverInfoFields, serverFields,
      vlanInfoFields, vlanFields, ipInfoFields, ipFields, Field.comap, List.map_cons,
      List.map_nil, List.cons_append, List.nil_append, List.forall_mem_cons] at same
    simp only [same]
  | libraryDrive =>
    obtain ⟨⟨⟨⟩⟩⟩ := x; obtain ⟨⟨⟨⟩⟩⟩ := y
    simp only [fields, libraryDriveFields, driveInfoFields, driveFields, Field.comap,
      List.map_cons, List.map_nil, List.cons_append, List.nil_append,
      List.forall_mem_cons] at same
    simp only [same]

end ResourceType

end CloudInventory
