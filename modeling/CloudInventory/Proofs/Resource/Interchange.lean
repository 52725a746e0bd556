import CloudInventory.Compute.BootDrive
import CloudInventory.Proofs.Resource.ReferenceFields

/-!
# Identifiers and records inside a resource

Whether a resource shows another one by its identifier or by the record that holds
nothing but the identifier makes no difference, at any depth and for any number of
references: the resource is decoded to the same value, a server boots from the same
drive, and the same body is sent for it.

Results:
1. `Resource.decode_of_inlined` and `Resource.decodeReference_of_inlined`: what is
   decoded does not depend on the form of the references.
2. `inlining_invisible`: the whole of it, from single references to resources.
-/

namespace CloudInventory

/-! ## Decoding before and after -/

namespace Resource

variable {α : Type} [Resource α] {a b : Json}

/-- Records in the place of identifiers do not change what is decoded, be it a value or an
error. -/
theorem decode_of_inlined (inlined : (Shape.record (kind α)).Inlined a b) :
    (decode a : Except DecodeError α) = decode b := by
  have same : (kind α).read a = (kind α).read b := Shape.read_of_inlined inlined
  rw [decode, decode, same]

theorem decodeReference_of_inlined (inlined : (Shape.reference (kind α)).Inlined a b) :
    (decodeReference a : Except DecodeError α) = decodeReference b := by
  have same : (kind α).readReference a = (kind α).readReference b := Shape.read_of_inlined inlined
  rw [decodeReference, decodeReference, same]

end Resource

/-! ## From references to resources -/

/-- For every type of referenced values, an identifier and the record that holds nothing
else are the same value. Decoding a reference is converting it in one of two ways, and
every field for references holds what is converted so. Every kind that a field refers to
has records with nothing but an identifier, and putting them in the place of any
identifiers changes neither the value of a resource of any type nor its faults, nor the
body that is sent for it, nor the drive that a server boots from. -/
theorem inlining_invisible :
    (Interchangeable Drive "uuid" (fun id => { uuid := some id }) ∧
      Interchangeable Server "uuid" (fun id => { uuid := some id }) ∧
      Interchangeable FirewallPolicy "uuid" (fun id => { uuid := some id }) ∧
      Interchangeable Vlan "uuid" (fun id => { uuid := some id }) ∧
      Interchangeable Ip "uuid" (fun id => { uuid := some id }) ∧
      Interchangeable Tag "uuid" (fun id => { uuid := some id }) ∧
      Interchangeable TagResource "uuid" (fun id => .unrecognized { uuid := some id }) ∧
      Interchangeable Owner "uuid" (fun id => { uuid := some id }) ∧
      Interchangeable ResourceRef "uuid" (fun id => { uuid := some id }) ∧
      Interchangeable Subscription "id" Subscription.withId) ∧
    (∀ (α : Type) [Resource α] [Identified α] (json : Json),
      (Resource.decodeReference json : Except DecodeError α) = convertReference json) ∧
    (∀ json : Json, ReferencesConverted json) ∧
    (∀ (kind target : RecordKind) (key : String) (shape : Shape),
      kind.field? key = some shape → shape.target? = some target → target.HasIdentity) ∧
    (∀ (α : Type) [Resource α] (a b : Json), (Shape.record (Resource.kind α)).Inlined a b →
      (Resource.decode a : Except DecodeError α) = Resource.decode b ∧
        ∀ [Sendable α], (Resource.decode a : Except DecodeError α).map Sendable.requestBody =
          (Resource.decode b : Except DecodeError α).map Sendable.requestBody) ∧
    ∀ a b : Json, (Shape.record .server).Inlined a b →
      (Resource.decode a : Except DecodeError ServerInfo).map ServerInfo.bootDriveUuid =
        (Resource.decode b : Except DecodeError ServerInfo).map ServerInfo.bootDriveUuid := by
  refine ⟨⟨interchangeable _, interchangeable _, interchangeable _, interchangeable _,
    interchangeable _, interchangeable _, interchangeable _, interchangeable _,
    interchangeable _, interchangeable _⟩, ?_, referencesConverted, ?_, ?_, ?_⟩
  · exact fun α _ _ json => decodeReference_eq_convertReference json
  · exact fun kind target key shape field refers => RecordKind.hasIdentity_of_target field refers
  · intro α _ a b inlined
    have same : (Resource.decode a : Except DecodeError α) = Resource.decode b :=
      Resource.decode_of_inlined inlined
    refine ⟨same, ?_⟩
    intro _
    rw [same]
  · intro a b inlined
    have same : (Resource.decode a : Except DecodeError ServerInfo) = Resource.decode b :=
      Resource.decode_of_inlined inlined
    rw [same]

/-! ## Two forms of a server and of a tag -/

namespace InliningExamples

/-- A server with a drive, with an interface that has a configured and a bound address
and is on a VLAN, and with a tag. -/
def server (drive configured bound vlan tag : Json) : Json :=
  .object [
    ("drives", .array [.object [("boot_order", .number (.ofInt32 1)), ("drive", drive)]]),
    ("nics", .array [.object [
      ("ip_v4_conf", .object [("conf", .string "static"), ("ip", configured)]),
      ("runtime", .object [("ip_v4", bound)]),
      ("vlan", vlan)]]),
    ("tags", .array [tag])]

/-- A tag that labels one resource, as an array of values. -/
def tag (resource : Json) : Json :=
  .array [.string "t", .null, .null, .string "web", .null, .array [resource]]

/-- The record with nothing but the uuid. -/
def record (uuid : String) : Json :=
  .object [("uuid", .string uuid)]

def bareServer : Json :=
  server (.string "d") (.string "10.0.0.1") (.string "10.0.0.2") (.string "v") (.string "t")

def inlinedServer : Json :=
  server (record "d") (record "10.0.0.1") (record "10.0.0.2") (record "v") (record "t")

end InliningExamples

open InliningExamples in
/-- All five references of a server become records, one after the other, and the one of a
tag does; the server boots from the same drive. -/
theorem inlining_invisible_server :
    (Shape.record .server).Inlined bareServer inlinedServer ∧
      (Resource.decode bareServer : Except DecodeError ServerInfo) =
        Resource.decode inlinedServer ∧
      (Resource.decode bareServer : Except DecodeError ServerInfo).map ServerInfo.bootDriveUuid =
        (Resource.decode inlinedServer : Except DecodeError ServerInfo).map
          ServerInfo.bootDriveUuid ∧
      (Resource.decode bareServer : Except DecodeError ServerInfo).toOption.map
        ServerInfo.bootDriveUuid = some (some "d") ∧
      Resource.decode (tag (.string "s")) = .ok ({
        uuid := some "t"
        name := some "web"
        resources := [.unrecognized { uuid := some "s" }] } : Tag) ∧
      (Resource.decode (tag (record "s")) : Except DecodeError Tag) =
        Resource.decode (tag (.string "s")) := by
  obtain ⟨-, -, -, -, same, boot⟩ := inlining_invisible
  have drive (configured bound vlan tag : Json) : (Shape.record .server).InlinedOnce
      (server (.string "d") configured bound vlan tag)
      (server (record "d") configured bound vlan tag) :=
    .member [] _ rfl rfl <| .item [] [] <| .member [_] [] rfl rfl <| .bare (by decide) "d"
  have configured (drive bound vlan tag : Json) : (Shape.record .server).InlinedOnce
      (server drive (.string "10.0.0.1") bound vlan tag)
      (server drive (record "10.0.0.1") bound vlan tag) :=
    .member [_] _ rfl rfl <| .item [] [] <| .member [] _ rfl rfl <| .member [_] [] rfl rfl <|
      .bare (by decide) "10.0.0.1"
  have bound (drive configured vlan tag : Json) : (Shape.record .server).InlinedOnce
      (server drive configured (.string "10.0.0.2") vlan tag)
      (server drive configured (record "10.0.0.2") vlan tag) :=
    .member [_] _ rfl rfl <| .item [] [] <| .member [_] _ rfl rfl <| .member [] [] rfl rfl <|
      .bare (by decide) "10.0.0.2"
  have vlan (drive configured bound tag : Json) : (Shape.record .server).InlinedOnce
      (server drive configured bound (.string "v") tag)
      (server drive configured bound (record "v") tag) :=
    .member [_] _ rfl rfl <| .item [] [] <| .member [_, _] [] rfl rfl <| .bare (by decide) "v"
  have tagged (drive configured bound vlan : Json) : (Shape.record .server).InlinedOnce
      (server drive configured bound vlan (.string "t"))
      (server drive configured bound vlan (record "t")) :=
    .member [_, _] [] rfl rfl <| .item [] [] <| .bare (by decide) "t"
  have servers : (Shape.record .server).Inlined bareServer inlinedServer :=
    .tail (.tail (.tail (.tail (.single (drive ..)) (configured ..)) (bound ..)) (vlan ..))
      (tagged ..)
  have resource : (Shape.record .tag).Inlined (tag (.string "s")) (tag (record "s")) :=
    .single <| .element [_, _, _, _, _] [] rfl rfl <| .item [] [] <| .bare (by decide) "s"
  exact ⟨servers, (same ServerInfo _ _ servers).1, boot _ _ servers, by decide +kernel, rfl,
    (same Tag _ _ resource).1.symm⟩

end CloudInventory
