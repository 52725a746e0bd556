import CloudInventory.Compute.Adapter
import CloudInventory.Proofs.Json.Nesting

/-!
# What a node says of its server

The node of a server has what the server says of itself, the uuid of the drive that it boots
from, and the name of this drive if its details are known. An inventory prints it as the
text of an object, and whoever reads the text gets all of it back: every field under its
key, `null` where it is unset.

Results:
1. `ComputeNode.describes_nodeWith` and `ComputeNode.Describes.unique`: what the node of a
   server is.
2. `ComputeNode.sortMembers_fields`: the fields of a node, by key.
3. `ComputeNode.parse?_line`: what the line of a node is read as.
-/

namespace CloudInventory

namespace ComputeNode

/-! ## The node of a server -/

/-- The node has what there is to say of the server, with the details of its boot drive. -/
structure Describes (node : ComputeNode) (server : ServerInfo) (image : Option DriveInfo) :
    Prop where
  id : node.id = server.uuid
  name : node.name = server.name
  status : node.status = (server.server.status.map NodeStatus.ofServer).getD .unrecognized
  cpuMhz : node.cpuMhz = server.cpu
  cores : node.cores = server.smp
  memory : node.memory = server.memory
  publicAddresses : node.publicAddresses =
    (server.nics.filter fun nic => !nic.isPrivate).flatMap Nic.addresses
  privateAddresses : node.privateAddresses =
    (server.nics.filter Nic.isPrivate).flatMap Nic.addresses
  bootDrive : node.bootDrive = server.bootDriveUuid
  /-- The image is the name of the drive. -/
  image : node.image = image.bind DriveInfo.name
  tags : node.tags = server.tags.filterMap Tag.label

variable {node other : ComputeNode} {server : ServerInfo} {image : Option DriveInfo}

theorem describes_nodeWith (server : ServerInfo) (image : Option DriveInfo) :
    (ComputeAdapter.nodeWith server image).Describes server image :=
  ⟨rfl, rfl, rfl, rfl, rfl, rfl, rfl, rfl, rfl, rfl, rfl⟩

/-- There is nothing else to say. -/
theorem Describes.unique (describes : node.Describes server image)
    (describesOther : other.Describes server image) : node = other := by
  cases node
  cases other
  obtain ⟨⟨⟩, ⟨⟩, ⟨⟩, ⟨⟩, ⟨⟩, ⟨⟩, ⟨⟩, ⟨⟩, ⟨⟩, ⟨⟩, ⟨⟩⟩ := describes
  obtain ⟨⟨⟩, ⟨⟩, ⟨⟩, ⟨⟩, ⟨⟩, ⟨⟩, ⟨⟩, ⟨⟩, ⟨⟩, ⟨⟩, ⟨⟩⟩ := describesOther
  rfl

/-! ## The object of a node -/

/-- A value that is `null` if there is none. -/
def orNull {α : Type} (toJson : α → Json) : Option α → Json
  | some value => toJson value
  | none => .null

/-- The members of the object, by key. -/
def members (x : ComputeNode) : List (String × Json) := [
  ("boot_drive", orNull .string x.bootDrive),
  ("cores", orNull (fun n => .number (.ofUInt32 n)) x.cores),
  ("cpu_mhz", orNull (fun n => .number (.ofUInt32 n)) x.cpuMhz),
  ("id", orNull .string x.id),
  ("image", orNull .string x.image),
  ("memory", orNull (fun m => .string m.text) x.memory),
  ("name", orNull .string x.name),
  ("private_addresses", .array (x.privateAddresses.map .string)),
  ("public_addresses", .array (x.publicAddresses.map .string)),
  ("status", .string x.status.text),
  ("tags", .array (x.tags.map .string))]

theorem nullable_map {α : Type} (toJson : α → Json) (value : Option α) :
    nullable (value.map toJson) = orNull toJson value := by
  cases value <;> rfl

/-- The members are the fields in key order. -/
theorem sortMembers_fields (x : ComputeNode) : sortMembers x.fields = x.members := by
  simp only [fields, Member.text, Member.number, nullable_map, sortMembers, List.foldl_cons,
    List.foldl_nil]
  rfl

/-! ## The line of a node -/

/-- A scalar without a fraction, or a list of such. -/
structure Flat (json : Json) : Prop where
  ordered : json.Ordered
  integral : json.Integral
  depth_le : json.depth ≤ 1

namespace Flat

theorem null : Flat .null :=
  ⟨.null, .null, Nat.zero_le 1⟩

theorem string (value : String) : Flat (.string value) :=
  ⟨.string value, .string value, Nat.zero_le 1⟩

theorem number (value : UInt32) : Flat (.number (.ofUInt32 value)) :=
  ⟨.number _, .integer _ _, Nat.zero_le 1⟩

theorem listed (values : List String) : Flat (ComputeNode.listed values) := by
  have flat : ∀ item ∈ values.map Json.string, item.depth ≤ 0 :=
    List.forall_mem_map.2 fun _ _ => Nat.le_refl 0
  refine ⟨.array ?_, .array ?_, ?_⟩
  · exact List.forall_mem_map.2 fun value _ => .string value
  · exact List.forall_mem_map.2 fun value _ => .string value
  · have depths := Json.itemsDepth_le_iff.2 flat
    rw [ComputeNode.listed, Json.depth]
    omega

theorem orNull {α : Type} {toJson : α → Json} (each : ∀ a, Flat (toJson a)) (value : Option α) :
    Flat (ComputeNode.orNull toJson value) := by
  cases value with
  | none => exact null
  | some a => exact each a

end Flat

/-- Every field of a node is a scalar or a list of texts. -/
theorem flat_of_mem_fields (x : ComputeNode) : ∀ field ∈ x.fields, Flat field.2 := by
  simp only [fields, Member.text, Member.number, nullable_map, List.forall_mem_cons]
  exact ⟨.orNull .string _, .orNull .string _, .string _, .orNull .number _, .orNull .number _,
    .orNull (fun _ => .string _) _, .listed _, .listed _, .orNull .string _, .orNull .string _,
    .listed _, List.forall_mem_nil _⟩

/-- The line of a node is read as its object. -/
theorem parse?_line (x : ComputeNode) : Json.parse? x.line = some (.object x.members) := by
  have flat := flat_of_mem_fields x
  have depths : Json.membersDepth x.fields ≤ 1 :=
    Json.membersDepth_le_iff.2 fun field member => (flat field member).depth_le
  have room : (Json.object x.fields).depth ≤ Json.maxDepth := by
    rw [Json.depth, Json.maxDepth]
    omega
  rw [line, Json.parse?_compact_object (fun field member => (flat field member).ordered)
    (.object fun field member => (flat field member).integral) room, sortMembers_fields]

end ComputeNode

end CloudInventory
