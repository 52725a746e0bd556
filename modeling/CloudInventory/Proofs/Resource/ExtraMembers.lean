import CloudInventory.Proofs.Schema.GivenFields
import CloudInventory.Proofs.Schema.Places
import CloudInventory.Resource.DriveInfo
import CloudInventory.Resource.ServerInfo

/-!
# Members that no field reads

A later version of the service may send members that the schema does not know, and it may
write `null` where it wrote nothing before. Such members do not matter, in no object that
stands for a record and at no depth: the same value is decoded, or the same error comes
out. Free-form metadata and the keys of a table are no records, and members matter there.

Results:
1. `Shape.read_of_extended`: the reader does not see a member that no field reads.
2. `Resource.decode_of_extends` and `Resource.decodeReference_of_extends`: neither do the
   decoders, for any number of such members.
3. `extra_members_invisible`: the whole of it, with new keys put in at their place.
-/

namespace CloudInventory

namespace Shape

/-- The second value is an object with one more member than the first, and no field reads
the member: its key is no field of the kind, or its value is `null`. -/
inductive Extended : Shape → Place → Json → Json → Prop
  | intro {outer : Shape} {kind : RecordKind} {key : String} {json : Json}
    (front back : List (String × Json)) (holds : outer.recordKind? = some kind)
    (unread : kind.field? key = none ∨ json = .null) :
    Extended outer [] (.object (front ++ back)) (.object (front ++ (key, json) :: back))

/-- Any number of members that no field reads have been added, anywhere in the value. -/
def Extends (shape : Shape) : Json → Json → Prop :=
  Relation.ReflTransGen fun a b => ∃ place, Within Extended shape place a b

/-! ## Reading before and after -/

/-- A member that no field reads is left out. -/
theorem readMembers_insert {fields : List (String × Shape)} {key : String} {json : Json}
    (unread : fields.lookup key = none ∨ json = .null) (front back : List (String × Json)) :
    readMembers (front ++ (key, json) :: back) fields = readMembers (front ++ back) fields := by
  induction front with
  | nil =>
    by_cases null : json = .null
    · rw [null, List.nil_append, List.nil_append, readMembers]
    · exact readMembers_cons_of_unknown null (unread.resolve_right null)
  | cons first front ih =>
    obtain ⟨other, value⟩ := first
    by_cases null : value = .null
    · rw [null, List.cons_append, List.cons_append, readMembers, readMembers, ih]
    · rw [List.cons_append, List.cons_append, readMembers, readMembers, ih]
      · exact null
      · exact null

variable {shape : Shape} {place : Place} {a b : Json}

theorem Extended.ne_null (extended : Extended shape place a b) : a ≠ .null ∧ b ≠ .null := by
  cases extended
  exact ⟨Json.noConfusion, Json.noConfusion⟩

theorem Extended.read_eq (extended : Extended shape place a b) : shape.read a = shape.read b := by
  cases extended with
  | intro front back holds unread =>
    exact read_object_congr holds (readMembers_insert unread front back).symm

/-- One more member that no field reads, anywhere in the value, does not change what is
read, be it a value or a fault. -/
theorem read_of_extended (extended : Within Extended shape place a b) :
    shape.read a = shape.read b :=
  extended.read_congr (fun _ _ _ _ => Extended.ne_null) (fun _ _ _ _ => Extended.read_eq)

/-- No number of such members does. -/
theorem read_of_extends (extended : shape.Extends a b) : shape.read a = shape.read b := by
  induction extended with
  | refl => rfl
  | tail _ step ih =>
    obtain ⟨place, once⟩ := step
    exact ih.trans (read_of_extended once)

end Shape

/-! ## New keys at their place -/

/-- A new key goes between two parts of the members. -/
theorem insertMember_of_new {α : Type} {key : String} (value : α) {members : List (String × α)}
    (new : key ∉ members.map Prod.fst) :
    ∃ front back, members = front ++ back ∧
      insertMember key value members = front ++ (key, value) :: back := by
  induction members with
  | nil => exact ⟨[], [], rfl, rfl⟩
  | cons head rest ih =>
    obtain ⟨other, otherValue⟩ := head
    rw [List.map_cons, List.mem_cons, not_or] at new
    rw [insertMember, if_neg new.1]
    split
    next => exact ⟨[], _, rfl, rfl⟩
    next =>
      obtain ⟨front, back, rfl, inserted⟩ := ih new.2
      exact ⟨(other, otherValue) :: front, back, rfl, congrArg _ inserted⟩

/-- A new member that no field reads is one more member. -/
theorem Shape.Extended.of_insertMember {outer : Shape} {kind : RecordKind} {key : String}
    {json : Json} {members : List (String × Json)} (holds : outer.recordKind? = some kind)
    (new : key ∉ members.map Prod.fst) (unread : kind.field? key = none ∨ json = .null) :
    Extended outer [] (.object members) (.object (insertMember key json members)) := by
  obtain ⟨front, back, rfl, inserted⟩ := insertMember_of_new json new
  rw [inserted]
  exact .intro front back holds unread

/-! ## Decoding before and after -/

namespace Resource

variable {α : Type} [Resource α] {a b : Json}

/-- Members that no field reads change neither the value that is decoded nor the error. -/
theorem decode_of_extends (extended : (Shape.record (kind α)).Extends a b) :
    (decode a : Except DecodeError α) = decode b := by
  have same : (kind α).read a = (kind α).read b := Shape.read_of_extends extended
  rw [decode, decode, same]

theorem decodeReference_of_extends (extended : (Shape.reference (kind α)).Extends a b) :
    (decodeReference a : Except DecodeError α) = decodeReference b := by
  have same : (kind α).readReference a = (kind α).readReference b := Shape.read_of_extends extended
  rw [decodeReference, decodeReference, same]

end Resource

/-- For every type of resources, objects that differ only in members that no field reads,
at any depth and any number of them, are decoded to the same value or fail with the same
error, in a place for a record and in a place for a reference. A member with a new key,
put in at its place in key order, is such a member in every record if its key is no field
of the kind or its value is `null`. -/
theorem extra_members_invisible :
    (∀ (α : Type) [Resource α] (a b : Json),
      ((Shape.record (Resource.kind α)).Extends a b →
        (Resource.decode a : Except DecodeError α) = Resource.decode b) ∧
      ((Shape.reference (Resource.kind α)).Extends a b →
        (Resource.decodeReference a : Except DecodeError α) = Resource.decodeReference b)) ∧
    (∀ (outer : Shape) (kind : RecordKind) (members : List (String × Json)) (key : String)
      (json : Json), outer.recordKind? = some kind → key ∉ members.map Prod.fst →
      kind.field? key = none ∨ json = .null →
      Shape.Extended outer [] (.object members) (.object (insertMember key json members))) := by
  refine ⟨fun α _ a b => ⟨?_, ?_⟩, ?_⟩
  · exact Resource.decode_of_extends
  · exact Resource.decodeReference_of_extends
  · exact fun _ _ _ _ _ holds new unread => .of_insertMember holds new unread

/-! ## A server and a drive of a later version -/

namespace ExtraMemberExamples

/-- A server with a drive and an interface, with more members at the head of the server,
of the attached drive and of the interface. -/
def server (top drive nic : List (String × Json)) : Json :=
  .object (top ++ [
    ("drives", .array [.object [("drive", .object (drive ++ [("uuid", .string "d")]))]]),
    ("nics", .array [.object (nic ++ [("vlan", .string "v")])]),
    ("uuid", .string "s")])

/-- A drive whose size is no number. -/
def unsized : List (String × Json) :=
  [("size", .string "12GB")]

def unknown : List (String × Json) :=
  [("beta", .array [.null, .bool true])]

def unset : List (String × Json) :=
  [("licenses", .null)]

end ExtraMemberExamples

open ExtraMemberExamples in
/-- A key that no schema knows in a server and in an interface, and a `null` for a field of
the drive that is shown in the place of a reference; the drive of no size fails as before. -/
theorem extra_members_invisible_server :
    (Shape.record .server).Extends (server [] [] []) (server unknown unset unknown) ∧
      (Resource.decode (server [] [] []) : Except DecodeError ServerInfo) =
        Resource.decode (server unknown unset unknown) ∧
      (Resource.decodeReference (server [] [] []) : Except DecodeError Server) =
        Resource.decodeReference (server unknown unset unknown) ∧
      (Resource.decode (.object (insertMember "beta" .null unsized)) :
        Except DecodeError DriveInfo) = .error (.magnitude "12GB") := by
  obtain ⟨same, added⟩ := extra_members_invisible
  have interface (outer : Shape) (holds : outer.recordKind? = some .server) :
      outer.Within Shape.Extended [.field "nics", .item 0] (server [] [] [])
        (server [] [] unknown) :=
    .member [_] _ holds rfl (by decide) <| .item [] [] <|
      .here <| .intro [] _ rfl (.inl (by decide))
  have drive (outer : Shape) (holds : outer.recordKind? = some .server) :
      outer.Within Shape.Extended [.field "drives", .item 0, .field "drive"]
        (server [] [] unknown) (server [] unset unknown) :=
    .member [] _ holds rfl (by decide) <| .item [] [] <| .member [] [] rfl rfl (by decide) <|
      .here <| .intro [] _ rfl (.inr rfl)
  have top (outer : Shape) (holds : outer.recordKind? = some .server) :
      outer.Within Shape.Extended [] (server [] unset unknown) (server unknown unset unknown) :=
    .here <| .intro [] _ holds (.inl (by decide))
  have servers (outer : Shape) (holds : outer.recordKind? = some .server) :
      outer.Extends (server [] [] []) (server unknown unset unknown) :=
    .tail (.tail (.single ⟨_, interface outer holds⟩) ⟨_, drive outer holds⟩) ⟨_, top outer holds⟩
  have unsized : (Shape.record .drive).Extends (.object unsized)
      (.object (insertMember "beta" .null unsized)) :=
    .single ⟨[], .here <| added _ .drive _ _ _ rfl (by decide) (.inl (by decide))⟩
  refine ⟨servers _ rfl, (same ServerInfo _ _).1 (servers _ rfl),
    (same Server _ _).2 (servers _ rfl), ?_⟩
  rw [← (same DriveInfo _ _).1 unsized]
  rfl

end CloudInventory
