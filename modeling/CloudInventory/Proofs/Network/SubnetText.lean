import CloudInventory.Proofs.Envelope.Records
import CloudInventory.Proofs.Network.CanonicalText
import CloudInventory.Proofs.Scalar.IntegerRanges
import CloudInventory.Proofs.Schema.GivenFields
import CloudInventory.Resource.Allocation

/-!
# Subnets of addresses

The details of an address have the length of the prefix of its subnet, and the two together
are shown as a block. The address may be written in any text form, and the length in any
encoding of an integer; what is shown is read as the block of the two, if the length fits the
family of the address. Decoding does not see to that: it takes every length of a byte, so of a
length that is too long the text is shown as well, and is no block.

Results:
1. `IpInfo.exists_cidr`: the text of an address with the length of its prefix.
2. `IpInfo.netmask_of_decode`: the length that a record is decoded to.
3. `IpInfo.decode_of_outside`: lengths that are an error.
4. `IpInfo.cidr_exact`: when the text that is shown is a block.
-/

namespace CloudInventory

/-- An address and a length are the parts of a block exactly if the length fits. -/
theorem AddressBlock.exists_ofParts_iff {address : IpAddress} {length : Option UInt8} :
    (∃ block, ofParts address length = .ok block ∧ block.address = address ∧
      block.prefixLength = length) ↔ ∀ n ∈ length, n.toNat ≤ address.width := by
  constructor
  · rintro ⟨block, -, rfl, rfl⟩
    exact block.prefix_le
  · exact fun fits => ⟨_, ofParts_of_fits fits, rfl, rfl⟩

namespace IpInfo

variable {x : IpInfo} {json record : Json} {text : String} {address : IpAddress}

/-! ## The text of a subnet -/

/-- What is shown is the address as it is written, with the length of its prefix. -/
theorem exists_cidr (given : x.address = some text) :
    ∃ cidr, x.cidr = some cidr ∧
      cidr.toList = text.toList ++ AddressBlock.prefixChars x.netmask := by
  rw [cidr, given]
  cases x.netmask with
  | none => exact ⟨text, rfl, (List.append_nil _).symm⟩
  | some length =>
    have slash : "/".toList = ['/'] := rfl
    refine ⟨_, rfl, ?_⟩
    simp only [AddressBlock.prefixChars, Text.numeralText, String.toList_append, slash,
      String.toList_ofList, List.append_assoc, List.singleton_append]

/-- It is read as the block of the two, or refused like it. -/
theorem parse_cidr (given : x.address = some text)
    (valid : IpAddress.read? text.toList = some address) :
    ∃ cidr, x.cidr = some cidr ∧
      AddressBlock.parse cidr = AddressBlock.ofParts address x.netmask := by
  obtain ⟨cidr, shown, chars⟩ := exists_cidr given
  exact ⟨cidr, shown, AddressBlock.parse_of_read? valid chars⟩

/-! ## The length of the prefix -/

/-- What a record gives for the length of the prefix. -/
def givenNetmask? (json : Json) : Option Scalar :=
  (RecordKind.ip.given? json "netmask").bind Scalar.ofJson?

theorem scalarField_netmask (read : RecordKind.ip.read json = .ok record) :
    record.scalarField "netmask" = givenNetmask? json := by
  rw [Json.scalarField, RecordKind.member?_eq_given? read rfl (.inr rfl), givenNetmask?]

/-- The length is unset if none is given, and else it is the integer that is given. -/
theorem netmask_of_decode (decoded : Resource.decode json = .ok x) :
    (givenNetmask? json = none → x.netmask = none) ∧
    ∀ s ∈ givenNetmask? json, ∃ length, x.netmask = some length ∧ s.TakenAs length.toNat := by
  obtain ⟨record, read, made⟩ := Resource.decode_eq_ok_iff.1 decoded
  simp only [Resource.ofRecord, ofRecord, bind_eq_ok_iff] at made
  obtain ⟨ip, -, netmask, taken, _, -, _, -, made⟩ := made
  cases made
  rw [Json.boundedField, scalarField_netmask read] at taken
  constructor
  · intro absent
    rw [absent] at taken
    cases taken
    rfl
  · intro s given
    rw [Option.mem_def.1 given] at taken
    obtain ⟨length, bounded, rfl⟩ := map_eq_ok_iff.1 taken
    exact ⟨length, rfl, Scalar.takenAs_of_toBounded bounded⟩

/-- The length is an integer of a byte. -/
theorem not_decode_of_outside {s : Scalar} (given : givenNetmask? json = some s)
    (outside : ∀ n, s.TakenAs n → ¬ (0 ≤ n ∧ n < 256)) : Resource.decode json ≠ .ok x := by
  intro decoded
  obtain ⟨length, -, taken⟩ := (netmask_of_decode decoded).2 s given
  exact outside _ taken ⟨by omega, by have := length.toNat_lt; omega⟩

/-- Any other is an error that names the field, unless the record has a fault before it. -/
theorem decode_of_outside {s : Scalar} (given : givenNetmask? json = some s)
    (outside : ∀ n, s.TakenAs n → ¬ (0 ≤ n ∧ n < 256)) {ip : Ip}
    (read : RecordKind.ip.read json = .ok record) (before : Ip.ofRecord record = .ok ip) :
    Resource.decode json =
      (.error (.integer "netmask" s.plainText) : Except DecodeError IpInfo) := by
  have refused : record.boundedField UInt8 "netmask" = .error (.integer "netmask" s.plainText) := by
    rw [Json.boundedField, scalarField_netmask read, given]
    change (Scalar.toBounded UInt8 "netmask" s).map some = _
    cases taken : Scalar.toBounded UInt8 "netmask" s with
    | error fault => rw [Scalar.eq_of_toBounded_error taken]; rfl
    | ok length =>
      have bound := length.toNat_lt
      exact absurd ⟨by omega, by omega⟩ (outside length.toNat (Scalar.takenAs_of_toBounded taken))
  have kind : Resource.kind IpInfo = .ip := rfl
  rw [Resource.decode, kind, read]
  change ofRecord record = _
  rw [ofRecord, before, refused]
  rfl

/-! ## Subnets -/

/-- The text of every address with the length of its prefix. The length is unset if the record
gives none, and else it is the integer that the record gives, in whatever encoding. What is
shown is read as the block of the two exactly if the length fits the family of the address, and
a longer one is refused as a block. A length that is no integer of a byte is an error of the
record; whether it fits the family makes no difference there. -/
theorem cidr_exact (json : Json) :
    (∀ x : IpInfo, Resource.decode json = .ok x →
      (∀ text address, x.address = some text → IpAddress.read? text.toList = some address →
        ∃ cidr, x.cidr = some cidr ∧
          ((∃ block, AddressBlock.parse cidr = .ok block ∧ block.address = address ∧
              block.prefixLength = x.netmask) ↔
            ∀ length ∈ x.netmask, length.toNat ≤ address.width) ∧
          ∀ length ∈ x.netmask, address.width < length.toNat → AddressBlock.parse cidr =
            .error (.address (AddressBlock.cidrText address (some length)))) ∧
      (givenNetmask? json = none → x.netmask = none) ∧
      ∀ s ∈ givenNetmask? json, ∃ length, x.netmask = some length ∧
        ∀ n, s.TakenAs n ↔ n = length.toNat) ∧
    ∀ s ∈ givenNetmask? json, (∀ n, s.TakenAs n → ¬ (0 ≤ n ∧ n < 256)) →
      (∀ x : IpInfo, Resource.decode json ≠ .ok x) ∧
      ∀ record ip, RecordKind.ip.read json = .ok record → Ip.ofRecord record = .ok ip →
        Resource.decode json =
          (.error (.integer "netmask" s.plainText) : Except DecodeError IpInfo) := by
  refine ⟨fun x decoded => ?_, fun s given outside => ⟨fun x => not_decode_of_outside given outside,
    fun record ip read before => decode_of_outside given outside read before⟩⟩
  obtain ⟨unset, taken⟩ := netmask_of_decode decoded
  refine ⟨fun text address given valid => ?_, unset, fun s there => ?_⟩
  · obtain ⟨cidr, shown, parts⟩ := parse_cidr given valid
    refine ⟨cidr, shown, ?_⟩
    rw [parts]
    refine ⟨AddressBlock.exists_ofParts_iff, fun length there long => ?_⟩
    rw [Option.mem_def.1 there, AddressBlock.ofParts_of_long long]
  · obtain ⟨length, same, as⟩ := taken s there
    exact ⟨length, same, fun n => ⟨fun other => other.unique as, fun equal => equal ▸ as⟩⟩

/-! ## A length that fits, and one that does not -/

namespace SubnetExamples

/-- A record with an address and the length of its prefix. -/
def allocated (address : String) (netmask : Json) : Json :=
  .object [("netmask", netmask), ("uuid", .string address)]

def number (n : Int) (fits : FitsWord n) : Json :=
  .number (.integer n fits)

/-- What such a record is decoded to. -/
def info (address : String) (length : UInt8) : IpInfo :=
  { ip := { uuid := some address }, netmask := some length }

/-- The address that is written `2001:0DB8::7`. -/
def host : IpAddress :=
  .v6 ⟨#v[0x2001, 0xDB8, 0, 0, 0, 0, 0, 7]⟩

end SubnetExamples

open SubnetExamples in
/-- An address in a text form that is not the canonical one, with a length as text; and a
length that no byte has. -/
theorem cidr_exact_written :
    Resource.decode (allocated "2001:0DB8::7" (.string " 064")) = .ok (info "2001:0DB8::7" 64) ∧
      (info "2001:0DB8::7" 64).cidr = some "2001:0DB8::7/64" ∧
      (∃ block, AddressBlock.parse "2001:0DB8::7/64" = .ok block ∧ block.address = host ∧
        block.prefixLength = some 64) ∧
      (Resource.decode (allocated "2001:0DB8::7" (number 256 (by decide))) :
        Except DecodeError IpInfo) = .error (.integer "netmask" "256") := by
  have decoded : Resource.decode (allocated "2001:0DB8::7" (.string " 064")) =
      .ok (info "2001:0DB8::7" 64) := by
    change ofRecord _ = _
    rw [ofRecord, Ip.ofRecord]
    rfl
  have before : Ip.ofRecord (allocated "2001:0DB8::7" (number 256 (by decide))) =
      .ok { uuid := some "2001:0DB8::7" } := by
    rw [Ip.ofRecord]
    rfl
  obtain ⟨cidr, shown, block, -⟩ :=
    ((cidr_exact _).1 _ decoded).1 "2001:0DB8::7" host rfl rfl
  cases Option.some.inj shown
  have outside : ∀ n, (Scalar.number (.integer 256 (by decide))).TakenAs n →
      ¬ (0 ≤ n ∧ n < 256) := by
    intro n taken
    rw [taken.unique (.integer _)]
    decide
  have fits : ∀ length ∈ (info "2001:0DB8::7" 64).netmask, length.toNat ≤ host.width := by
    rintro length ⟨⟩
    decide
  have refused := (cidr_exact (allocated "2001:0DB8::7" (number 256 (by decide)))).2 _ rfl outside
  exact ⟨decoded, rfl, block.2 fits, refused.2 _ _ rfl before⟩

open SubnetExamples in
/-- A length that no IPv4 address has is decoded, and the text that is shown is no block. -/
theorem long_netmask_decoded :
    Resource.decode (allocated "185.12.6.183" (number 33 (by decide))) =
        .ok (info "185.12.6.183" 33) ∧
      (info "185.12.6.183" 33).cidr = some "185.12.6.183/33" ∧
      AddressBlock.parse "185.12.6.183/33" = .error (.address "185.12.6.183/33") := by
  refine ⟨?_, rfl, rfl⟩
  change ofRecord _ = _
  rw [ofRecord, Ip.ofRecord]
  rfl

end IpInfo

end CloudInventory
