import CloudInventory.Network.Address
import CloudInventory.Decode.Error
import CloudInventory.Text.Blank

/-!
# Address blocks

An address with an optional prefix length, such as `10.0.0.0/8`. The prefix never
exceeds the width of the family; without one the block is the address alone.
-/

namespace CloudInventory

/-- An address and the length of its network prefix. -/
structure AddressBlock where
  address : IpAddress
  prefixLength : Option UInt8
  prefix_le : ∀ length ∈ prefixLength, length.toNat ≤ address.width

namespace AddressBlock

instance : DecidableEq AddressBlock := fun x y =>
  decidable_of_iff (x.address = y.address ∧ x.prefixLength = y.prefixLength)
    (by cases x; cases y; simp)

/-- The text of an address and a prefix length, whether they fit or not. -/
def cidrText (address : IpAddress) : Option UInt8 → String
  | some length => address.text ++ "/" ++ Text.numeralText length.toNat
  | none => address.text

/-- The block of an address and a prefix length; an error if the prefix is longer
than the address. -/
def ofParts (address : IpAddress) (prefixLength : Option UInt8) :
    Except DecodeError AddressBlock :=
  match prefixLength with
  | none => .ok ⟨address, none, by simp⟩
  | some length =>
    if fits : length.toNat ≤ address.width then .ok ⟨address, some length, by simpa using fits⟩
    else .error (.address (cidrText address (some length)))

/-- A prefix length: a numeral up to 255, with an optional plus sign. -/
def readPrefix? (cs : List Char) : Option UInt8 :=
  (Text.readPlusNumeral? cs).bind fun n => if n < 256 then some (UInt8.ofNat n) else none

/-- The block of a text without blanks around it. Without a slash there is no
prefix; the prefix is read before the address. -/
def ofChars (cs : List Char) : Except DecodeError AddressBlock := do
  let fault := DecodeError.address (String.ofList cs)
  let isSlash (c : Char) : Bool := c == '/'
  let addressChars := cs.takeWhile fun c => !isSlash c
  let prefixLength ← match cs.dropWhile fun c => !isSlash c with
    | [] => pure none
    | _ :: digits =>
      match readPrefix? digits with
      | some length => pure (some length)
      | none => throw fault
  match IpAddress.read? addressChars with
  | some address => ofParts address prefixLength
  | none => throw fault

/-- The block that a text denotes, blanks around it ignored. -/
def parse (text : String) : Except DecodeError AddressBlock :=
  ofChars (Text.trim text.toList)

/-- The block of every address of a family. -/
def unrestricted (ipv6 : Bool) : AddressBlock :=
  ⟨.unspecified ipv6, some 0, by simp⟩

def isIpv6 (x : AddressBlock) : Bool :=
  x.address.isIpv6

/-- The block as text, with its prefix length if it has one. -/
def cidr (x : AddressBlock) : String :=
  cidrText x.address x.prefixLength

/-- The form in records. -/
def toJson (x : AddressBlock) : Json :=
  .object [("address", .string x.address.text),
    ("prefix_length", match x.prefixLength with
      | some length => .number (.integer length.toNat
          ⟨by omega, by have := length.toNat_lt; omega⟩)
      | none => .null)]

end AddressBlock

end CloudInventory
