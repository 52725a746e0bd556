import CloudInventory.Network.PortRange
import Mathlib.Algebra.Group.Nat.Defs

/-!
# Membership in blocks, matches and port ranges

What the network values of a firewall rule mean: which addresses lie in a block,
which an address match selects, and which ports a port range selects. An address
is compared as a number of the width of its family, so an address of one family
never lies in a block of the other.

Results:
1. `IpAddress.toNat_lt`, `IpAddress.eq_of_toNat_eq`: an address is determined by
   its family and its number, and the number fits the width of the family.
2. `AddressBlock.covers_iff_eq_of_no_prefix`: a block without a prefix is a host.
3. `AddressBlock.covers_unrestricted`: the unrestricted block is the family.
4. `AddressMatch.covers_collapsed_of_matches`: collapsing a match only widens it.
-/

namespace CloudInventory

/-! ## Addresses as numbers -/

namespace Ipv6

theorem foldl_groups_lt (groups : List UInt16) (start : Nat) :
    groups.foldl (fun sofar group => sofar * 65536 + group.toNat) start <
      (start + 1) * 65536 ^ groups.length := by
  induction groups generalizing start with
  | nil => simp
  | cons group groups ih =>
    have small := group.toNat_lt
    calc
      _ < (start * 65536 + group.toNat + 1) * 65536 ^ groups.length := ih _
      _ ≤ ((start + 1) * 65536) * 65536 ^ groups.length :=
        Nat.mul_le_mul_right _ (by omega)
      _ = (start + 1) * 65536 ^ (groups.length + 1) := by
        rw [Nat.pow_succ, Nat.mul_assoc, Nat.mul_comm 65536]

/-- The groups are the digits of the number in base 65536. -/
theorem eq_of_foldl_groups_eq {groups groups' : List UInt16} {start start' : Nat}
    (length : groups.length = groups'.length)
    (equal : groups.foldl (fun sofar group => sofar * 65536 + group.toNat) start =
      groups'.foldl (fun sofar group => sofar * 65536 + group.toNat) start') :
    start = start' ∧ groups = groups' := by
  induction groups generalizing groups' start start' with
  | nil =>
    cases groups' with
    | nil => exact ⟨equal, rfl⟩
    | cons _ _ => simp at length
  | cons group groups ih =>
    cases groups' with
    | nil => simp at length
    | cons group' groups' =>
      simp only [List.length_cons, Nat.add_right_cancel_iff] at length
      rw [List.foldl_cons, List.foldl_cons] at equal
      obtain ⟨here, rest⟩ := ih length equal
      have small := group.toNat_lt
      have small' := group'.toNat_lt
      have digit : group = group' := UInt16.toNat_inj.1 (by omega)
      exact ⟨by omega, by rw [digit, rest]⟩

theorem toNat_lt (x : Ipv6) : x.toNat < 2 ^ 128 := by
  have bound := foldl_groups_lt x.groups.toList 0
  rw [Vector.length_toList] at bound
  exact bound

theorem eq_of_toNat_eq {x y : Ipv6} (equal : x.toNat = y.toNat) : x = y := by
  obtain ⟨_, groups⟩ := eq_of_foldl_groups_eq (by simp) equal
  cases x
  cases y
  exact congrArg mk (Vector.toList_inj.1 groups)

end Ipv6

namespace Ipv4

theorem toNat_lt (x : Ipv4) : x.toNat < 2 ^ 32 := by
  have := x.a.toNat_lt
  have := x.b.toNat_lt
  have := x.c.toNat_lt
  have := x.d.toNat_lt
  unfold toNat
  omega

theorem eq_of_toNat_eq {x y : Ipv4} (equal : x.toNat = y.toNat) : x = y := by
  have := x.b.toNat_lt
  have := x.c.toNat_lt
  have := x.d.toNat_lt
  have := y.b.toNat_lt
  have := y.c.toNat_lt
  have := y.d.toNat_lt
  unfold toNat at equal
  cases x
  cases y
  simp only [mk.injEq, ← UInt8.toNat_inj]
  simp only at *
  omega

end Ipv4

namespace IpAddress

theorem toNat_lt (x : IpAddress) : x.toNat < 2 ^ x.width := by
  cases x with
  | v4 x => exact x.toNat_lt
  | v6 x => exact x.toNat_lt

theorem eq_of_toNat_eq {x y : IpAddress} (family : x.isIpv6 = y.isIpv6)
    (equal : x.toNat = y.toNat) : x = y := by
  cases x with
  | v4 x =>
    cases y with
    | v4 y => rw [Ipv4.eq_of_toNat_eq equal]
    | v6 _ => simp [isIpv6] at family
  | v6 x =>
    cases y with
    | v4 _ => simp [isIpv6] at family
    | v6 y => rw [Ipv6.eq_of_toNat_eq equal]

theorem width_eq_of_isIpv6_eq {x y : IpAddress} (family : x.isIpv6 = y.isIpv6) :
    x.width = y.width := by
  cases x <;> cases y <;> first | rfl | simp [isIpv6] at family

theorem isIpv6_unspecified (ipv6 : Bool) : (unspecified ipv6).isIpv6 = ipv6 := by
  cases ipv6 <;> rfl

end IpAddress

/-! ## Blocks -/

namespace AddressBlock

/-- The number of leading bits that the addresses of the block share. -/
def sharedBits (block : AddressBlock) : Nat :=
  match block.prefixLength with
  | some length => length.toNat
  | none => block.address.width

/-- The address is of the family of the block and agrees with it in the bits of
the prefix. -/
def Covers (block : AddressBlock) (x : IpAddress) : Prop :=
  x.isIpv6 = block.isIpv6 ∧
    x.toNat / 2 ^ (block.address.width - block.sharedBits) =
      block.address.toNat / 2 ^ (block.address.width - block.sharedBits)

instance (block : AddressBlock) (x : IpAddress) : Decidable (block.Covers x) :=
  inferInstanceAs (Decidable (_ ∧ _))

/-- A block without a prefix is the block of one host. -/
theorem covers_iff_eq_of_no_prefix {block : AddressBlock} (host : block.prefixLength = none)
    (x : IpAddress) : block.Covers x ↔ x = block.address := by
  unfold Covers sharedBits
  rw [host]
  simp only [Nat.sub_self, Nat.pow_zero, Nat.div_one]
  constructor
  · rintro ⟨family, equal⟩
    exact IpAddress.eq_of_toNat_eq family equal
  · rintro rfl
    exact ⟨rfl, rfl⟩

/-- The unrestricted block of a family holds exactly the addresses of the family. -/
theorem covers_unrestricted (ipv6 : Bool) (x : IpAddress) :
    (unrestricted ipv6).Covers x ↔ x.isIpv6 = ipv6 := by
  have family : (unrestricted ipv6).isIpv6 = ipv6 := IpAddress.isIpv6_unspecified ipv6
  constructor
  · rintro ⟨same, _⟩
    exact same.trans family
  · intro same
    refine ⟨same.trans family.symm, ?_⟩
    -- The prefix is empty, so all bits are shifted out of either number.
    have width : x.width = (unrestricted ipv6).address.width :=
      IpAddress.width_eq_of_isIpv6_eq (same.trans family.symm)
    have bound := x.toNat_lt
    have bound' := (unrestricted ipv6).address.toNat_lt
    rw [width] at bound
    change _ / 2 ^ (_ - 0) = _ / 2 ^ (_ - 0)
    rw [Nat.sub_zero, Nat.div_eq_of_lt bound, Nat.div_eq_of_lt bound']

end AddressBlock

/-! ## Matches -/

namespace AddressMatch

/-- The addresses that the match selects: those of the block, or for an inverted
match those of the same family outside it. -/
def Matches (m : AddressMatch) (x : IpAddress) : Prop :=
  if m.negated then x.isIpv6 = m.network.isIpv6 ∧ ¬ m.network.Covers x
  else m.network.Covers x

instance (m : AddressMatch) (x : IpAddress) : Decidable (m.Matches x) :=
  inferInstanceAs (Decidable
    (if m.negated then x.isIpv6 = m.network.isIpv6 ∧ ¬ m.network.Covers x
    else m.network.Covers x))

/-- The block that replaces a match holds every address that the match selects. -/
theorem covers_collapsed_of_matches {m : AddressMatch} {x : IpAddress} (selected : m.Matches x) :
    m.collapsed.Covers x := by
  unfold Matches at selected
  unfold collapsed
  split at selected
  next inverted =>
    rw [if_pos inverted, AddressBlock.covers_unrestricted]
    exact selected.1
  next plain =>
    rw [if_neg plain]
    exact selected

end AddressMatch

/-! ## Ports -/

namespace PortRange

/-- The ports that the range selects: those within the bounds, or for an inverted
range those outside. -/
def Matches (range : PortRange) (port : UInt16) : Prop :=
  range.contains port = !range.negated

instance (range : PortRange) (port : UInt16) : Decidable (range.Matches port) :=
  inferInstanceAs (Decidable (_ = _))

theorem contains_iff {range : PortRange} {port : UInt16} :
    range.contains port = true ↔ range.first ≤ port ∧ port ≤ range.last := by
  simp [contains]

end PortRange

end CloudInventory
