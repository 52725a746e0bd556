import CloudInventory.Proofs.Network.MatchText

/-!
# Canonical text of address matches

Every address, with or without a prefix length that fits it, and negated or not, is a
match that is read back from its text. So the text stands for the match: a rule that
was written in another text form has the same canonical text exactly if it has the same
match.

Results:
1. `AddressBlock.ofParts_of_fits` and `AddressBlock.ofParts_of_long`: when an address
   and a prefix length are a block.
2. `AddressMatch.text_injective`: different matches have different texts.
3. `AddressMatch.text_canonical`: reading and writing of matches together.
-/

namespace CloudInventory

/-! ## Blocks -/

namespace AddressBlock

/-- The prefix is no longer than the address. -/
def WithinWidth (x : AddressBlock) : Prop :=
  ∀ length ∈ x.prefixLength, length.toNat ≤ x.address.width

theorem ofParts_of_fits {address : IpAddress} {length : Option UInt8}
    (fits : ∀ n ∈ length, n.toNat ≤ address.width) :
    ofParts address length = .ok ⟨address, length, fits⟩ :=
  ofParts_eq ⟨address, length, fits⟩

theorem ofParts_of_long {address : IpAddress} {length : UInt8}
    (long : address.width < length.toNat) :
    ofParts address (some length) = .error (.address (cidrText address (some length))) := by
  rw [ofParts, dif_neg (Nat.not_le_of_lt long)]

/-- A written block is read as it. -/
theorem parse_cidr (x : AddressBlock) : parse x.cidr = .ok x :=
  (parse_cidrText x.address x.prefixLength).trans x.ofParts_eq

end AddressBlock

/-! ## Matches -/

namespace AddressMatch

/-- Different matches have different texts. -/
theorem text_injective : Function.Injective text := by
  intro x y same
  have read := x.parse_text
  rw [same, y.parse_text] at read
  cases read
  rfl

/-- An address and a prefix length that fits it are a block, and the block and both
matches of it are read back from their texts; a longer prefix is refused, as parts and
as text. The text of a match is canonical: it is read as the match, and texts of the
same match, and only they, have the same one. No block has too long a prefix, however
it came about. IPv6 text is the canonical form, with points only for a mapped address,
and every standard text form, and nothing else, is read as the address. -/
theorem text_canonical :
    (∀ (address : IpAddress) (length : Option UInt8),
      (∀ n ∈ length, n.toNat ≤ address.width) →
      ∃ block : AddressBlock, AddressBlock.ofParts address length = .ok block ∧
        block.address = address ∧ block.prefixLength = length ∧
        AddressBlock.parse block.cidr = .ok block ∧
        ∀ negated, parse (text ⟨block, negated⟩) = .ok (some ⟨block, negated⟩)) ∧
    (∀ (address : IpAddress) (length : UInt8), address.width < length.toNat →
      AddressBlock.ofParts address (some length) =
          .error (.address (AddressBlock.cidrText address (some length))) ∧
        AddressBlock.parse (AddressBlock.cidrText address (some length)) =
          .error (.address (AddressBlock.cidrText address (some length)))) ∧
    Function.Injective text ∧
    (∀ (raw : String) (x : AddressMatch), parse raw = .ok (some x) →
      parse x.text = .ok (some x) ∧
        ∀ (other : String) (y : AddressMatch), parse other = .ok (some y) →
          (y.text = x.text ↔ parse other = parse raw)) ∧
    ((∀ (address : IpAddress) (length : Option UInt8) (block : AddressBlock),
        AddressBlock.ofParts address length = .ok block → block.WithinWidth) ∧
      (∀ (raw : String) (block : AddressBlock),
        AddressBlock.parse raw = .ok block → block.WithinWidth) ∧
      (∀ ipv6, (AddressBlock.unrestricted ipv6).WithinWidth) ∧
      ∀ x : AddressMatch, x.collapsed.WithinWidth) ∧
    (∀ (x : Ipv6) (cs : List Char),
      (Ipv6.CanonicalForm x cs ↔ cs = (IpAddress.v6 x).text.toList) ∧
        (Ipv6.CanonicalForm x cs → ('.' ∈ cs ↔ ∃ v4, x.Maps v4))) ∧
    (∀ (x : Ipv6) (cs : List Char),
      IpAddress.read? cs = some (.v6 x) ↔ Ipv6.Denotes cs x) := by
  refine ⟨?_, ?_, text_injective, ?_, ?_, ?_, fun x cs => IpAddress.read?_eq_v6_iff⟩
  · intro address length fits
    exact ⟨⟨address, length, fits⟩, AddressBlock.ofParts_of_fits fits, rfl, rfl,
      AddressBlock.parse_cidr _, fun negated => parse_text _⟩
  · intro address length long
    have refused := AddressBlock.ofParts_of_long long
    exact ⟨refused, (AddressBlock.parse_cidrText address (some length)).trans refused⟩
  · intro raw x read
    refine ⟨x.parse_text, fun other y readOther => ?_⟩
    rw [read, readOther, text_injective.eq_iff, Except.ok.injEq, Option.some.injEq]
  · exact ⟨fun _ _ block _ => block.prefix_le, fun _ block _ => block.prefix_le,
      fun ipv6 => (AddressBlock.unrestricted ipv6).prefix_le, fun x => x.collapsed.prefix_le⟩
  · intro x cs
    rw [IpAddress.text, String.toList_ofList]
    exact ⟨Ipv6.canonicalForm_iff, fun canonical => canonical.point_mem_iff⟩

/-! ## One match in two texts -/

namespace TextExamples

/-- An address in which two groups of zeros in a row stand twice. -/
def address : IpAddress :=
  .v6 ⟨#v[0x2001, 0xDB8, 0, 0, 1, 0, 0, 1]⟩

/-- The addresses outside of its network. -/
def outside : AddressMatch :=
  ⟨⟨address, some 64, by simp [address, IpAddress.width]⟩, true⟩

end TextExamples

open TextExamples in
/-- Blanks, capitals, leading zeros, the run that is left out and the way the prefix is
written make no difference to the match, and so none to its canonical text. -/
theorem text_canonical_outside :
    parse " ! 2001:0DB8::1:0:0:1/+064 " = .ok (some outside) ∧
      outside.text = "!2001:db8::1:0:0:1/64" ∧
      parse outside.text = .ok (some outside) ∧
      parse "!2001:db8:0:0:1::1/64" = parse " ! 2001:0DB8::1:0:0:1/+064 " ∧
      (∃ block : AddressBlock, AddressBlock.parse block.cidr = .ok block ∧
        block.address = address ∧ block.prefixLength = some 64) ∧
      AddressBlock.parse (AddressBlock.cidrText address (some 129)) =
        .error (.address "2001:db8::1:0:0:1/129") := by
  obtain ⟨blocks, refused, -, canonical, -⟩ := text_canonical
  have read : parse " ! 2001:0DB8::1:0:0:1/+064 " = .ok (some outside) := rfl
  have readOther : parse "!2001:db8:0:0:1::1/64" = .ok (some outside) := rfl
  obtain ⟨same, others⟩ := canonical _ _ read
  obtain ⟨block, -, parts, length, readBlock, -⟩ :=
    blocks address (some 64) (by simp [address, IpAddress.width])
  exact ⟨read, rfl, same, (others _ _ readOther).1 rfl, ⟨block, readBlock, parts, length⟩,
    (refused address 129 (by decide)).2⟩

end AddressMatch

end CloudInventory
