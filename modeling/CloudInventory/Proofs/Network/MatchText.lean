import CloudInventory.Network.PortRange
import CloudInventory.Proofs.Network.AddressText

/-!
# Reading written matches

The text of a block, of an address match and of a port range is read as what it was
written for. The characters of addresses and numerals are neither blank nor one of
the marks around them, so the text falls apart where it was put together.

Results:
1. `AddressBlock.parse_of_read?`: an address in any text form with a prefix length is read as
   a block of the two, if they fit, and is no block otherwise.
2. `AddressMatch.parse_text`: an address match is read with its negation.
3. `PortRange.parse_text`: so is a port range.
-/

namespace CloudInventory

/-! ## The characters of addresses -/

/-- A character that addresses are written with. -/
def IsAddressChar (c : Char) : Prop :=
  Text.isHexDigit c = true ∨ c = ':' ∨ c = '.'

namespace Text

theorem isHexDigit_of_isDigit {c : Char} (digit : c.isDigit = true) : isHexDigit c = true := by
  have bounds : '0' ≤ c ∧ c ≤ '9' := by
    have codes := isDigit_iff.1 digit
    exact codes
  rw [isHexDigit, hexValue?, if_pos bounds]
  rfl

theorem bounds_of_isHexDigit {c : Char} (digit : isHexDigit c = true) :
    0x30 ≤ c.toNat ∧ c.toNat ≤ 0x66 := by
  have between {low high : Char} (inside : low ≤ c ∧ c ≤ high) :
      low.toNat ≤ c.toNat ∧ c.toNat ≤ high.toNat := inside
  unfold isHexDigit hexValue? at digit
  split at digit
  next inside => exact ⟨(between inside).1, Nat.le_trans (between inside).2 (by decide)⟩
  next =>
    split at digit
    next inside => exact ⟨Nat.le_trans (by decide) (between inside).1, (between inside).2⟩
    next =>
      split at digit
      next inside =>
        exact ⟨Nat.le_trans (by decide) (between inside).1,
          Nat.le_trans (between inside).2 (by decide)⟩
      next => exact absurd digit (by simp)

end Text

namespace IsAddressChar

variable {c : Char}

/-- The class of the character as a range of codes, without the slash. -/
theorem bounds (inAddress : IsAddressChar c) :
    0x2E ≤ c.toNat ∧ c.toNat ≤ 0x66 ∧ c.toNat ≠ 0x2F := by
  rcases inAddress with digit | rfl | rfl
  · have codes := Text.bounds_of_isHexDigit digit
    omega
  · decide
  · decide

theorem visible (inAddress : IsAddressChar c) : Text.isBlank c = false := by
  have codes := inAddress.bounds
  exact Text.isBlank_of_ascii (by omega) (by omega)

theorem ne_slash (inAddress : IsAddressChar c) : c ≠ '/' := by
  rintro rfl
  exact inAddress.bounds.2.2 rfl

theorem ne_negation (inAddress : IsAddressChar c) : c ≠ '!' := by
  rintro rfl
  exact absurd inAddress.bounds.1 (by decide)

theorem ofDigit (digit : c.isDigit = true) : IsAddressChar c :=
  .inl (Text.isHexDigit_of_isDigit digit)

end IsAddressChar

theorem Ipv4.isAddressChar_of_mem_chars (x : Ipv4) : ∀ c ∈ x.chars, IsAddressChar c := by
  have numeral (n : Nat) : ∀ c ∈ Text.numeral n, IsAddressChar c :=
    fun c member => .ofDigit (Text.isDigit_of_mem_numeral c member)
  have point : IsAddressChar '.' := .inr (.inr rfl)
  simp only [chars, List.forall_mem_append, List.forall_mem_cons]
  exact ⟨numeral _, point, numeral _, point, numeral _, point, numeral _⟩

namespace Ipv6

theorem Spells.isAddressChar {first dotted : Bool} {cs : List Char} {groups : List UInt16}
    (spells : Spells first dotted cs groups) : ∀ c ∈ cs, IsAddressChar c := by
  have colon (first : Bool) : ∀ c ∈ separator first, IsAddressChar c := by
    cases first with
    | true => exact List.forall_mem_nil _
    | false => exact List.forall_mem_singleton.2 (.inr (.inl rfl))
  induction spells with
  | none => exact List.forall_mem_nil _
  | group digits later ih =>
    exact List.forall_mem_append.2 ⟨colon _, List.forall_mem_append.2
      ⟨fun c member => .inl (digits.digits c member), ih⟩⟩
  | embedded v4 => exact List.forall_mem_append.2 ⟨colon _, v4.isAddressChar_of_mem_chars⟩

theorem Denotes.isAddressChar {cs : List Char} {x : Ipv6} (denotes : Denotes cs x) :
    ∀ c ∈ cs, IsAddressChar c := by
  have colon : IsAddressChar ':' := .inr (.inl rfl)
  cases denotes with
  | full groups => exact groups.isAddressChar
  | shortened first last =>
    simp only [List.forall_mem_append, List.forall_mem_cons]
    exact ⟨first.isAddressChar, colon, colon, last.isAddressChar⟩

end Ipv6

/-- Every text form of an address is written with these characters. -/
theorem IpAddress.isAddressChar_of_read? {cs : List Char} {x : IpAddress}
    (found : read? cs = some x) : ∀ c ∈ cs, IsAddressChar c := by
  cases x with
  | v4 x => exact read?_eq_v4_iff.1 found ▸ x.isAddressChar_of_mem_chars
  | v6 x => exact (read?_eq_v6_iff.1 found).isAddressChar

theorem IpAddress.isAddressChar_of_mem_chars (x : IpAddress) : ∀ c ∈ x.chars, IsAddressChar c :=
  isAddressChar_of_read? x.read?_chars

theorem IpAddress.chars_ne_nil (x : IpAddress) : x.chars ≠ [] := by
  intro empty
  have noAddress : read? [] = none := rfl
  have read := x.read?_chars
  rw [empty, noAddress] at read
  exact absurd read (by simp)

/-! ## Blocks -/

namespace AddressBlock

/-- A prefix length with its slash, if there is one. -/
def prefixChars : Option UInt8 → List Char
  | some length => '/' :: Text.numeral length.toNat
  | none => []

/-- The text of an address and a prefix length, whether they fit or not. -/
def partsChars (address : IpAddress) (length : Option UInt8) : List Char :=
  address.chars ++ prefixChars length

theorem toList_cidrText (address : IpAddress) (length : Option UInt8) :
    (cidrText address length).toList = partsChars address length := by
  rw [partsChars]
  cases length with
  | none => rw [cidrText, IpAddress.text, String.toList_ofList, prefixChars, List.append_nil]
  | some length =>
    have slash : "/".toList = ['/'] := rfl
    simp only [cidrText, IpAddress.text, Text.numeralText, String.toList_append, slash,
      String.toList_ofList, List.append_assoc, List.singleton_append, prefixChars]

/-- No text form of an address with a prefix length has blanks. -/
theorem visible_append_prefixChars {cs : List Char} {address : IpAddress}
    (found : IpAddress.read? cs = some address) (length : Option UInt8) :
    Text.Visible (cs ++ prefixChars length) := by
  have visible : Text.Visible cs :=
    fun c member => (IpAddress.isAddressChar_of_read? found c member).visible
  refine visible.append ?_
  cases length with
  | none => exact List.forall_mem_nil _
  | some length => exact (Text.visible_numeral length.toNat).cons (by decide)

theorem visible_partsChars (address : IpAddress) (length : Option UInt8) :
    Text.Visible (partsChars address length) :=
  visible_append_prefixChars address.read?_chars length

/-- The text of a block. -/
def cidrChars (x : AddressBlock) : List Char :=
  partsChars x.address x.prefixLength

theorem toList_cidr (x : AddressBlock) : x.cidr.toList = x.cidrChars :=
  toList_cidrText x.address x.prefixLength

theorem visible_cidrChars (x : AddressBlock) : Text.Visible x.cidrChars :=
  visible_partsChars x.address x.prefixLength

/-- A block does not start like a negated one. -/
theorem head?_cidrChars_ne (x : AddressBlock) : x.cidrChars.head? ≠ some '!' := by
  intro negation
  have member := List.mem_of_mem_head? negation
  rcases List.mem_append.1 member with inAddress | inPrefix
  · exact (x.address.isAddressChar_of_mem_chars _ inAddress).ne_negation rfl
  · cases found : x.prefixLength with
    | none =>
      rw [found] at inPrefix
      exact absurd inPrefix List.not_mem_nil
    | some length =>
      rw [found] at inPrefix
      rcases List.mem_cons.1 inPrefix with slash | digit
      · exact absurd slash (by decide)
      · exact absurd (Text.isDigit_of_mem_numeral _ digit) (by decide)

theorem readPrefix?_numeral (length : UInt8) :
    readPrefix? (Text.numeral length.toNat) = some length := by
  rw [readPrefix?, Text.readPlusNumeral?_numeral, Option.bind_some, if_pos length.toNat_lt,
    UInt8.ofNat_toNat]

theorem ofParts_eq (x : AddressBlock) : ofParts x.address x.prefixLength = .ok x := by
  obtain ⟨address, prefixLength, fits⟩ := x
  cases prefixLength with
  | none => rfl
  | some length =>
    have fitting : length.toNat ≤ address.width := fits length rfl
    rw [ofParts, dif_pos fitting]

/-- Any text form of an address with a prefix length is read as the two parts. -/
theorem ofChars_append_prefixChars {cs : List Char} {address : IpAddress}
    (found : IpAddress.read? cs = some address) (length : Option UInt8) :
    ofChars (cs ++ prefixChars length) = ofParts address length := by
  -- The text is taken apart at the first slash, and the address has none.
  have noSlash : ∀ c ∈ cs, (!(c == '/')) = true := by
    intro c member
    rw [Bool.not_eq_true', beq_eq_false_iff_ne]
    exact (IpAddress.isAddressChar_of_read? found c member).ne_slash
  have ends : Text.Ends (fun c => !(c == '/')) (prefixChars length) := by
    cases length with
    | none => exact Text.ends_nil _
    | some length => exact Text.ends_cons (by decide) _
  have addressChars : (cs ++ prefixChars length).takeWhile (fun c => !(c == '/')) = cs :=
    Text.takeWhile_run noSlash ends
  have rest : (cs ++ prefixChars length).dropWhile (fun c => !(c == '/')) =
      prefixChars length := Text.dropWhile_run noSlash ends
  simp only [ofChars, addressChars, rest, found]
  cases length with
  | none => rfl
  | some length =>
    simp only [prefixChars, readPrefix?_numeral]
    rfl

/-- A written address with a prefix length is read as the two parts. -/
theorem ofChars_partsChars (address : IpAddress) (length : Option UInt8) :
    ofChars (partsChars address length) = ofParts address length :=
  ofChars_append_prefixChars address.read?_chars length

/-- A written block is read with its prefix length, if it has one. -/
theorem ofChars_cidrChars (x : AddressBlock) : ofChars x.cidrChars = .ok x :=
  (ofChars_partsChars x.address x.prefixLength).trans x.ofParts_eq

/-- A text of an address and a prefix length is a block if the two fit, whatever text form the
address has. -/
theorem parse_of_read? {text : String} {cs : List Char} {address : IpAddress}
    {length : Option UInt8} (found : IpAddress.read? cs = some address)
    (chars : text.toList = cs ++ prefixChars length) : parse text = ofParts address length := by
  rw [parse, chars, Text.trim_of_visible (visible_append_prefixChars found length),
    ofChars_append_prefixChars found]

theorem parse_cidrText (address : IpAddress) (length : Option UInt8) :
    parse (cidrText address length) = ofParts address length :=
  parse_of_read? address.read?_chars (toList_cidrText address length)

end AddressBlock

/-! ## Address matches -/

theorem stripNegation_of_head? {cs : List Char} (plain : cs.head? ≠ some '!') :
    stripNegation cs = (false, cs) := by
  unfold stripNegation
  split
  · exact absurd rfl plain
  · rfl

theorem stripNegation_of_negated {cs : List Char} (visible : Text.Visible cs) :
    stripNegation ('!' :: cs) = (true, cs) := by
  rw [stripNegation, Text.trimStart_of_visible visible]

namespace AddressMatch

/-- The text of a match without blanks around it is read by its parts. -/
theorem parse_of_visible {text : String} {network : AddressBlock} {negated : Bool}
    (visible : Text.Visible text.toList) (nonempty : text.toList ≠ [])
    (parts : stripNegation text.toList = (negated, network.cidrChars)) :
    parse text = .ok (some ⟨network, negated⟩) := by
  rw [parse, Text.trim_of_visible visible]
  cases chars : text.toList with
  | nil => exact absurd chars nonempty
  | cons c cs =>
    rw [chars] at parts
    simp only [parts, Text.trim_of_visible network.visible_cidrChars,
      AddressBlock.ofChars_cidrChars]
    rfl

/-- A written match is read with its negation. -/
theorem parse_text (x : AddressMatch) : parse x.text = .ok (some x) := by
  obtain ⟨network, negated⟩ := x
  have block := network.visible_cidrChars
  cases negated with
  | true =>
    have chars : (text ⟨network, true⟩).toList = '!' :: network.cidrChars := by
      show ("!" ++ network.cidr).toList = _
      rw [String.toList_append, network.toList_cidr]
      rfl
    refine parse_of_visible ?_ ?_ ?_
    · rw [chars]
      exact block.cons (by decide)
    · rw [chars]
      exact List.cons_ne_nil _ _
    · rw [chars, stripNegation_of_negated block]
  | false =>
    have chars : (text ⟨network, false⟩).toList = network.cidrChars := network.toList_cidr
    refine parse_of_visible ?_ ?_ ?_
    · rw [chars]
      exact block
    · rw [chars]
      exact List.append_ne_nil_of_left_ne_nil network.address.chars_ne_nil _
    · rw [chars, stripNegation_of_head? network.head?_cidrChars_ne]

end AddressMatch

/-! ## Port ranges -/

namespace PortRange

/-- The text of the bounds of a range. -/
def boundsChars (x : PortRange) : List Char :=
  if x.isSingle then Text.numeral x.first.toNat
  else Text.numeral x.first.toNat ++ ':' :: Text.numeral x.last.toNat

theorem toList_boundsText (x : PortRange) : x.boundsText.toList = x.boundsChars := by
  have colon : ":".toList = [':'] := rfl
  rw [boundsText, boundsChars]
  split
  · exact String.toList_ofList
  · simp only [Text.numeralText, String.toList_append, colon, String.toList_ofList,
      List.append_assoc, List.singleton_append]

/-- The bounds are written with digits and a colon. -/
theorem isDigit_or_colon_of_mem_boundsChars (x : PortRange) :
    ∀ c ∈ x.boundsChars, c.isDigit = true ∨ c = ':' := by
  intro c member
  unfold boundsChars at member
  split at member
  · exact .inl (Text.isDigit_of_mem_numeral c member)
  · rcases List.mem_append.1 member with digit | member
    · exact .inl (Text.isDigit_of_mem_numeral c digit)
    · rcases List.mem_cons.1 member with colon | digit
      · exact .inr colon
      · exact .inl (Text.isDigit_of_mem_numeral c digit)

theorem visible_boundsChars (x : PortRange) : Text.Visible x.boundsChars := by
  intro c member
  rcases x.isDigit_or_colon_of_mem_boundsChars c member with digit | rfl
  · exact Text.isBlank_of_isDigit digit
  · decide

theorem head?_boundsChars_ne (x : PortRange) : x.boundsChars.head? ≠ some '!' := by
  intro negation
  rcases x.isDigit_or_colon_of_mem_boundsChars _ (List.mem_of_mem_head? negation) with digit | colon
  · exact absurd digit (by decide)
  · exact absurd colon (by decide)

theorem boundsChars_ne_nil (x : PortRange) : x.boundsChars ≠ [] := by
  unfold boundsChars
  split
  · exact Text.numeral_ne_nil _
  · exact List.append_ne_nil_of_left_ne_nil (Text.numeral_ne_nil _) _

theorem readPort?_numeral (port : UInt16) :
    readPort? (Text.numeral port.toNat) = some port := by
  rw [readPort?, Text.trim_of_visible (Text.visible_numeral _), Text.readPlusNumeral?_numeral,
    Option.bind_some, if_pos port.toNat_lt, UInt16.ofNat_toNat]

/-- A text without a colon is one port. -/
theorem readBounds?_of_no_colon {cs : List Char} (noColon : ∀ c ∈ cs, c ≠ ':') :
    readBounds? cs = (readPort? cs).map single := by
  have other : ∀ c ∈ cs, (!(c == ':')) = true := fun c member => by simp [noColon c member]
  have taken : cs.takeWhile (fun c => !(c == ':')) = cs := List.takeWhile_eq_self_iff.2 other
  have dropped : cs.dropWhile (fun c => !(c == ':')) = [] := List.dropWhile_eq_nil_iff.2 other
  simp only [readBounds?, taken, dropped]
  cases readPort? cs <;> rfl

/-- The first colon of a text stands between two ports. -/
theorem readBounds?_of_colon {cs : List Char} (noColon : ∀ c ∈ cs, c ≠ ':') (ds : List Char) :
    readBounds? (cs ++ ':' :: ds) =
      (readPort? cs).bind fun first =>
        (readPort? ds).bind fun last => (range first last).toOption := by
  have other : ∀ c ∈ cs, (!(c == ':')) = true := fun c member => by simp [noColon c member]
  have ends : Text.Ends (fun c => !(c == ':')) (':' :: ds) := Text.ends_cons (by decide) ds
  simp only [readBounds?, Text.takeWhile_run other ends, Text.dropWhile_run other ends]
  rfl

theorem no_colon_numeral (n : Nat) : ∀ c ∈ Text.numeral n, c ≠ ':' := by
  rintro c member rfl
  exact absurd (Text.isDigit_of_mem_numeral _ member) (by decide)

/-- Written bounds are read. -/
theorem readBounds?_boundsChars (x : PortRange) :
    readBounds? x.boundsChars = some { x with negated := false } := by
  unfold boundsChars
  split
  next one =>
    have same : x.first = x.last := beq_iff_eq.1 one
    rw [readBounds?_of_no_colon (no_colon_numeral _), readPort?_numeral]
    obtain ⟨first, last, negated, ordered⟩ := x
    obtain rfl : first = last := same
    rfl
  next =>
    rw [readBounds?_of_colon (no_colon_numeral _), readPort?_numeral, readPort?_numeral,
      Option.bind_some, Option.bind_some, range, dif_pos x.first_le_last]
    rfl

/-- The text of a range without blanks around it is read by its parts. -/
theorem parse_of_visible {text : String} {x : PortRange}
    (visible : Text.Visible text.toList) (nonempty : text.toList ≠ [])
    (parts : stripNegation text.toList = (x.negated, x.boundsChars)) :
    parse text = .ok (some x) := by
  have restored : (if x.negated then ({ x with negated := false } : PortRange).negate
      else { x with negated := false }) = x := by
    obtain ⟨first, last, negated, ordered⟩ := x
    cases negated <;> rfl
  rw [parse, Text.trim_of_visible visible]
  cases chars : text.toList with
  | nil => exact absurd chars nonempty
  | cons c cs =>
    rw [chars] at parts
    simp only [parts, readBounds?_boundsChars, restored]

/-- A written range is read with its bounds and its negation. -/
theorem parse_text (x : PortRange) : parse x.text = .ok (some x) := by
  cases negated : x.negated with
  | true =>
    have chars : x.text.toList = '!' :: x.boundsChars := by
      have mark : "!".toList = ['!'] := rfl
      rw [text, if_pos negated, String.toList_append, x.toList_boundsText, mark]
      rfl
    refine parse_of_visible ?_ ?_ ?_
    · rw [chars]
      exact x.visible_boundsChars.cons (by decide)
    · rw [chars]
      exact List.cons_ne_nil _ _
    · rw [chars, stripNegation_of_negated x.visible_boundsChars, negated]
  | false =>
    have chars : x.text.toList = x.boundsChars := by
      rw [text, if_neg (by simp [negated]), x.toList_boundsText]
    refine parse_of_visible ?_ ?_ ?_
    · rw [chars]
      exact x.visible_boundsChars
    · rw [chars]
      exact x.boundsChars_ne_nil
    · rw [chars, stripNegation_of_head? x.head?_boundsChars_ne, negated]

end PortRange

end CloudInventory
