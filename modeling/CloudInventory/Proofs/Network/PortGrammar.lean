import CloudInventory.Proofs.Network.MatchText
import CloudInventory.Proofs.Network.Membership
import CloudInventory.Proofs.Text.SignedNumeral

/-!
# The text forms of port ranges

The specification of ports as a grammar, and the reader against it. A port may have a plus
sign and zeros in front, and blanks around it. One mark in front inverts the match, with
blanks behind it or not. A second mark, a second colon, a blank inside a number and bounds in
the wrong order are errors, and the error shows the whole text without the blanks at its ends.

Results:
1. `PortRange.readPort?_eq_some_iff`, `PortRange.readBounds?_eq_some_iff` and
   `PortRange.parse_eq_ok_some_iff`: each reader accepts exactly what the grammar allows.
2. `PortRange.parse_eq_ok_none_iff` and `PortRange.parse_eq_error_iff`: the other outcomes.
3. `PortRange.specification_exact`: the reader, the two makers and what holds of every range.
-/

namespace CloudInventory

namespace PortRange

/-! ## The grammar -/

/-- A port: its digits with an optional plus sign, and blanks around them. -/
def IsPort (cs : List Char) (port : UInt16) : Prop :=
  Text.Padded (Text.IsPlusNumeralOf · port.toNat) cs

/-- One port, or two with a colon between them, the first at most the second. -/
inductive IsBounds : List Char → PortRange → Prop
  | one {cs : List Char} {port : UInt16} (written : IsPort cs port) :
    IsBounds cs ⟨port, port, false, UInt16.le_refl port⟩
  | two {front back : List Char} {first last : UInt16} (lower : IsPort front first)
    (upper : IsPort back last) (ordered : first ≤ last) :
    IsBounds (front ++ ':' :: back) ⟨first, last, false, ordered⟩

/-- The bounds of a range; behind a mark with or without blanks, those of an inverted one. -/
inductive IsSpecification : List Char → PortRange → Prop
  | plain {cs : List Char} {x : PortRange} (bounds : IsBounds cs x) : IsSpecification cs x
  | inverted {blanks cs : List Char} {x : PortRange}
    (blank : ∀ c ∈ blanks, Text.isBlank c = true) (bounds : IsBounds cs x) :
    IsSpecification ('!' :: (blanks ++ cs)) ⟨x.first, x.last, true, x.first_le_last⟩

/-! ## Ports -/

section

variable {cs : List Char} {port : UInt16}

theorem readPort?_eq_some_iff : readPort? cs = some port ↔ IsPort cs port := by
  rw [readPort?, IsPort, ← Text.readPlusNumeral?_trim_iff, Option.bind_eq_some_iff]
  constructor
  · rintro ⟨n, read, fits⟩
    obtain ⟨small, same⟩ := Option.ite_none_right_eq_some.1 fits
    rw [read, ← Option.some.inj same, UInt16.toNat_ofNat', Nat.mod_eq_of_lt small]
  · intro read
    refine ⟨port.toNat, read, ?_⟩
    rw [if_pos port.toNat_lt, UInt16.ofNat_toNat]

/-- A port is written with digits and a plus sign, between blanks. -/
theorem IsPort.chars (written : IsPort cs port) :
    ∀ c ∈ cs, Text.isBlank c = true ∨ c = '+' ∨ '0' ≤ c ∧ c ≤ '9' := by
  obtain ⟨before, core, after, rfl, blankBefore, blankAfter, numeral⟩ := written
  have inside : ∀ c ∈ core, c = '+' ∨ '0' ≤ c ∧ c ≤ '9' := by
    cases numeral with
    | plain number => exact fun c member => .inr (number.digits c member)
    | plus number => exact List.forall_mem_cons.2 ⟨.inl rfl, fun c member =>
        .inr (number.digits c member)⟩
  simp only [List.forall_mem_append]
  exact ⟨⟨fun c member => .inl (blankBefore c member), fun c member => .inr (inside c member)⟩,
    fun c member => .inl (blankAfter c member)⟩

theorem IsPort.no_colon (written : IsPort cs port) : ∀ c ∈ cs, c ≠ ':' := by
  rintro c member rfl
  exact absurd (written.chars _ member) (by decide)

theorem IsPort.no_mark (written : IsPort cs port) : ∀ c ∈ cs, c ≠ '!' := by
  rintro c member rfl
  exact absurd (written.chars _ member) (by decide)

/-- Blanks in front of a port are part of it. -/
theorem IsPort.trimStart (written : IsPort cs port) : IsPort (Text.trimStart cs) port := by
  rw [← readPort?_eq_some_iff] at written ⊢
  rwa [readPort?, Text.trim_trimStart]

end

/-! ## Bounds -/

section

variable {cs : List Char} {x : PortRange}

/-- The first colon decides, since a port has none. -/
theorem readBounds?_eq_some_iff : readBounds? cs = some x ↔ IsBounds cs x := by
  constructor
  · intro read
    by_cases colon : ':' ∈ cs
    · obtain ⟨front, back, rfl, notInFront⟩ := List.eq_append_cons_of_mem colon
      have noColon : ∀ c ∈ front, c ≠ ':' := fun c member same => notInFront (same ▸ member)
      rw [readBounds?_of_colon noColon] at read
      obtain ⟨first, lower, read⟩ := Option.bind_eq_some_iff.1 read
      obtain ⟨last, upper, read⟩ := Option.bind_eq_some_iff.1 read
      rw [range] at read
      split at read
      next ordered =>
        cases read
        exact .two (readPort?_eq_some_iff.1 lower) (readPort?_eq_some_iff.1 upper) ordered
      next => cases read
    · have noColon : ∀ c ∈ cs, c ≠ ':' := fun c member same => colon (same ▸ member)
      rw [readBounds?_of_no_colon noColon] at read
      obtain ⟨port, written, rfl⟩ := Option.map_eq_some_iff.1 read
      exact .one (readPort?_eq_some_iff.1 written)
  · intro bounds
    cases bounds with
    | one written =>
      rw [readBounds?_of_no_colon written.no_colon, readPort?_eq_some_iff.2 written]
      rfl
    | two lower upper ordered =>
      rw [readBounds?_of_colon lower.no_colon, readPort?_eq_some_iff.2 lower,
        readPort?_eq_some_iff.2 upper, Option.bind_some, Option.bind_some, range, dif_pos ordered]
      rfl

theorem IsBounds.not_negated (bounds : IsBounds cs x) : x.negated = false := by
  cases bounds <;> rfl

theorem IsBounds.head?_ne (bounds : IsBounds cs x) : cs.head? ≠ some '!' := by
  intro mark
  cases bounds with
  | one written => exact written.no_mark _ (List.mem_of_mem_head? mark) rfl
  | two lower upper ordered =>
    rename_i front back first last
    cases front with
    | nil => exact absurd (Option.some.inj mark : ':' = '!') (by decide)
    | cons c front => exact lower.no_mark _ (List.mem_of_mem_head? mark) rfl

theorem IsBounds.trimStart (bounds : IsBounds cs x) : IsBounds (Text.trimStart cs) x := by
  cases bounds with
  | one written => exact .one written.trimStart
  | two lower upper ordered =>
    rw [Text.trimStart_append_cons (by decide)]
    exact .two lower.trimStart upper ordered

end

/-! ## Specifications -/

section

variable {cs : List Char} {x : PortRange}

theorem IsSpecification.negated_iff (written : IsSpecification cs x) :
    x.negated = true ↔ cs.head? = some '!' := by
  cases written with
  | plain bounds => exact iff_of_false (by rw [bounds.not_negated]; decide) bounds.head?_ne
  | inverted blank bounds => exact iff_of_true rfl rfl

/-- What is read of a text behind the trimming of its ends. -/
theorem isSpecification_iff :
    IsSpecification cs x ↔
      ∃ bounds, readBounds? (stripNegation cs).2 = some bounds ∧
        x = if (stripNegation cs).1 then bounds.negate else bounds := by
  simp only [readBounds?_eq_some_iff]
  constructor
  · intro written
    cases written with
    | plain bounds =>
      rw [stripNegation_of_head? bounds.head?_ne]
      exact ⟨x, bounds, rfl⟩
    | inverted blank bounds =>
      rename_i y
      refine ⟨y, ?_, ?_⟩
      · rw [stripNegation, Text.trimStart_blanks_append blank]
        exact bounds.trimStart
      · rw [stripNegation, if_pos rfl, negate, bounds.not_negated]
        rfl
  · rintro ⟨y, bounds, rfl⟩
    by_cases mark : cs.head? = some '!'
    · obtain ⟨rest, rfl⟩ := List.head?_eq_some_iff.1 mark
      obtain ⟨blanks, blank, parts⟩ := Text.exists_blanks_append_trimStart rest
      rw [stripNegation] at bounds ⊢
      have inverted := IsSpecification.inverted (List.all_eq_true.1 blank) bounds
      rw [← parts] at inverted
      rwa [if_pos rfl, negate, bounds.not_negated]
    · rw [stripNegation_of_head? mark] at bounds ⊢
      exact .plain bounds

end

section

variable {raw : String} {x : PortRange}

theorem parse_of_blank (blank : Text.trim raw.toList = []) : parse raw = .ok none := by
  rw [parse, blank]

/-- A text with something in it is read behind its mark. -/
theorem parse_of_filled (filled : Text.trim raw.toList ≠ []) :
    parse raw =
      match readBounds? (stripNegation (Text.trim raw.toList)).2 with
      | some bounds =>
        .ok (some (if (stripNegation (Text.trim raw.toList)).1 then bounds.negate else bounds))
      | none => .error (.port (Text.trimmed raw)) := by
  rw [parse, Text.trimmed]
  cases parts : Text.trim raw.toList with
  | nil => exact absurd parts filled
  | cons c cs => rfl

/-- A specification has something in it, since a port has. -/
theorem IsSpecification.filled {cs : List Char} (written : IsSpecification cs x) : cs ≠ [] := by
  rintro rfl
  obtain ⟨bounds, read, -⟩ := isSpecification_iff.1 written
  have nothing : readBounds? [] = none := rfl
  cases nothing.symm.trans read

theorem parse_eq_ok_none_iff :
    parse raw = .ok none ↔ ∀ c ∈ raw.toList, Text.isBlank c = true := by
  rw [← Text.trim_eq_nil_iff]
  refine ⟨fun unset => ?_, parse_of_blank⟩
  by_contra filled
  rw [parse_of_filled filled] at unset
  split at unset <;> cases unset

theorem parse_eq_ok_some_iff :
    parse raw = .ok (some x) ↔ IsSpecification (Text.trim raw.toList) x := by
  constructor
  · intro read
    have filled := mt parse_of_blank (by rw [read]; nofun)
    rw [parse_of_filled filled] at read
    rw [isSpecification_iff]
    split at read
    next bounds found =>
      cases read
      exact ⟨bounds, found, rfl⟩
    next => cases read
  · intro written
    rw [parse_of_filled written.filled]
    obtain ⟨bounds, read, rfl⟩ := isSpecification_iff.1 written
    rw [read]

/-- Every other text is an error that shows the text without the blanks at its ends. -/
theorem parse_eq_error_iff {fault : DecodeError} :
    parse raw = .error fault ↔
      fault = .port (Text.trimmed raw) ∧ (¬ ∀ c ∈ raw.toList, Text.isBlank c = true) ∧
        ∀ x, ¬ IsSpecification (Text.trim raw.toList) x := by
  simp only [← parse_eq_ok_none_iff, ← parse_eq_ok_some_iff]
  constructor
  · intro failed
    have filled := mt parse_of_blank (by rw [failed]; nofun)
    refine ⟨?_, by rw [failed]; nofun, by rw [failed]; nofun⟩
    rw [parse_of_filled filled] at failed
    split at failed
    next => cases failed
    next => exact (Except.error.inj failed).symm
  · rintro ⟨rfl, notUnset, notRead⟩
    rw [parse_of_filled (mt parse_of_blank notUnset)] at notRead ⊢
    split
    next bounds found =>
      rw [found] at notRead
      exact absurd rfl (notRead _)
    next => rfl

end

/-! ## Ranges -/

/-- A range is made of bounds in order; others are an error that shows them. -/
theorem range_eq_ok_iff {first last : UInt16} {x : PortRange} :
    range first last = .ok x ↔ x.first = first ∧ x.last = last ∧ x.negated = false := by
  constructor
  · intro made
    rw [range] at made
    split at made <;> cases made
    exact ⟨rfl, rfl, rfl⟩
  · rintro ⟨rfl, rfl, plain⟩
    rw [range, dif_pos x.first_le_last, ← plain]

theorem range_of_lt {first last : UInt16} (unordered : last < first) :
    range first last =
      .error (.port (Text.numeralText first.toNat ++ ":" ++ Text.numeralText last.toNat)) :=
  dif_neg (UInt16.not_le.2 unordered)

/-- A field holds a range if it is the text of one, or a JSON number that is a port. -/
theorem decode_eq_ok_some_iff {s : Option Scalar} {x : PortRange} :
    decode s = .ok (some x) ↔
      (∃ raw, s = some (.text raw) ∧ IsSpecification (Text.trim raw.toList) x) ∨
        ∃ (port : UInt16) (fits : FitsWord port.toNat),
          s = some (.number (.integer port.toNat fits)) ∧ x = single port := by
  simp only [← parse_eq_ok_some_iff]
  constructor
  · intro decoded
    unfold decode at decoded
    split at decoded
    next => cases decoded
    next raw => exact .inl ⟨raw, rfl, decoded⟩
    next n fits =>
      split at decoded
      next inside =>
        cases decoded
        obtain ⟨port, rfl⟩ : ∃ port : UInt16, n = (port.toNat : Int) := by
          refine ⟨.ofNat n.toNat, ?_⟩
          rw [UInt16.toNat_ofNat', Nat.mod_eq_of_lt (by omega)]
          omega
        refine .inr ⟨port, fits, rfl, ?_⟩
        rw [Int.toNat_natCast, UInt16.ofNat_toNat]
      next => cases decoded
    next => cases decoded
  · rintro (⟨raw, rfl, read⟩ | ⟨port, fits, rfl, rfl⟩)
    · exact read
    · have inside : (0 : Int) ≤ port.toNat ∧ (port.toNat : Int) < 65536 :=
        ⟨Int.natCast_nonneg _, by exact_mod_cast port.toNat_lt⟩
      rw [decode, if_pos inside, Int.toNat_natCast, UInt16.ofNat_toNat]

theorem negate_negate (x : PortRange) : x.negate.negate = x := by
  rw [negate, negate, Bool.not_not]

/-- A text is unset, a specification or an error, and a specification is the one range that
the grammar gives it. Ranges come of two bounds in order, of one port, of a field and of
negation; whichever way a range was made, its bounds are in order, it is read back from its
own text, negation undoes itself, and it contains the ports between its bounds. -/
theorem specification_exact :
    (∀ raw : String,
      (parse raw = .ok none ↔ ∀ c ∈ raw.toList, Text.isBlank c = true) ∧
      (∀ x, parse raw = .ok (some x) ↔ IsSpecification (Text.trim raw.toList) x) ∧
      (∀ x, parse raw = .ok (some x) →
        (x.negated = true ↔ (Text.trim raw.toList).head? = some '!')) ∧
      ∀ fault, parse raw = .error fault ↔
        fault = .port (Text.trimmed raw) ∧ (¬ ∀ c ∈ raw.toList, Text.isBlank c = true) ∧
          ∀ x, ¬ IsSpecification (Text.trim raw.toList) x) ∧
    (∀ first last : UInt16,
      (∀ x, range first last = .ok x ↔ x.first = first ∧ x.last = last ∧ x.negated = false) ∧
      (last < first → range first last =
        .error (.port (Text.numeralText first.toNat ++ ":" ++ Text.numeralText last.toNat)))) ∧
    (∀ s x, decode s = .ok (some x) ↔
      (∃ raw, s = some (.text raw) ∧ IsSpecification (Text.trim raw.toList) x) ∨
        ∃ (port : UInt16) (fits : FitsWord port.toNat),
          s = some (.number (.integer port.toNat fits)) ∧ x = single port) ∧
    ∀ x : PortRange,
      x.first ≤ x.last ∧
      parse x.text = .ok (some x) ∧
      (x.negate.first = x.first ∧ x.negate.last = x.last ∧ x.negate.negated = !x.negated) ∧
      x.negate.negate = x ∧
      ∀ port, x.contains port = true ↔ x.first ≤ port ∧ port ≤ x.last := by
  refine ⟨fun raw => ⟨parse_eq_ok_none_iff, fun x => parse_eq_ok_some_iff, fun x read => ?_,
    fun fault => parse_eq_error_iff⟩, fun first last => ⟨fun x => range_eq_ok_iff, range_of_lt⟩,
    fun s x => decode_eq_ok_some_iff, fun x => ?_⟩
  · exact (parse_eq_ok_some_iff.1 read).negated_iff
  · exact ⟨x.first_le_last, x.parse_text, ⟨rfl, rfl, rfl⟩, x.negate_negate,
      fun port => contains_iff⟩

/-- Blanks stand everywhere but inside the numbers; a second mark and bounds in the wrong
order are no specification. -/
theorem specification_exact_padded :
    parse "\u3000! +0022 : 00080 " = .ok (some ⟨22, 80, true, by decide⟩) ∧
      (∀ x, ¬ IsSpecification "80:22".toList x) ∧ ∀ x, ¬ IsSpecification "!!22".toList x := by
  have blank : ∀ c ∈ [' '], Text.isBlank c = true := List.forall_mem_singleton.2 (by decide)
  have lower : IsPort "+0022 ".toList 22 :=
    ⟨[], "+0022".toList, [' '], rfl, List.forall_mem_nil _, blank,
      .plus (Text.readNumeral?_eq_some_iff.1 rfl)⟩
  have upper : IsPort " 00080".toList 80 :=
    ⟨[' '], "00080".toList, [], rfl, blank, List.forall_mem_nil _,
      .plain (Text.readNumeral?_eq_some_iff.1 rfl)⟩
  refine ⟨?_, ?_, ?_⟩
  · exact ((specification_exact.1 _).2.1 _).2 (.inverted blank (.two lower upper (by decide)))
  · exact (((specification_exact.1 "80:22").2.2.2 _).1 rfl).2.2
  · exact (((specification_exact.1 "!!22").2.2.2 _).1 rfl).2.2

end PortRange

end CloudInventory
