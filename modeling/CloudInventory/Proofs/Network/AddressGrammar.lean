import CloudInventory.Network.Address
import CloudInventory.Proofs.Text.Numeral

/-!
# The text forms of addresses

The standard text forms of an IPv6 address as a grammar, and the reader against it. A
group has one to four digits of either case, with leading zeros or without; one mark
`::` may stand for one or more zero groups; and the last two groups may be given as an
IPv4 address. An IPv4 address has one text form only.

The scanner of groups tries an IPv4 address before each group. So it matters that a
number without a point behind it is none.

Results:
1. `Ipv4.scan?_chars_append` and `Ipv4.eq_of_scan?`: what is read as an IPv4 address is
   the text of it, whatever follows that is no digit.
2. `Ipv6.scanGroups_of_spells` and `Ipv6.spells_of_scanGroups`: the scanner of groups
   reads exactly what the grammar allows.
3. `Ipv6.scan?_eq_some_iff`: so does the reader of whole addresses.
4. `IpAddress.read?_eq_v6_iff` and `IpAddress.read?_eq_v4_iff`: a text is read as an
   address exactly if it is a text form of it.
-/

namespace CloudInventory

open Text (Ends numeral)

/-! ## IPv4 -/

namespace Ipv4

/-- The first half of the address as a group of an IPv6 address. -/
def high (x : Ipv4) : UInt16 :=
  x.a.toUInt16 * 256 + x.b.toUInt16

/-- The second half of the address as a group of an IPv6 address. -/
def low (x : Ipv4) : UInt16 :=
  x.c.toUInt16 * 256 + x.d.toUInt16

/-- A written byte is read. -/
theorem scanByte?_numeral (byte : UInt8) {rest : List Char} (ends : Ends Char.isDigit rest) :
    scanByte? (numeral byte.toNat ++ rest) = some (byte, rest) := by
  have small : byte.toNat < 256 := byte.toNat_lt
  have noLeadingZero : ¬ ((numeral byte.toNat).head? = some '0' ∧
      1 < (numeral byte.toNat).length) := by
    rw [Text.head?_numeral_eq_zero_iff, Text.one_lt_length_numeral_iff]
    omega
  have accepted : ¬ (numeral byte.toNat = [] ∨ 3 < (numeral byte.toNat).length ∨
      ((numeral byte.toNat).head? = some '0' ∧ 1 < (numeral byte.toNat).length) ∨
      255 < Text.digitsValue (numeral byte.toNat)) := by
    rw [Text.digitsValue_numeral]
    rintro (empty | long | leading | large)
    · exact Text.numeral_ne_nil _ empty
    · exact absurd (Text.length_numeral_le small) (by omega)
    · exact noLeadingZero leading
    · omega
  rw [scanByte?, Text.takeWhile_run Text.isDigit_of_mem_numeral ends,
    Text.dropWhile_run Text.isDigit_of_mem_numeral ends]
  rw [if_neg accepted, Text.digitsValue_numeral, UInt8.ofNat_toNat]

theorem ends_point (rest : List Char) : Ends Char.isDigit ('.' :: rest) :=
  Text.ends_cons (by decide) rest

/-- A written address is read, whatever follows that is no digit. -/
theorem scan?_chars_append (x : Ipv4) {rest : List Char} (ends : Ends Char.isDigit rest) :
    scan? (x.chars ++ rest) = some (x, rest) := by
  obtain ⟨a, b, c, d⟩ := x
  simp only [scan?, chars, List.append_assoc, List.cons_append, scanByte?_numeral a (ends_point _),
    scanByte?_numeral b (ends_point _), scanByte?_numeral c (ends_point _),
    scanByte?_numeral d ends, scanPointByte?, Option.bind_eq_bind, Option.bind_some]
  rfl

theorem scan?_chars (x : Ipv4) : scan? x.chars = some (x, []) := by
  have read := x.scan?_chars_append (Text.ends_nil Char.isDigit)
  rwa [List.append_nil] at read

variable {cs rest : List Char}

theorem eq_of_scanByte? {byte : UInt8} (found : scanByte? cs = some (byte, rest)) :
    cs = numeral byte.toNat ++ rest := by
  unfold scanByte? at found
  simp only at found
  split at found
  next => exact absurd found (by simp)
  next accepted =>
    cases found
    simp only [not_or, not_and_or, Nat.not_lt] at accepted
    obtain ⟨nonempty, -, plain, small⟩ := accepted
    have digits : ∀ c ∈ cs.takeWhile Char.isDigit, c.isDigit = true :=
      List.all_eq_true.1 List.all_takeWhile
    have value : (UInt8.ofNat (Text.digitsValue (cs.takeWhile Char.isDigit))).toNat =
        Text.digitsValue (cs.takeWhile Char.isDigit) := by
      rw [UInt8.toNat_ofNat']
      omega
    have written := Text.numeral_digitsValue nonempty digits fun zero => by
      have := List.length_pos_iff.2 nonempty
      have := plain.resolve_left fun other => other zero
      omega
    rw [value, written, List.takeWhile_append_dropWhile]

theorem eq_of_scanPointByte? {byte : UInt8} (found : scanPointByte? cs = some (byte, rest)) :
    cs = '.' :: (numeral byte.toNat ++ rest) := by
  unfold scanPointByte? at found
  split at found
  next => rw [eq_of_scanByte? found]
  next => exact absurd found (by simp)

/-- What is read as an address is the canonical text of it. -/
theorem eq_of_scan? {x : Ipv4} (found : scan? cs = some (x, rest)) : cs = x.chars ++ rest := by
  simp only [scan?, Option.bind_eq_bind, Option.bind_eq_some_iff, Option.pure_def,
    Option.some.injEq, Prod.exists, Prod.mk.injEq] at found
  obtain ⟨a, behindA, foundA, b, behindB, foundB, c, behindC, foundC, d, behindD, foundD, rfl,
    rfl⟩ := found
  rw [eq_of_scanByte? foundA, eq_of_scanPointByte? foundB, eq_of_scanPointByte? foundC,
    eq_of_scanPointByte? foundD]
  simp only [chars, List.append_assoc, List.cons_append]

/-- A number that no point follows is no address. -/
theorem scan?_of_no_point_behind (other : (cs.dropWhile Char.isDigit).head? ≠ some '.') :
    scan? cs = none := by
  cases found : scan? cs with
  | none => rfl
  | some result =>
    obtain ⟨x, rest⟩ := result
    -- The text starts with a numeral and a point.
    have text := eq_of_scan? found
    rw [chars, List.append_assoc, List.cons_append] at text
    rw [text, Text.dropWhile_run Text.isDigit_of_mem_numeral (ends_point _)] at other
    exact absurd rfl other

end Ipv4

/-! ## IPv6 -/

namespace Ipv6

/-! ### The grammar -/

/-- The digits of a group: one to four, of either case. -/
structure IsGroup (ds : List Char) (group : UInt16) : Prop where
  nonempty : ds ≠ []
  short : ds.length ≤ 4
  digits : ∀ c ∈ ds, Text.isHexDigit c = true
  value : Text.hexDigitsValue ds = group.toNat

/-- What stands before a group: a colon, but nothing before the first. -/
def separator (first : Bool) : List Char :=
  if first then [] else [':']

/-- A text of groups with colons between them; `dotted` if the last two are written as
an IPv4 address. Unless it is the first in a row, every group has its colon. -/
inductive Spells : (first dotted : Bool) → List Char → List UInt16 → Prop
  | none {first : Bool} : Spells first false [] []
  | group {first dotted : Bool} {ds cs : List Char} {group : UInt16} {groups : List UInt16}
    (digits : IsGroup ds group) (later : Spells false dotted cs groups) :
    Spells first dotted (separator first ++ (ds ++ cs)) (group :: groups)
  | embedded {first : Bool} (v4 : Ipv4) :
    Spells first true (separator first ++ v4.chars) [v4.high, v4.low]

/-- The text forms of an address: all eight groups, or a mark in the place of one or
more zero groups. -/
inductive Denotes : List Char → Ipv6 → Prop
  | full {dotted : Bool} {cs : List Char} {x : Ipv6}
    (groups : Spells true dotted cs x.groups.toList) : Denotes cs x
  | shortened {dotted : Bool} {before behind : List Char} {head tail : List UInt16}
    {zeros : Nat} {x : Ipv6} (first : Spells true false before head)
    (last : Spells true dotted behind tail) (leftOut : 0 < zeros)
    (groups : x.groups.toList = head ++ List.replicate zeros 0 ++ tail) :
    Denotes (before ++ ':' :: ':' :: behind) x

/-! ### One group -/

theorem afterSeparator?_separator (first : Bool) (cs : List Char) :
    afterSeparator? first (separator first ++ cs) = some cs := by
  cases first <;> rfl

theorem scanGroup?_of_isGroup {ds rest : List Char} {group : UInt16} (isGroup : IsGroup ds group)
    (ends : Ends Text.isHexDigit rest) : scanGroup? (ds ++ rest) = some (group, rest) := by
  have accepted : ¬ (ds = [] ∨ 4 < ds.length) := by
    rintro (empty | long)
    · exact isGroup.nonempty empty
    · exact absurd isGroup.short (Nat.not_le_of_lt long)
  rw [scanGroup?, Text.takeWhile_run isGroup.digits ends, Text.dropWhile_run isGroup.digits ends]
  rw [if_neg accepted, isGroup.value, UInt16.ofNat_toNat]

theorem scanGroup?_of_ends {cs : List Char} (ends : Ends Text.isHexDigit cs) :
    scanGroup? cs = none := by
  have empty : cs.takeWhile Text.isHexDigit = [] := ends
  rw [scanGroup?, empty]
  exact if_pos (.inl rfl)

/-! ### What stands behind groups -/

/-- What may follow a group: nothing, or a colon. -/
def Separated (rest : List Char) : Prop :=
  rest = [] ∨ ∃ cs, rest = ':' :: cs

namespace Separated

variable {rest : List Char}

theorem ends (separated : Separated rest) {p : Char → Bool} (noColon : p ':' = false) :
    Ends p rest := by
  rcases separated with rfl | ⟨cs, rfl⟩
  · exact Text.ends_nil p
  · exact Text.ends_cons noColon cs

theorem head?_ne_point (separated : Separated rest) : rest.head? ≠ some '.' := by
  rcases separated with rfl | ⟨cs, rfl⟩
  · exact nofun
  · rw [List.head?_cons]
    decide

/-- Hexadecimal digits that a colon or nothing follows are no start of an IPv4 address:
behind the decimal ones among them there is no point. -/
theorem ipv4_scan? (separated : Separated rest) {ds : List Char}
    (digits : ∀ c ∈ ds, Text.isHexDigit c = true) : Ipv4.scan? (ds ++ rest) = none := by
  apply Ipv4.scan?_of_no_point_behind
  induction ds with
  | nil =>
    rw [Text.dropWhile_run (List.forall_mem_nil _) (separated.ends (by decide))]
    exact separated.head?_ne_point
  | cons d ds ih =>
    rw [List.forall_mem_cons] at digits
    rw [List.cons_append, List.dropWhile_cons]
    split
    next => exact ih digits.2
    next =>
      rw [List.head?_cons, ne_eq, Option.some.injEq]
      rintro rfl
      exact absurd digits.1 (by decide)

theorem no_group (separated : Separated rest) : scanGroup? rest = none :=
  scanGroup?_of_ends (separated.ends (by decide))

end Separated

/-- What may follow the last group: nothing, or the mark of the zeros left out. -/
def Closes (rest : List Char) : Prop :=
  rest = [] ∨ ∃ cs, rest = ':' :: ':' :: cs

namespace Closes

variable {rest : List Char}

theorem separated (closes : Closes rest) : Separated rest :=
  closes.imp_right fun ⟨cs, same⟩ => ⟨':' :: cs, same⟩

/-- Behind the colon that would stand before a group there is none. -/
theorem separated_behind (closes : Closes rest) {first : Bool} {behind : List Char}
    (found : afterSeparator? first rest = some behind) : Separated behind := by
  cases first with
  | true =>
    cases found
    exact closes.separated
  | false =>
    rcases closes with rfl | ⟨cs, rfl⟩
    · cases found
    · cases found
      exact .inr ⟨cs, rfl⟩

/-- No group follows where groups close. -/
theorem no_group (closes : Closes rest) (first : Bool) :
    (afterSeparator? first rest).bind scanGroup? = none := by
  cases found : afterSeparator? first rest with
  | none => rfl
  | some behind => exact (closes.separated_behind found).no_group

/-- No IPv4 address follows where groups close. -/
theorem no_embedded (closes : Closes rest) (first : Bool) :
    (afterSeparator? first rest).bind Ipv4.scan? = none := by
  cases found : afterSeparator? first rest with
  | none => rfl
  | some behind => exact (closes.separated_behind found).ipv4_scan? (List.forall_mem_nil _)

end Closes

theorem Spells.separated {dotted : Bool} {cs rest : List Char} {groups : List UInt16}
    (spells : Spells false dotted cs groups) (closes : Closes rest) : Separated (cs ++ rest) := by
  cases spells with
  | none => exact closes.separated
  | group digits later => exact .inr ⟨_, rfl⟩
  | embedded v4 => exact .inr ⟨_, rfl⟩

/-! ### What the grammar allows is read -/

section

variable {room : Nat} {first : Bool} {cs rest : List Char}

theorem scanGroups_of_no_group (plain : (afterSeparator? first cs).bind Ipv4.scan? = none)
    (stop : (afterSeparator? first cs).bind scanGroup? = none) :
    scanGroups room first cs = ([], false, cs) := by
  cases room with
  | zero => rfl
  | succ room => rw [scanGroups, plain, ite_self, stop]

theorem scanGroups_of_group {group : UInt16} {groups : List UInt16} {ended : Bool}
    {behind : List Char} (plain : (afterSeparator? first cs).bind Ipv4.scan? = none)
    (next : (afterSeparator? first cs).bind scanGroup? = some (group, rest))
    (later : scanGroups room false rest = (groups, ended, behind)) :
    scanGroups (room + 1) first cs = (group :: groups, ended, behind) := by
  rw [scanGroups, plain, ite_self, next]
  simp only [later]

theorem scanGroups_of_embedded {v4 : Ipv4} (large : room ≠ 0)
    (found : (afterSeparator? first cs).bind Ipv4.scan? = some (v4, rest)) :
    scanGroups (room + 1) first cs =
      ([v4.a.toUInt16 * 256 + v4.b.toUInt16, v4.c.toUInt16 * 256 + v4.d.toUInt16], true, rest) := by
  rw [scanGroups, if_neg large, found]

end

/-- Groups of the grammar are read up to where they close. -/
theorem scanGroups_of_spells {first dotted : Bool} {cs rest : List Char} {groups : List UInt16}
    (spells : Spells first dotted cs groups) {room : Nat} (fits : groups.length ≤ room)
    (closes : Closes rest) : scanGroups room first (cs ++ rest) = (groups, dotted, rest) := by
  induction spells generalizing room with
  | none => exact scanGroups_of_no_group (closes.no_embedded _) (closes.no_group _)
  | @group first dotted ds cs group groups digits later ih =>
    cases room with
    | zero => exact absurd fits (Nat.not_succ_le_zero _)
    | succ room =>
      have separated : Separated (cs ++ rest) := later.separated closes
      have behind : afterSeparator? first (separator first ++ (ds ++ cs) ++ rest) =
          some (ds ++ (cs ++ rest)) := by
        rw [List.append_assoc, List.append_assoc]
        exact afterSeparator?_separator first _
      refine scanGroups_of_group ?_ ?_ (ih (Nat.le_of_succ_le_succ fits))
      · rw [behind]
        exact separated.ipv4_scan? digits.digits
      · rw [behind]
        exact scanGroup?_of_isGroup digits (separated.ends (by decide))
  | @embedded first v4 =>
    cases room with
    | zero => exact absurd fits (Nat.not_succ_le_zero _)
    | succ room =>
      have large : room ≠ 0 := by
        rintro rfl
        exact absurd fits (by simp)
      have behind : afterSeparator? first (separator first ++ v4.chars ++ rest) =
          some (v4.chars ++ rest) := by
        rw [List.append_assoc]
        exact afterSeparator?_separator first _
      refine scanGroups_of_embedded large ?_
      rw [behind]
      exact v4.scan?_chars_append (closes.separated.ends (by decide))

/-! ### What is read the grammar allows -/

theorem eq_of_afterSeparator? {first : Bool} {cs rest : List Char}
    (found : afterSeparator? first cs = some rest) : cs = separator first ++ rest := by
  unfold afterSeparator? at found
  cases first with
  | true => exact Option.some.inj found
  | false =>
    simp only [Bool.false_eq_true, if_false] at found
    split at found
    next =>
      cases found
      rfl
    next => cases found

theorem isGroup_of_scanGroup? {cs rest : List Char} {group : UInt16}
    (found : scanGroup? cs = some (group, rest)) : ∃ ds, IsGroup ds group ∧ cs = ds ++ rest := by
  unfold scanGroup? at found
  simp only at found
  split at found
  next => cases found
  next accepted =>
    cases found
    obtain ⟨nonempty, short⟩ := not_or.1 accepted
    have digits : ∀ c ∈ cs.takeWhile Text.isHexDigit, Text.isHexDigit c = true :=
      List.all_eq_true.1 List.all_takeWhile
    refine ⟨cs.takeWhile Text.isHexDigit, ⟨nonempty, Nat.le_of_not_lt short, digits, ?_⟩,
      List.takeWhile_append_dropWhile.symm⟩
    -- Four digits fit into sixteen bits.
    have bound : Text.hexDigitsValue (cs.takeWhile Text.isHexDigit) < 16 ^ 4 :=
      Nat.lt_of_lt_of_le (Text.hexDigitsValue_lt _)
        (Nat.pow_le_pow_right (by decide) (Nat.le_of_not_lt short))
    exact (UInt16.toNat_ofNat_of_lt' bound).symm

/-- The groups that are read are groups of the grammar. -/
theorem spells_of_scanGroups {room : Nat} {first dotted : Bool} {cs rest : List Char}
    {groups : List UInt16} (scanned : scanGroups room first cs = (groups, dotted, rest)) :
    groups.length ≤ room ∧ ∃ text, cs = text ++ rest ∧ Spells first dotted text groups := by
  induction room generalizing first dotted cs rest groups with
  | zero =>
    cases scanned
    exact ⟨Nat.le_refl 0, [], rfl, .none⟩
  | succ room ih =>
    rw [scanGroups] at scanned
    split at scanned
    next v4 behind embedded =>
      cases scanned
      split at embedded
      next => cases embedded
      next large =>
        obtain ⟨start, separated, found⟩ := Option.bind_eq_some_iff.1 embedded
        refine ⟨?_, separator first ++ v4.chars, ?_, .embedded v4⟩
        · exact Nat.succ_le_succ (Nat.one_le_iff_ne_zero.2 large)
        · rw [eq_of_afterSeparator? separated, Ipv4.eq_of_scan? found, List.append_assoc]
    next =>
      split at scanned
      next =>
        cases scanned
        exact ⟨Nat.zero_le _, [], rfl, .none⟩
      next group behind next =>
        obtain ⟨start, separated, found⟩ := Option.bind_eq_some_iff.1 next
        obtain ⟨ds, isGroup, text⟩ := isGroup_of_scanGroup? found
        cases later : scanGroups room false behind with
        | mk laterGroups result =>
          obtain ⟨laterDotted, laterRest⟩ := result
          simp only [later] at scanned
          cases scanned
          obtain ⟨fits, laterText, split, spells⟩ := ih later
          refine ⟨Nat.succ_le_succ fits, separator first ++ (ds ++ laterText), ?_,
            .group isGroup spells⟩
          rw [eq_of_afterSeparator? separated, text, split]
          simp only [List.append_assoc]

/-! ### Whole addresses -/

theorem ofGroups?_toList (x : Ipv6) : ofGroups? x.groups.toList = some x := by
  have eight : x.groups.toList.length = 8 := x.groups.length_toList
  rw [ofGroups?, dif_pos eight]
  obtain ⟨⟨items, size⟩⟩ := x
  rfl

theorem toList_of_ofGroups? {groups : List UInt16} {x : Ipv6} (found : ofGroups? groups = some x) :
    x.groups.toList = groups := by
  unfold ofGroups? at found
  split at found
  next =>
    cases found
    rfl
  next => cases found

theorem length_parts {x : Ipv6} {head tail : List UInt16} {zeros : Nat}
    (groups : x.groups.toList = head ++ List.replicate zeros 0 ++ tail) :
    head.length + zeros + tail.length = 8 := by
  have lengths := congrArg List.length groups
  rw [x.groups.length_toList, List.length_append, List.length_append, List.length_replicate]
    at lengths
  exact lengths.symm

/-- Groups, a mark and groups again are read with the zeros that are missing to eight. -/
theorem scan?_of_parts {x : Ipv6} {cs behind : List Char} {head tail : List UInt16}
    {embedded : Bool} {zeros : Nat} (leftOut : 0 < zeros)
    (groups : x.groups.toList = head ++ List.replicate zeros 0 ++ tail)
    (readHead : scanGroups 8 true cs = (head, false, ':' :: ':' :: behind))
    (readTail : scanGroups (7 - head.length) true behind = (tail, embedded, [])) :
    scan? cs = some (x, []) := by
  have eight := length_parts groups
  have short : ¬ head.length = 8 := by omega
  have missing : 8 - head.length - tail.length = zeros := by omega
  rw [scan?, readHead]
  simp only [if_neg short, readTail, missing, ← groups, ofGroups?_toList]
  rfl

/-- A text is read as an address exactly if it is a text form of it. -/
theorem scan?_eq_some_iff {cs : List Char} {x : Ipv6} :
    scan? cs = some (x, []) ↔ Denotes cs x := by
  constructor
  · intro found
    cases scanned : scanGroups 8 true cs with
    | mk head result =>
      obtain ⟨dotted, rest⟩ := result
      obtain ⟨fits, before, text, spells⟩ := spells_of_scanGroups scanned
      simp only [scan?, scanned] at found
      split at found
      next eight =>
        obtain ⟨y, groups, same⟩ := Option.map_eq_some_iff.1 found
        cases same
        rw [text, List.append_nil]
        rw [← toList_of_ofGroups? groups] at spells
        exact .full spells
      next short =>
        split at found
        next => cases found
        next plain =>
          split at found
          next behind =>
            rw [Bool.not_eq_true] at plain
            cases scannedTail : scanGroups (7 - head.length) true behind with
            | mk tail result =>
              obtain ⟨tailDotted, tailRest⟩ := result
              obtain ⟨tailFits, tailText, behindText, tailSpells⟩ :=
                spells_of_scanGroups scannedTail
              simp only [scannedTail] at found
              obtain ⟨y, groups, same⟩ := Option.map_eq_some_iff.1 found
              cases same
              rw [text, behindText, List.append_nil]
              rw [plain] at spells
              exact .shortened spells tailSpells (by omega) (toList_of_ofGroups? groups)
          next => cases found
  · intro denotes
    cases denotes with
    | @full dotted cs x spells =>
      have eight : x.groups.toList.length = 8 := x.groups.length_toList
      have read := scanGroups_of_spells spells (Nat.le_of_eq eight) (.inl rfl)
      rw [List.append_nil] at read
      rw [scan?, read]
      simp only
      rw [if_pos eight, ofGroups?_toList]
      rfl
    | @shortened dotted before behind head tail zeros x first last leftOut groups =>
      have eight := length_parts groups
      have headFits : head.length ≤ 8 := by omega
      have tailFits : tail.length ≤ 7 - head.length := by omega
      have readHead := scanGroups_of_spells first headFits
        (.inr ⟨behind, rfl⟩ : Closes (':' :: ':' :: behind))
      have readTail := scanGroups_of_spells last tailFits (.inl rfl)
      rw [List.append_nil] at readTail
      exact scan?_of_parts leftOut groups readHead readTail

/-- No text form of an IPv6 address starts with an IPv4 address. -/
theorem Denotes.ipv4_scan? {cs : List Char} {x : Ipv6} (denotes : Denotes cs x) :
    Ipv4.scan? cs = none := by
  have groups_start {cs rest : List Char} {dotted : Bool} {groups : List UInt16}
      (spells : Spells true dotted cs groups) (enough : dotted = true → groups.length ≠ 2)
      (closes : Closes rest) : Ipv4.scan? (cs ++ rest) = none := by
    cases spells with
    | none => exact closes.no_embedded true
    | @group _ _ ds cs group groups digits later =>
      show Ipv4.scan? (ds ++ cs ++ rest) = none
      rw [List.append_assoc]
      exact (later.separated closes).ipv4_scan? digits.digits
    | embedded v4 => exact absurd rfl (enough rfl)
  cases denotes with
  | @full dotted cs x spells =>
    have eight : x.groups.toList.length = 8 := x.groups.length_toList
    have none := groups_start spells (fun _ => by omega) (.inl rfl)
    rwa [List.append_nil] at none
  | @shortened dotted before behind head tail zeros x first last leftOut groups =>
    exact groups_start first nofun (.inr ⟨behind, rfl⟩)

end Ipv6

/-! ## Both families -/

namespace IpAddress

variable {cs : List Char}

/-- A text is read as an IPv6 address exactly if it is a text form of it. -/
theorem read?_eq_v6_iff {x : Ipv6} : read? cs = some (.v6 x) ↔ Ipv6.Denotes cs x := by
  constructor
  · intro found
    unfold read? at found
    split at found
    next =>
      split at found
      next => cases found
      next => cases found
    next =>
      split at found
      next scanned =>
        cases found
        exact Ipv6.scan?_eq_some_iff.1 scanned
      next => cases found
  · intro denotes
    rw [read?, denotes.ipv4_scan?, Ipv6.scan?_eq_some_iff.2 denotes]

/-- A text is read as an IPv4 address exactly if it is the text of it. -/
theorem read?_eq_v4_iff {x : Ipv4} : read? cs = some (.v4 x) ↔ cs = x.chars := by
  constructor
  · intro found
    unfold read? at found
    split at found
    next y rest scanned =>
      split at found
      next whole =>
        cases found
        rw [Ipv4.eq_of_scan? scanned, whole, List.append_nil]
      next => cases found
    next =>
      split at found
      next => cases found
      next => cases found
  · rintro rfl
    rw [read?, x.scan?_chars]
    rfl

end IpAddress

end CloudInventory
