import CloudInventory.Proofs.Network.AddressGrammar

/-!
# Writing addresses

The canonical text of an address is one of its text forms, so it is read as the
address. An IPv6 address is written with lower case groups without leading zeros; the
first of its longest runs of zero groups is left out, if it has two or more; and only
an address that maps an IPv4 address shows that one with points.

Results:
1. `Ipv6.firstLongest_longestZeroRun`: the run that is left out is the first longest one.
2. `Ipv6.canonicalForm_iff`: the text of an address is its canonical form.
3. `Ipv6.CanonicalForm.denotes`: the canonical form is a text form.
4. `IpAddress.read?_chars`: the text of an address of either family is read as it.
-/

namespace CloudInventory

namespace Ipv6

/-! ## Groups in a row -/

theorem isHexDigit_of_mem_groupChars {group : UInt16} :
    ∀ c ∈ groupChars group, Text.isHexDigit c = true :=
  fun _ => Text.isHexDigit_of_mem_toDigits

theorem isGroup_groupChars (group : UInt16) : IsGroup (groupChars group) group where
  nonempty := Nat.toDigits_ne_nil
  short := Text.length_toDigits_le group.toNat_lt
  digits := isHexDigit_of_mem_groupChars
  value := Text.hexDigitsValue_toDigits group.toNat

/-- Groups with a colon before each. -/
def tailChars (groups : List UInt16) : List Char :=
  groups.flatMap fun group => ':' :: groupChars group

theorem groupsChars_cons (group : UInt16) (groups : List UInt16) :
    groupsChars (group :: groups) = groupChars group ++ tailChars groups := by
  induction groups generalizing group with
  | nil => exact (List.append_nil _).symm
  | cons next groups ih =>
    rw [groupsChars, ih next]
    · rfl
    · exact List.cons_ne_nil next groups

theorem spells_tailChars (groups : List UInt16) : Spells false false (tailChars groups) groups := by
  induction groups with
  | nil => exact .none
  | cons group groups ih => exact .group (isGroup_groupChars group) ih

/-- Written groups are groups of the grammar. -/
theorem spells_groupsChars (groups : List UInt16) :
    Spells true false (groupsChars groups) groups := by
  cases groups with
  | nil => exact .none
  | cons group groups =>
    rw [groupsChars_cons]
    exact .group (isGroup_groupChars group) (spells_tailChars groups)

theorem no_point_groupChars (group : UInt16) : '.' ∉ groupChars group := by
  intro member
  exact absurd (isHexDigit_of_mem_groupChars _ member) (by decide)

theorem no_point_groupsChars (groups : List UInt16) : '.' ∉ groupsChars groups := by
  cases groups with
  | nil => exact List.not_mem_nil
  | cons group groups =>
    rw [groupsChars_cons]
    refine List.not_mem_append (no_point_groupChars group) ?_
    intro member
    obtain ⟨next, -, inNext⟩ := List.mem_flatMap.1 member
    rcases List.mem_cons.1 inNext with colon | digit
    · exact absurd colon (by decide)
    · exact no_point_groupChars next digit

/-! ## Runs of zeros -/

/-- There are `length` zero groups from place `start` on. -/
def ZeroRun (groups : List UInt16) (start length : Nat) : Prop :=
  (groups.drop start).take length = List.replicate length 0

/-- The first of the longest runs of zero groups. -/
structure FirstLongest (groups : List UInt16) (start length : Nat) : Prop where
  run : ZeroRun groups start length
  longest : ∀ otherStart otherLength, ZeroRun groups otherStart otherLength →
    otherLength ≤ length
  first : ∀ otherStart, ZeroRun groups otherStart length → start ≤ otherStart

theorem FirstLongest.unique {groups : List UInt16} {start length otherStart otherLength : Nat}
    (one : FirstLongest groups start length)
    (other : FirstLongest groups otherStart otherLength) :
    start = otherStart ∧ length = otherLength := by
  obtain rfl : length = otherLength :=
    Nat.le_antisymm (other.longest _ _ one.run) (one.longest _ _ other.run)
  exact ⟨Nat.le_antisymm (one.first _ other.run) (other.first _ one.run), rfl⟩

/-- A run of zeros holds the shorter ones from the same place on. -/
theorem ZeroRun.shorter {groups : List UInt16} {start length shorter : Nat}
    (run : ZeroRun groups start length) (le : shorter ≤ length) :
    ZeroRun groups start shorter := by
  have front := congrArg (List.take shorter) run
  rwa [List.take_take, List.take_replicate, Nat.min_eq_left le] at front

theorem ZeroRun.groups_eq {groups : List UInt16} {start length : Nat}
    (run : ZeroRun groups start length) :
    groups = groups.take start ++ List.replicate length 0 ++ groups.drop (start + length) := by
  rw [← run, List.append_assoc, ← List.drop_drop, List.take_append_drop, List.take_append_drop]

theorem zeroRun_cons (group : UInt16) (groups : List UInt16) :
    zeroRun (group :: groups) = if group = 0 then zeroRun groups + 1 else 0 := by
  rw [zeroRun, List.takeWhile_cons]
  simp only [beq_iff_eq]
  split <;> rfl

/-- The zero groups at the start are counted. -/
theorem zeroRun_zero_iff {groups : List UInt16} {length : Nat} :
    ZeroRun groups 0 length ↔ length ≤ zeroRun groups := by
  unfold ZeroRun
  rw [List.drop_zero]
  induction groups generalizing length with
  | nil =>
    rw [List.take_nil, eq_comm, List.replicate_eq_nil_iff]
    exact Nat.le_zero.symm
  | cons group groups ih =>
    cases length with
    | zero => exact ⟨fun _ => Nat.zero_le _, fun _ => rfl⟩
    | succ length =>
      rw [List.take_succ_cons, List.replicate_succ, List.cons.injEq, ih, zeroRun_cons]
      split
      next zero => exact ⟨fun run => Nat.succ_le_succ run.2,
        fun le => ⟨zero, Nat.le_of_succ_le_succ le⟩⟩
      next other =>
        exact ⟨fun run => absurd run.1 other, fun le => absurd le (Nat.not_succ_le_zero _)⟩

theorem zeroRun_succ_iff {group : UInt16} {groups : List UInt16} {start length : Nat} :
    ZeroRun (group :: groups) (start + 1) length ↔ ZeroRun groups start length := by
  unfold ZeroRun
  rw [List.drop_succ_cons]

theorem longestZeroRun_cons (group : UInt16) (groups : List UInt16) :
    longestZeroRun (group :: groups) =
      if (longestZeroRun groups).2 ≤ zeroRun (group :: groups) then (0, zeroRun (group :: groups))
      else ((longestZeroRun groups).1 + 1, (longestZeroRun groups).2) := rfl

/-- The run that is found is the first of the longest ones. -/
theorem firstLongest_longestZeroRun (groups : List UInt16) :
    FirstLongest groups (longestZeroRun groups).1 (longestZeroRun groups).2 := by
  induction groups with
  | nil =>
    refine ⟨rfl, fun otherStart otherLength run => ?_, fun _ _ => Nat.zero_le _⟩
    unfold ZeroRun at run
    rw [List.drop_nil, List.take_nil, eq_comm, List.replicate_eq_nil_iff] at run
    exact Nat.le_of_eq run
  | cons group groups ih =>
    rw [longestZeroRun_cons]
    -- Either the run starts here, or it is that of the later groups, one place further on.
    split
    next here =>
      refine ⟨zeroRun_zero_iff.2 (Nat.le_refl _), ?_, fun _ _ => Nat.zero_le _⟩
      rintro (_ | otherStart) otherLength run
      · exact zeroRun_zero_iff.1 run
      · exact Nat.le_trans (ih.longest _ _ (zeroRun_succ_iff.1 run)) here
    next later =>
      refine ⟨zeroRun_succ_iff.2 ih.run, ?_, ?_⟩
      · rintro (_ | otherStart) otherLength run
        · exact Nat.le_trans (zeroRun_zero_iff.1 run) (Nat.le_of_not_le later)
        · exact ih.longest _ _ (zeroRun_succ_iff.1 run)
      · rintro (_ | otherStart) run
        · exact absurd (zeroRun_zero_iff.1 run) later
        · exact Nat.succ_le_succ (ih.first _ (zeroRun_succ_iff.1 run))

/-! ## Mapped addresses -/

/-- The address maps the IPv4 address. -/
def Maps (x : Ipv6) (v4 : Ipv4) : Prop :=
  x.groups.toList = [0, 0, 0, 0, 0, 0xFFFF, v4.high, v4.low]

theorem group_halves (group : UInt16) :
    (group / 256).toUInt8.toUInt16 * 256 + group.toUInt8.toUInt16 = group := by
  apply UInt16.toNat_inj.1
  have bound := group.toNat_lt
  simp only [UInt16.toNat_add, UInt16.toNat_mul, UInt8.toNat_toUInt16, UInt16.toNat_toUInt8,
    UInt16.toNat_div, UInt16.reduceToNat]
  omega

theorem bytes_of_group (a b : UInt8) :
    ((a.toUInt16 * 256 + b.toUInt16) / 256).toUInt8 = a ∧
      (a.toUInt16 * 256 + b.toUInt16).toUInt8 = b := by
  have := a.toNat_lt
  have := b.toNat_lt
  constructor
  · apply UInt8.toNat_inj.1
    simp only [UInt16.toNat_add, UInt16.toNat_mul, UInt8.toNat_toUInt16, UInt16.toNat_toUInt8,
      UInt16.toNat_div, UInt16.reduceToNat]
    omega
  · apply UInt8.toNat_inj.1
    simp only [UInt16.toNat_add, UInt16.toNat_mul, UInt8.toNat_toUInt16, UInt16.toNat_toUInt8,
      UInt16.reduceToNat]
    omega

theorem mapped?_eq_some_iff {x : Ipv6} {v4 : Ipv4} : x.mapped? = some v4 ↔ x.Maps v4 := by
  constructor
  · intro mapped
    unfold mapped? at mapped
    split at mapped
    next high low groups =>
      cases mapped
      rw [Maps, groups, Ipv4.high, Ipv4.low, group_halves, group_halves]
    next => cases mapped
  · intro maps
    obtain ⟨a, b, c, d⟩ := v4
    rw [mapped?, maps]
    simp only [Ipv4.high, Ipv4.low, bytes_of_group]

theorem mapped?_eq_none_iff {x : Ipv6} : x.mapped? = none ↔ ∀ v4, ¬ x.Maps v4 := by
  simp only [← mapped?_eq_some_iff, Option.eq_none_iff_forall_ne_some, ne_eq]

/-! ## The canonical form -/

/-- The canonical text of an address: with points if the address maps an IPv4 address,
else with a mark in the place of the first longest run of two or more zero groups, else
with all groups. -/
inductive CanonicalForm (x : Ipv6) : List Char → Prop
  | mapped {v4 : Ipv4} (maps : x.Maps v4) : CanonicalForm x ("::ffff:".toList ++ v4.chars)
  | shortened {start length : Nat} (unmapped : ∀ v4, ¬ x.Maps v4)
    (run : FirstLongest x.groups.toList start length) (two : 2 ≤ length) :
    CanonicalForm x (groupsChars (x.groups.toList.take start) ++
      ':' :: ':' :: groupsChars (x.groups.toList.drop (start + length)))
  | plain (unmapped : ∀ v4, ¬ x.Maps v4) (short : ∀ start, ¬ ZeroRun x.groups.toList start 2) :
    CanonicalForm x (groupsChars x.groups.toList)

theorem chars_of_maps {x : Ipv6} {v4 : Ipv4} (maps : x.Maps v4) :
    x.chars = "::ffff:".toList ++ v4.chars := by
  rw [chars, mapped?_eq_some_iff.2 maps]
  rfl

theorem chars_of_unmapped {x : Ipv6} (unmapped : ∀ v4, ¬ x.Maps v4) {start length : Nat}
    (run : FirstLongest x.groups.toList start length) :
    x.chars = if 2 ≤ length then groupsChars (x.groups.toList.take start) ++
        ':' :: ':' :: groupsChars (x.groups.toList.drop (start + length))
      else groupsChars x.groups.toList := by
  obtain ⟨rfl, rfl⟩ := run.unique (firstLongest_longestZeroRun _)
  rw [chars, mapped?_eq_none_iff.2 unmapped]
  rfl

/-- The text of an address is its canonical form, and no other is. -/
theorem canonicalForm_iff {x : Ipv6} {cs : List Char} : CanonicalForm x cs ↔ cs = x.chars := by
  have run := firstLongest_longestZeroRun x.groups.toList
  constructor
  · intro canonical
    cases canonical with
    | mapped maps => exact (chars_of_maps maps).symm
    | shortened unmapped run two => rw [chars_of_unmapped unmapped run, if_pos two]
    | plain unmapped short =>
      have one : ¬ 2 ≤ (longestZeroRun x.groups.toList).2 :=
        fun two => short _ (run.run.shorter two)
      rw [chars_of_unmapped unmapped run, if_neg one]
  · rintro rfl
    cases mapped : x.mapped? with
    | some v4 =>
      have maps := mapped?_eq_some_iff.1 mapped
      rw [chars_of_maps maps]
      exact .mapped maps
    | none =>
      have unmapped := mapped?_eq_none_iff.1 mapped
      rw [chars_of_unmapped unmapped run]
      split
      next two => exact .shortened unmapped run two
      next one => exact .plain unmapped fun start two => one (run.longest _ _ two)

/-- The canonical form is one of the text forms. -/
theorem CanonicalForm.denotes {x : Ipv6} {cs : List Char} (canonical : CanonicalForm x cs) :
    Denotes cs x := by
  cases canonical with
  | @mapped v4 maps =>
    -- Five zero groups are left out, and a group and the IPv4 address follow the mark.
    have mark : IsGroup ['f', 'f', 'f', 'f'] 0xFFFF := isGroup_groupChars 0xFFFF
    exact .shortened .none (.group mark (.embedded v4)) (show 0 < 5 by decide) maps
  | shortened unmapped run two =>
    exact .shortened (spells_groupsChars _) (spells_groupsChars _) (Nat.lt_of_succ_lt two)
      run.run.groups_eq
  | plain unmapped short => exact .full (spells_groupsChars _)

/-- Only a mapped address is written with points. -/
theorem CanonicalForm.point_mem_iff {x : Ipv6} {cs : List Char} (canonical : CanonicalForm x cs) :
    '.' ∈ cs ↔ ∃ v4, x.Maps v4 := by
  have noPoint (groups : List UInt16) : '.' ∉ ':' :: ':' :: groupsChars groups := by
    simp only [List.mem_cons, not_or]
    exact ⟨by decide, by decide, no_point_groupsChars groups⟩
  cases canonical with
  | @mapped v4 maps =>
    have point : '.' ∈ v4.chars :=
      List.mem_append_right _ List.mem_cons_self
    exact iff_of_true (List.mem_append_right _ point) ⟨v4, maps⟩
  | shortened unmapped run two =>
    exact iff_of_false (List.not_mem_append (no_point_groupsChars _) (noPoint _))
      (not_exists.2 unmapped)
  | plain unmapped short =>
    exact iff_of_false (no_point_groupsChars _) (not_exists.2 unmapped)

end Ipv6

/-! ## Both families -/

namespace IpAddress

/-- The text of an address of either family is read as it. -/
theorem read?_chars (x : IpAddress) : read? x.chars = some x := by
  cases x with
  | v4 x => exact read?_eq_v4_iff.2 rfl
  | v6 x => exact read?_eq_v6_iff.2 (Ipv6.canonicalForm_iff.2 rfl).denotes

end IpAddress

end CloudInventory
