import CloudInventory.Proofs.Instant.StampText

/-!
# Instants in normal form

However a time stamp was written, its instant is written with the UTC date and an
offset of zero. That text is read as the same instant, so it stands for it. The texts
that can come out are those of all times of all dates in the range of years, the leap
second of every minute included.

Results:
1. `parse_eq_ok_iff`: what a text has to say to be read as an instant.
2. `parse_encode` and `encode_injective`: a written instant is read back.
3. `Stamp.isUtc_iff`: the fields that instants are written with.
4. `leap_suffix_encode_iff` and `head?_encode_iff`: leap seconds are shown as second 60,
   and years that four digits do not show have a sign.
5. `encode_normal_form`: the instants of two texts are the same if their normal forms
   are.
-/

namespace CloudInventory

namespace Instant

/-! ## Reading -/

theorem ofParts?_eq_some_iff {second : Int} {leap : Bool} {t : Instant} :
    ofParts? second leap = some t ↔ t.second = second ∧ t.leap = leap := by
  unfold ofParts?
  constructor
  · intro made
    split at made
    · cases made
      exact ⟨rfl, rfl⟩
    · cases made
  · rintro ⟨rfl, rfl⟩
    exact dif_pos ⟨t.year_ge, t.year_le, t.leap_end⟩

/-- A stamp denotes the instant that is its offset before its local time. -/
theorem ofStamp_eq_ok_iff {s : Stamp} {t : Instant} :
    ofStamp s = .ok t ↔
      (s.date.Exists ∧ minYear ≤ s.date.year ∧ s.date.year ≤ maxYear ∧
        s.offset.natAbs < 86400) ∧
      t.second = s.localSecond - s.offset ∧ t.leap = (s.second == 60) := by
  unfold ofStamp
  rw [← ofParts?_eq_some_iff]
  constructor
  · intro read
    split at read
    next valid =>
      refine ⟨valid, ?_⟩
      split at read
      next made =>
        cases read
        exact made
      next => cases read
    next => cases read
  · rintro ⟨valid, made⟩
    rw [if_pos valid, made]

/-- The whole of reading: the fields are scanned, the date exists in the range of years,
and the instant is the written time less the offset. -/
theorem parse_eq_ok_iff {text : String} {t : Instant} :
    parse text = .ok t ↔
      ∃ s, scanStamp text.toList = .ok s ∧
        (s.date.Exists ∧ minYear ≤ s.date.year ∧ s.date.year ≤ maxYear ∧
          s.offset.natAbs < 86400) ∧
        t.second = s.localSecond - s.offset ∧ t.leap = (s.second == 60) := by
  rw [parse, bind_eq_ok_iff]
  simp only [ofStamp_eq_ok_iff]

/-! ## Written fields -/

/-- A leap second is second 60, and nothing else is. -/
theorem stamp_second_eq_iff (t : Instant) : t.stamp.second = 60 ↔ t.leap = true := by
  simp only [stamp]
  cases leap : t.leap with
  | true =>
    have ended := t.leap_end leap
    simp only [if_true, iff_true]
    omega
  | false =>
    simp only [Bool.false_eq_true, if_false, iff_false]
    omega

/-- The written fields add up to the instant. -/
theorem localSecond_stamp (t : Instant) : t.stamp.localSecond = t.second := by
  rw [Stamp.localSecond, show t.stamp.date = t.date from rfl, t.date_exists.2]
  simp only [stamp]
  cases leap : t.leap with
  | true =>
    have ended := t.leap_end leap
    simp only [if_true]
    omega
  | false =>
    simp only [Bool.false_eq_true, if_false]
    omega

/-- A written instant is read back. -/
theorem parse_encode (t : Instant) : parse t.encode = .ok t := by
  obtain ⟨above, below⟩ := t.year_bounds
  refine parse_eq_ok_iff.2 ⟨t.stamp, t.scanStamp_encode,
    ⟨t.date_exists.1, above, below, show (0 : Int).natAbs < 86400 by decide⟩, ?_, ?_⟩
  · rw [localSecond_stamp]
    exact (Int.sub_zero _).symm
  · rw [Bool.eq_iff_iff, beq_iff_eq, stamp_second_eq_iff]

/-- Different instants have different texts. -/
theorem encode_injective : Function.Injective encode := by
  intro t u same
  have read := t.parse_encode
  rw [same, u.parse_encode] at read
  cases read
  rfl

/-! ## The range of instants -/

/-- A time of day in UTC, on a date that exists in the range of years; any minute may
have a leap second. -/
structure Stamp.IsUtc (s : Stamp) : Prop where
  exists_date : s.date.Exists
  year_ge : minYear ≤ s.date.year
  year_le : s.date.year ≤ maxYear
  hour_le : s.hour ≤ 23
  minute_le : s.minute ≤ 59
  second_le : s.second ≤ 60
  offset_eq : s.offset = 0

theorem isUtc_stamp (t : Instant) : t.stamp.IsUtc where
  exists_date := t.date_exists.1
  year_ge := t.year_bounds.1
  year_le := t.year_bounds.2
  hour_le := t.stamp_time.1
  minute_le := t.stamp_time.2.1
  second_le := t.stamp_time.2.2
  offset_eq := rfl

/-- Every such time is the one that some instant is written with. -/
theorem Stamp.isUtc_iff {s : Stamp} : s.IsUtc ↔ ∃ t : Instant, t.stamp = s := by
  constructor
  · intro utc
    obtain ⟨existing, yearGe, yearLe, hourLe, minuteLe, secondLe, offset⟩ := utc
    have day : s.localSecond / 86400 = s.date.dayNumber := by
      unfold Stamp.localSecond
      omega
    have date : Date.ofDayNumber (s.localSecond / 86400) = s.date := by
      rw [day]
      exact Date.ofDayNumber_dayNumber existing
    rw [← date] at yearGe yearLe
    have notAfter : ¬ maxYear + 1 ≤ (Date.ofDayNumber (s.localSecond / 86400)).year := by
      omega
    have leapEnd : (s.second == 60) = true → s.localSecond % 60 = 59 := by
      intro leap
      rw [Stamp.localSecond, beq_iff_eq.1 leap]
      omega
    refine ⟨⟨s.localSecond, s.second == 60, Date.le_year_ofDayNumber_iff.1 yearGe,
      Int.not_le.1 (mt Date.le_year_ofDayNumber_iff.2 notAfter), leapEnd⟩, ?_⟩
    have time : (s.localSecond % 86400).toNat =
        s.hour * 3600 + s.minute * 60 + min s.second 59 := by
      unfold Stamp.localSecond
      omega
    have seconds : min s.second 59 + (if (s.second == 60) = true then 1 else 0) = s.second := by
      split
      next leap =>
        have := beq_iff_eq.1 leap
        omega
      next noLeap =>
        have : s.second ≠ 60 := fun equal => noLeap (beq_iff_eq.2 equal)
        omega
    obtain ⟨_, hour, minute, second, _⟩ := s
    simp only at hourLe minuteLe secondLe offset seconds
    simp only [stamp, Instant.date, date, time, Stamp.mk.injEq, true_and]
    exact ⟨by omega, by omega, by omega, offset.symm⟩
  · rintro ⟨t, rfl⟩
    exact t.isUtc_stamp

/-! ## What the text shows -/

/-- Years before zero have a minus sign, those of more than four digits a plus sign. -/
theorem head?_encode_iff (t : Instant) :
    (t.encode.toList.head? = some '-' ↔ t.date.year < 0) ∧
      (t.encode.toList.head? = some '+' ↔ 9999 < t.date.year) := by
  rw [toList_encode, show t.stamp.date = t.date from rfl, yearChars_eq_padded]
  split
  next negative =>
    rw [List.cons_append, List.head?_cons]
    exact ⟨iff_of_true rfl negative, iff_of_false (by decide) (by omega)⟩
  next natural =>
    split
    next common =>
      obtain ⟨c, cs, digits, digit⟩ := exists_padded_eq_cons 4 t.date.year.natAbs
      rw [digits, List.cons_append, List.head?_cons]
      constructor
      · refine iff_of_false ?_ natural
        intro minus
        cases minus
        exact absurd digit (by decide)
      · refine iff_of_false ?_ (by omega)
        intro plus
        cases plus
        exact absurd digit (by decide)
    next late =>
      rw [List.cons_append, List.head?_cons]
      exact ⟨iff_of_false (by decide) natural, iff_of_true rfl (by omega)⟩

theorem twoDigits_injective {m n : Nat} (same : twoDigits m = twoDigits n) : m = n := by
  rw [twoDigits_eq_padded, twoDigits_eq_padded] at same
  rw [← digitsValue_padded 2 m, same, digitsValue_padded]

/-- The text ends with the seconds and an offset of zero. -/
theorem seconds_suffix_encode (t : Instant) :
    ':' :: (twoDigits t.stamp.second ++ ['+', '0', '0', ':', '0', '0']) <:+ t.encode.toList := by
  refine ⟨yearChars t.stamp.date.year ++ '-' :: (twoDigits t.stamp.date.month ++
    '-' :: (twoDigits t.stamp.date.day ++ 'T' :: (twoDigits t.stamp.hour ++
      ':' :: twoDigits t.stamp.minute))), ?_⟩
  rw [toList_encode]
  simp only [List.append_assoc, List.cons_append]

/-- A leap second is shown as second 60. -/
theorem leap_suffix_encode_iff (t : Instant) :
    ":60+00:00".toList <:+ t.encode.toList ↔ t.leap = true := by
  rw [← stamp_second_eq_iff]
  have shown := t.seconds_suffix_encode
  have width : (twoDigits t.stamp.second).length = 2 :=
    length_padded (by decide) (Nat.lt_of_le_of_lt t.stamp_time.2.2 (by decide))
  constructor
  · intro sixty
    have same : ":60+00:00".toList.length =
        (':' :: (twoDigits t.stamp.second ++ ['+', '0', '0', ':', '0', '0'])).length := by
      rw [List.length_cons, List.length_append, width]
      rfl
    have equal : ':' :: (twoDigits 60 ++ ['+', '0', '0', ':', '0', '0']) =
        ':' :: (twoDigits t.stamp.second ++ ['+', '0', '0', ':', '0', '0']) :=
      (List.suffix_of_suffix_length_le sixty shown (Nat.le_of_eq same)).eq_of_length same
    exact (twoDigits_injective (List.append_cancel_right (List.cons.inj equal).2)).symm
  · intro second
    rw [second] at shown
    exact shown

/-! ## Normal form -/

/-- The instant of every accepted text is written in a form that is read as the same
instant, with an offset of zero and the local time less the offset of the accepted text,
leap seconds kept; two accepted texts have the same such form exactly if they have the
same instant. The form shows a leap second as second 60 and has a sign exactly if four
digits do not show the year. Every UTC time in the range of years, up to both ends, has
this form, and no other time has it. -/
theorem encode_normal_form :
    (∀ (raw : String) (t : Instant), parse raw = .ok t →
      parse t.encode = .ok t ∧
        (∃ s, scanStamp raw.toList = .ok s ∧
          ∃ written, scanStamp t.encode.toList = .ok written ∧ written.offset = 0 ∧
            written.localSecond = s.localSecond - s.offset ∧
            (written.second = 60 ↔ s.second = 60)) ∧
        ∀ (other : String) (u : Instant), parse other = .ok u →
          (u.encode = t.encode ↔ parse other = parse raw)) ∧
    (∀ t : Instant,
      (t.encode.toList.head? = some '-' ↔ t.date.year < 0) ∧
        (t.encode.toList.head? = some '+' ↔ 9999 < t.date.year) ∧
        (":60+00:00".toList <:+ t.encode.toList ↔ t.leap = true)) ∧
    ∀ s : Stamp, s.IsUtc ↔
      ∃ raw t, parse raw = .ok t ∧ scanStamp t.encode.toList = .ok s := by
  refine ⟨?_, fun t => ⟨t.head?_encode_iff.1, t.head?_encode_iff.2, t.leap_suffix_encode_iff⟩, ?_⟩
  · intro raw t read
    obtain ⟨s, scanned, -, second, leap⟩ := parse_eq_ok_iff.1 read
    refine ⟨t.parse_encode, ⟨s, scanned, t.stamp, t.scanStamp_encode, rfl, ?_, ?_⟩, ?_⟩
    · rw [localSecond_stamp, second]
    · rw [stamp_second_eq_iff, leap, beq_iff_eq]
    · intro other u readOther
      rw [read, readOther, encode_injective.eq_iff, Except.ok.injEq]
  · intro s
    rw [Stamp.isUtc_iff]
    constructor
    · rintro ⟨t, rfl⟩
      exact ⟨t.encode, t, t.parse_encode, t.scanStamp_encode⟩
    · rintro ⟨raw, t, -, scanned⟩
      rw [scanStamp_encode] at scanned
      cases scanned
      exact ⟨t, rfl⟩

/-! ## One instant in two texts -/

namespace TextExamples

/-- The leap second before the year zero. -/
def beforeYearZero : Instant :=
  ⟨-62167219201, true, by decide, by decide, by decide⟩

/-- The leap second at the end of the last year. -/
def last : Instant :=
  ⟨8210266876799, true, by decide, by decide, by decide⟩

end TextExamples

open TextExamples in
/-- Offsets move a date over the turn of the year, forwards and backwards, and to the
other side of the year zero; the texts of one instant have one normal form, and the last
instant has another. -/
theorem encode_normal_form_before_year_zero :
    parse "0000-01-01T00:29:60+00:30" = .ok beforeYearZero ∧
      parse " -1-12-31T18:59:60 \u221205:00" = .ok beforeYearZero ∧
      beforeYearZero.encode = "-0001-12-31T23:59:60+00:00" ∧
      parse beforeYearZero.encode = .ok beforeYearZero ∧
      beforeYearZero.encode.toList.head? = some '-' ∧
      parse "+262142-12-31T20:59:60-03:00" = .ok last ∧
      last.encode = "+262142-12-31T23:59:60+00:00" ∧
      parse last.encode = .ok last ∧
      last.encode ≠ beforeYearZero.encode := by
  obtain ⟨forms, shown, -⟩ := encode_normal_form
  have east : parse "0000-01-01T00:29:60+00:30" = .ok beforeYearZero := rfl
  have west : parse " -1-12-31T18:59:60 \u221205:00" = .ok beforeYearZero := rfl
  have latest : parse "+262142-12-31T20:59:60-03:00" = .ok last := rfl
  obtain ⟨same, -, others⟩ := forms _ _ east
  obtain ⟨sameLast, -, -⟩ := forms _ _ latest
  refine ⟨east, west, rfl, same, (shown beforeYearZero).1.2 (by decide), latest, rfl, sameLast, ?_⟩
  intro equal
  have read := (others _ _ latest).1 equal
  rw [latest, east] at read
  cases read

end Instant

end CloudInventory
