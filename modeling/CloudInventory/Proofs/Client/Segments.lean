import CloudInventory.Client.Operations

/-!
# Segments tell identifiers apart

An escaped identifier can be read back, so two identifiers never become the same
segment, and two resources are never asked for with the same request.

Results:
1. `Url.unescapedBytes_segmentChars`: a segment read back is the identifier in UTF-8.
2. `Url.segment_inj`: an identifier is known from its segment.
3. `Url.IsSegmentChar.stands`: a segment is kept inside a path, and is one segment there.
4. `Url.isCurrent_segmentChars` and `Url.isParent_segmentChars`: the two identifiers that are
   not taken for a name.
5. `Config.url_inj`: a path that begins with no slash is known from its URL.
6. `Client.itemRequest_inj`: an identifier is known from the request for its resource.
7. `Client.pathRequest_ne`: requests for paths with other first letters differ.
-/

namespace CloudInventory

/-! ## Segments -/

namespace Url

/-- The bytes that the characters of a segment stand for. -/
def unescapedBytes : List Char → List UInt8
  | '%' :: high :: low :: cs => UInt8.ofNat (Text.hexDigitsValue [high, low]) :: unescapedBytes cs
  | c :: cs => c.val.toUInt8 :: unescapedBytes cs
  | [] => []

/-- A character other than the mark of an escape stands for itself. -/
theorem unescapedBytes_cons_of_ne {c : Char} (plain : c ≠ '%') (cs : List Char) :
    unescapedBytes (c :: cs) = c.val.toUInt8 :: unescapedBytes cs := by
  rw [unescapedBytes]
  intro high low rest isEscape
  exact absurd isEscape plain

theorem hexValue?_upperHexDigit {n : Nat} (digit : n < 16) :
    Text.hexValue? (upperHexDigit n) = some n := by
  have all : ∀ n < 16, Text.hexValue? (upperHexDigit n) = some n := by decide
  exact all n digit

/-- The escape of a byte is read back. -/
theorem unescapedBytes_escapedByte (byte : UInt8) (rest : List Char) :
    unescapedBytes (escapedByte byte ++ rest) = byte :: unescapedBytes rest := by
  have isByte : byte.toNat < 256 := byte.toNat_lt
  have high := hexValue?_upperHexDigit (n := byte.toNat / 16) (by omega)
  have low := hexValue?_upperHexDigit (n := byte.toNat % 16) (by omega)
  have value : Text.hexDigitsValue
      [upperHexDigit (byte.toNat / 16), upperHexDigit (byte.toNat % 16)] = byte.toNat := by
    simp only [Text.hexDigitsValue, List.foldl_cons, List.foldl_nil, high, low, Option.getD_some]
    omega
  show UInt8.ofNat (Text.hexDigitsValue _) :: unescapedBytes rest = _
  rw [value, UInt8.ofNat_toNat]

theorem unescapedBytes_escapedBytes (bytes : List UInt8) (rest : List Char) :
    unescapedBytes (bytes.flatMap escapedByte ++ rest) = bytes ++ unescapedBytes rest := by
  induction bytes with
  | nil => rfl
  | cons byte bytes ih =>
    rw [List.flatMap_cons, List.append_assoc, unescapedBytes_escapedByte, ih, List.cons_append]

theorem ascii_of_isUnreserved {c : Char} (unreserved : isUnreserved c = true) : c.val ≤ 127 := by
  delta isUnreserved Char.isAlphanum Char.isAlpha Char.isUpper Char.isLower at unreserved
  simp only [Char.isDigit, Bool.or_eq_true, Bool.and_eq_true, decide_eq_true_eq, beq_iff_eq]
    at unreserved
  rw [UInt32.le_iff_toNat_le]
  simp only [ge_iff_le, UInt32.le_iff_toNat_le] at unreserved
  rcases unreserved with ((((((⟨_, low⟩ | ⟨_, low⟩) | ⟨_, low⟩) | rfl) | rfl) | rfl) | rfl)
  · exact Nat.le_trans low (by decide)
  · exact Nat.le_trans low (by decide)
  · exact Nat.le_trans low (by decide)
  all_goals decide

/-- An unreserved character is one byte, and not the mark of an escape. -/
theorem utf8EncodeChar_of_isUnreserved {c : Char} (unreserved : isUnreserved c = true) :
    c ≠ '%' ∧ String.utf8EncodeChar c = [c.val.toUInt8] := by
  have ascii := ascii_of_isUnreserved unreserved
  refine ⟨?_, String.utf8EncodeChar_eq_singleton (Char.utf8Size_eq_one_iff.2 ascii)⟩
  rintro rfl
  exact absurd unreserved (by decide)

/-- What an identifier's character becomes is read back as its bytes. -/
theorem unescapedBytes_escapedUnless (c : Char) (rest : List Char) :
    unescapedBytes (escapedUnless isUnreserved c ++ rest) =
      String.utf8EncodeChar c ++ unescapedBytes rest := by
  unfold escapedUnless
  split
  next unreserved =>
    obtain ⟨plain, bytes⟩ := utf8EncodeChar_of_isUnreserved unreserved
    rw [bytes]
    exact unescapedBytes_cons_of_ne plain rest
  next => exact unescapedBytes_escapedBytes _ rest

/-- A segment read back is the identifier in UTF-8. -/
theorem unescapedBytes_segmentChars (id : List Char) :
    unescapedBytes (segmentChars id) = id.flatMap String.utf8EncodeChar := by
  induction id with
  | nil => rfl
  | cons c id ih =>
    rw [segmentChars, List.flatMap_cons, List.flatMap_cons, unescapedBytes_escapedUnless]
    exact congrArg _ ih

/-- A text is known from its bytes in UTF-8. -/
theorem eq_of_bytes_eq {id other : String}
    (bytes : id.toList.flatMap String.utf8EncodeChar =
      other.toList.flatMap String.utf8EncodeChar) : id = other := by
  have encoded : id.toList.utf8Encode = other.toList.utf8Encode := congrArg List.toByteArray bytes
  rw [← String.toByteArray_ofList, ← String.toByteArray_ofList, String.ofList_toList,
    String.ofList_toList] at encoded
  exact String.toByteArray_inj.1 encoded

/-- An identifier is known from its segment. -/
theorem segment_inj {id other : String} : segment id = segment other ↔ id = other := by
  refine ⟨fun same => eq_of_bytes_eq ?_, congrArg segment⟩
  rw [← unescapedBytes_segmentChars, ← unescapedBytes_segmentChars, String.ofList_inj.1 same]

/-! ## Segments inside a path -/

/-- A character that stands in the segment of an identifier. -/
def IsSegmentChar (c : Char) : Prop :=
  isUnreserved c = true ∨ c = '%'

instance : DecidablePred IsSegmentChar :=
  fun _ => inferInstanceAs (Decidable (_ ∨ _))

instance (cs : List Char) : Decidable (∀ c ∈ cs, IsSegmentChar c) :=
  List.decidableBAll _ cs

theorem isSegmentChar_of_mem {id : List Char} : ∀ c ∈ segmentChars id, IsSegmentChar c := by
  intro c member
  obtain ⟨original, -, inside⟩ := List.mem_flatMap.1 member
  unfold escapedUnless at inside
  split at inside
  next unreserved => exact .inl (List.mem_singleton.1 inside ▸ unreserved)
  next =>
    obtain ⟨byte, -, inEscape⟩ := List.mem_flatMap.1 inside
    have isByte : byte.toNat < 256 := byte.toNat_lt
    have digits : ∀ n < 16, isUnreserved (upperHexDigit n) = true := by decide
    simp only [escapedByte, List.mem_cons, List.not_mem_nil, or_false] at inEscape
    rcases inEscape with rfl | rfl | rfl
    · exact .inr rfl
    · exact .inl (digits _ (by omega))
    · exact .inl (digits _ (by omega))

/-- A character of a segment stands for itself in a path. It separates no segments, does not
end the path and is not dropped. -/
theorem IsSegmentChar.stands {c : Char} (inSegment : IsSegmentChar c) :
    isPathChar c = true ∧ isSeparator c = false ∧ endsPath c = false ∧ isIgnored c = false := by
  have ascii : c.toNat < 128 := by
    rcases inSegment with unreserved | rfl
    · have bound := ascii_of_isUnreserved unreserved
      exact Nat.lt_succ_of_le (UInt32.le_iff_toNat_le.1 bound)
    · decide
  have all : ∀ n < 128, IsSegmentChar (Char.ofNat n) →
      isPathChar (Char.ofNat n) = true ∧ isSeparator (Char.ofNat n) = false ∧
        endsPath (Char.ofNat n) = false ∧ isIgnored (Char.ofNat n) = false := by
    decide +kernel
  have whole := all c.toNat ascii
  rw [Char.ofNat_toNat] at whole
  exact whole inSegment

/-- A point that is recognized stands for the byte of a point, escaped or not. -/
theorem unescapedBytes_of_plainPoints {cs rest : List Char} (point : plainPoints cs = '.' :: rest) :
    ∃ behind, plainPoints behind = rest ∧ unescapedBytes cs = 0x2E :: unescapedBytes behind := by
  unfold plainPoints at point
  split at point
  next behind => exact ⟨behind, (List.cons.inj point).2, rfl⟩
  next behind => exact ⟨behind, (List.cons.inj point).2, rfl⟩
  next c behind _ _ =>
    obtain ⟨rfl, same⟩ := List.cons.inj point
    exact ⟨behind, same, unescapedBytes_cons_of_ne (by decide) behind⟩
  next => cases point

theorem eq_nil_of_plainPoints {cs : List Char} (nothing : plainPoints cs = []) : cs = [] := by
  unfold plainPoints at nothing
  split at nothing
  next => cases nothing
  next => cases nothing
  next => cases nothing
  next => rfl

/-- Only the identifier `.` is taken for a segment that is left out. -/
theorem isCurrent_segmentChars {id : String} :
    isCurrent (segmentChars id.toList) = true ↔ id = "." := by
  constructor
  · intro current
    obtain ⟨behind, nothing, bytes⟩ := unescapedBytes_of_plainPoints (beq_iff_eq.1 current)
    rw [eq_nil_of_plainPoints nothing, unescapedBytes_segmentChars] at bytes
    exact eq_of_bytes_eq bytes
  · rintro rfl
    rfl

/-- Only the identifier `..` is taken for one that takes a segment along. -/
theorem isParent_segmentChars {id : String} :
    isParent (segmentChars id.toList) = true ↔ id = ".." := by
  constructor
  · intro parent
    obtain ⟨second, point, bytes⟩ := unescapedBytes_of_plainPoints (beq_iff_eq.1 parent)
    obtain ⟨behind, nothing, bytesBehind⟩ := unescapedBytes_of_plainPoints point
    rw [eq_nil_of_plainPoints nothing] at bytesBehind
    rw [bytesBehind, unescapedBytes_segmentChars] at bytes
    exact eq_of_bytes_eq bytes
  · rintro rfl
    rfl

end Url

/-! ## Requests -/

namespace Config

/-- The path begins with a character other than a slash. -/
def IsRelative (path : String) : Prop :=
  ∃ first ∈ path.toList.head?, isSlash first = false

instance (path : String) : Decidable (IsRelative path) :=
  decidable_of_iff (path.toList.head?.any (fun first => !isSlash first))
    (by simp only [IsRelative, Option.any_eq_true, Option.mem_def, Bool.not_eq_true'])

theorem head?_append_of_isRelative {path : String} (relative : IsRelative path) (rest : String) :
    (path ++ rest).toList.head? = path.toList.head? := by
  obtain ⟨first, begins, -⟩ := relative
  rw [String.toList_append, List.head?_append, Option.mem_def.1 begins, Option.some_or]

theorem IsRelative.append {path : String} (relative : IsRelative path) (rest : String) :
    IsRelative (path ++ rest) := by
  unfold IsRelative
  rw [head?_append_of_isRelative relative]
  exact relative

theorem IsRelative.dropWhile_eq {path : String} (relative : IsRelative path) :
    path.toList.dropWhile isSlash = path.toList := by
  obtain ⟨first, begins, noSlash⟩ := relative
  obtain ⟨rest, chars⟩ := List.head?_eq_some_iff.1 begins
  rw [chars, List.dropWhile_cons_of_neg (by simp [noSlash])]

/-- A path that begins with no slash is known from its URL. -/
theorem url_inj (config : Config) {path other : String} (relative : IsRelative path)
    (otherRelative : IsRelative other) : config.url path = config.url other ↔ path = other := by
  refine ⟨fun same => ?_, congrArg config.url⟩
  have chars := List.append_cancel_left (String.ofList_inj.1 same)
  rw [relative.dropWhile_eq, otherRelative.dropWhile_eq, List.cons_inj_right] at chars
  exact String.toList_inj.1 chars

end Config

namespace Client

open Config

variable (client : Client)

/-- The request for a path without a body. -/
def pathRequest (path : String) : Request :=
  client.request .get path none

theorem pathRequest_inj {path other : String} (relative : IsRelative path)
    (otherRelative : IsRelative other) :
    client.pathRequest path = client.pathRequest other ↔ path = other :=
  ⟨fun same => (client.config.url_inj relative otherRelative).1 (congrArg Request.url same),
    congrArg client.pathRequest⟩

theorem isRelative_itemPath {collection : String} (relative : IsRelative collection)
    (id : String) : IsRelative (itemPath collection id) :=
  (relative.append _).append _

theorem head?_itemPath {collection : String} (relative : IsRelative collection) (id : String) :
    (itemPath collection id).toList.head? = collection.toList.head? :=
  (head?_append_of_isRelative (relative.append _) _).trans (head?_append_of_isRelative relative _)

/-- An identifier is known from its path in a collection. -/
theorem itemPath_inj {collection id other : String} :
    itemPath collection id = itemPath collection other ↔ id = other := by
  simp only [itemPath, String.append_left_inj, String.append_right_inj, Url.segment_inj]

/-- An identifier is known from the request for its resource. -/
theorem itemRequest_inj {collection : String} (relative : IsRelative collection)
    {id other : String} :
    client.pathRequest (itemPath collection id) = client.pathRequest (itemPath collection other) ↔
      id = other :=
  (client.pathRequest_inj (isRelative_itemPath relative id)
    (isRelative_itemPath relative other)).trans itemPath_inj

/-- Requests for paths that begin differently differ. -/
theorem pathRequest_ne {path other : String} (relative : IsRelative path)
    (otherRelative : IsRelative other) (apart : path.toList.head? ≠ other.toList.head?) :
    client.pathRequest path ≠ client.pathRequest other :=
  fun same => apart (congrArg (fun path => path.toList.head?)
    ((client.pathRequest_inj relative otherRelative).1 same))

end Client

end CloudInventory
