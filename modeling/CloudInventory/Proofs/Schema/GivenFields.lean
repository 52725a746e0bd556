import CloudInventory.Decode.Record
import CloudInventory.Proofs.Decode.Sequence
import CloudInventory.Proofs.Json.Fields

/-!
# The fields that a value gives

A record comes as an object or as an array of values, and both may leave fields out or
set them to `null`. An array is read as the object with the same values under the keys
of the fields. Either way the canonical record has a member for exactly those fields
that are given, and the member is what the given value is read as.

Results:
1. `Shape.readPositions_eq_readMembers`: an array is read as an object.
2. `Shape.lookup_readMembers`: what the reader makes of one field of an object.
3. `RecordKind.readGiven_member?`: the members of a canonical record are the fields that
   were given, each in its canonical form; `RecordKind.member?_eq_given?`: a text or a scalar
   is kept as it was given.
-/

namespace CloudInventory

/-! ## What is given -/

/-- The members that have a value: a `null` gives nothing. -/
def present (members : List (String × Json)) : List (String × Json) :=
  members.filter fun member => decide (member.2 ≠ .null)

theorem present_cons_null (key : String) (members : List (String × Json)) :
    present ((key, .null) :: members) = present members :=
  List.filter_cons_of_neg (by simp)

theorem present_cons {json : Json} (notNull : json ≠ .null) (key : String)
    (members : List (String × Json)) :
    present ((key, json) :: members) = (key, json) :: present members :=
  List.filter_cons_of_pos (decide_eq_true notNull)

theorem keys_zip_sublist (keys : List String) (items : List Json) :
    ((keys.zip items).map Prod.fst).Sublist keys := by
  induction keys generalizing items with
  | nil => exact .slnil
  | cons key keys ih =>
    cases items with
    | nil => exact List.nil_sublist _
    | cons json items => exact .cons_cons _ (ih items)

namespace RecordKind

/-- The members of an object, or the elements of an array under the keys of the fields. -/
def entries (kind : RecordKind) : Json → List (String × Json)
  | .object members => members
  | .array items => (kind.fields.map Prod.fst).zip items
  | _ => []

/-- What a value gives for a field. -/
def given? (kind : RecordKind) (json : Json) (key : String) : Option Json :=
  (present (kind.entries json)).lookup key

/-- No kind has two fields with one key. -/
theorem nodup_keys (kind : RecordKind) : (kind.fields.map Prod.fst).Nodup := by
  cases kind <;> decide

end RecordKind

/-! ## Reading what is given -/

namespace Shape

/-- The canonical form of what is given for a field, if anything is. -/
def readGiven (shape : Shape) (json : Option Json) : Except SchemaFault (Option Json) :=
  json.mapM fun json => shape.read json

theorem readGiven_eq_ok_iff {shape : Shape} {json canonical : Option Json} :
    shape.readGiven json = .ok canonical ↔
      (json = none ∧ canonical = none) ∨
        ∃ given value, json = some given ∧ canonical = some value ∧ shape.read given = .ok value := by
  cases json with
  | none =>
    constructor
    · intro found
      cases found
      exact .inl ⟨rfl, rfl⟩
    · rintro (⟨-, rfl⟩ | ⟨_, _, absent, -⟩)
      · rfl
      · cases absent
  | some json =>
    change (shape.read json).map some = .ok canonical ↔ _
    rw [map_eq_ok_iff]
    constructor
    · rintro ⟨value, found, rfl⟩
      exact .inr ⟨json, value, rfl, rfl, found⟩
    · rintro (⟨absent, -⟩ | ⟨_, value, same, rfl, found⟩)
      · cases absent
      · cases same
        exact ⟨value, found, rfl⟩

/-- An array of values is read as the object with the values under the keys of the
fields. -/
theorem readPositions_eq_readMembers {all fields : List (String × Shape)}
    (known : ∀ field ∈ fields, all.lookup field.1 = some field.2) (items : List Json) :
    readPositions items fields = readMembers ((fields.map Prod.fst).zip items) all := by
  induction items generalizing fields with
  | nil => rw [List.zip_nil_right, readPositions, readMembers]
  | cons json items ih =>
    cases fields with
    | nil => rw [List.map_nil, List.zip_nil_left, readPositions, readMembers]
    | cons field fields =>
      obtain ⟨key, shape⟩ := field
      have here : all.lookup key = some shape := known _ List.mem_cons_self
      have rest := ih fun field later => known field (List.mem_cons_of_mem _ later)
      rw [List.map_cons, List.zip_cons_cons]
      by_cases null : json = .null
      · rw [null, readPositions, readMembers, rest]
      · rw [readPositions, readMembers, here, rest]
        · exact null
        · exact null

section

variable {fields : List (String × Shape)} {key : String} {json : Json}
  {members canonical : List (String × Json)}

/-- A member of a field that is read with success. -/
theorem readMembers_cons_eq_ok_iff {shape : Shape} (notNull : json ≠ .null)
    (field : fields.lookup key = some shape) :
    readMembers ((key, json) :: members) fields = .ok canonical ↔
      ∃ value values, shape.read json = .ok value ∧ readMembers members fields = .ok values ∧
        canonical = (key, value) :: values := by
  rw [readMembers, field]
  · simp only [bind_eq_ok_iff]
    constructor
    · rintro ⟨value, first, values, rest, made⟩
      cases made
      exact ⟨value, values, first, rest, rfl⟩
    · rintro ⟨value, values, first, rest, rfl⟩
      exact ⟨value, first, values, rest, rfl⟩
  · exact notNull

theorem readMembers_cons_of_unknown (notNull : json ≠ .null) (unknown : fields.lookup key = none) :
    readMembers ((key, json) :: members) fields = readMembers members fields := by
  rw [readMembers, unknown]
  exact notNull

/-- The keys of the canonical record are keys of the members. -/
theorem keys_readMembers (found : readMembers members fields = .ok canonical) :
    (canonical.map Prod.fst).Sublist (members.map Prod.fst) := by
  induction members generalizing canonical with
  | nil =>
    rw [readMembers] at found
    cases found
    exact .slnil
  | cons member members ih =>
    obtain ⟨key, json⟩ := member
    by_cases null : json = .null
    · rw [null, readMembers] at found
      exact .cons _ (ih found)
    · cases known : fields.lookup key with
      | none =>
        rw [readMembers_cons_of_unknown null known] at found
        exact .cons _ (ih found)
      | some shape =>
        obtain ⟨value, values, -, rest, rfl⟩ := (readMembers_cons_eq_ok_iff null known).1 found
        exact .cons_cons _ (ih rest)

/-- A field of the canonical object is what is given for it, in canonical form. -/
theorem lookup_readMembers (found : readMembers members fields = .ok canonical) {shape : Shape}
    (field : fields.lookup key = some shape) :
    shape.readGiven ((present members).lookup key) = .ok (canonical.lookup key) := by
  induction members generalizing canonical with
  | nil =>
    rw [readMembers] at found
    cases found
    rfl
  | cons member members ih =>
    obtain ⟨other, json⟩ := member
    by_cases null : json = .null
    · rw [null, readMembers] at found
      rw [null, present_cons_null]
      exact ih found
    · rw [present_cons null, lookup_cons_eq_ite]
      by_cases same : key = other
      · obtain ⟨value, values, first, -, rfl⟩ :=
          (readMembers_cons_eq_ok_iff null (same ▸ field)).1 found
        rw [if_pos same, lookup_cons_eq_ite, if_pos same]
        exact readGiven_eq_ok_iff.2 (.inr ⟨_, _, rfl, rfl, first⟩)
      · rw [if_neg same]
        cases known : fields.lookup other with
        | none =>
          rw [readMembers_cons_of_unknown null known] at found
          exact ih found
        | some otherShape =>
          obtain ⟨value, values, -, rest, rfl⟩ := (readMembers_cons_eq_ok_iff null known).1 found
          rw [lookup_cons_eq_ite, if_neg same]
          exact ih rest

end

end Shape

/-- The members of a canonical record are the fields that were given, each in its
canonical form. -/
theorem RecordKind.readGiven_member? {kind : RecordKind} {json record : Json}
    (found : kind.read json = .ok record) {key : String} {shape : Shape}
    (field : kind.field? key = some shape) :
    shape.readGiven (kind.given? json key) = .ok (record.member? key) := by
  unfold RecordKind.read at found
  cases json with
  | object members =>
    rw [Shape.read, map_eq_ok_iff] at found
    obtain ⟨canonical, read, rfl⟩ := found
    exact Shape.lookup_readMembers read field
  | array items =>
    rw [Shape.read, Shape.readPositions_eq_readMembers fun _ => lookup_of_mem kind.nodup_keys]
      at found
    obtain ⟨canonical, read, sorted⟩ := bind_eq_ok_iff.1 found
    rw [Shape.ofElements] at sorted
    split at sorted
    · cases sorted
    · cases sorted
      -- The elements stand under distinct keys, so sorting them loses none.
      have distinct : (canonical.map Prod.fst).Nodup :=
        kind.nodup_keys.sublist ((Shape.keys_readMembers read).trans (keys_zip_sublist _ items))
      rw [Json.member?, lookup_sortMembers distinct]
      exact Shape.lookup_readMembers read field
  | null | bool | number | string =>
    rw [Shape.read] at found
    · cases found
    all_goals exact fun _ => Json.noConfusion

theorem RecordKind.exists_read_of_given? {kind : RecordKind} {json record : Json}
    (found : kind.read json = .ok record) {key : String} {shape : Shape}
    (field : kind.field? key = some shape) {given : Json}
    (present : kind.given? json key = some given) : ∃ value, shape.read given = .ok value := by
  rcases Shape.readGiven_eq_ok_iff.1 (readGiven_member? found field) with
    ⟨absent, -⟩ | ⟨_, value, same, -, read⟩
  · cases absent.symm.trans present
  · cases same.symm.trans present
    exact ⟨value, read⟩

/-- A text or a scalar is its own canonical form. -/
theorem Shape.eq_of_read_plain {shape : Shape} (plain : shape = .text ∨ shape = .scalar)
    {given value : Json} (read : shape.read given = .ok value) : value = given := by
  rcases plain with rfl | rfl <;> cases given <;> simp [Shape.read] at read <;> exact read.symm

/-- So the canonical record has a text or a scalar as it was given. -/
theorem RecordKind.member?_eq_given? {kind : RecordKind} {json record : Json}
    (found : kind.read json = .ok record) {key : String} {shape : Shape}
    (field : kind.field? key = some shape) (plain : shape = .text ∨ shape = .scalar) :
    record.member? key = kind.given? json key := by
  rcases Shape.readGiven_eq_ok_iff.1 (readGiven_member? found field) with
    ⟨absent, member⟩ | ⟨given, value, present, member, read⟩
  · rw [absent, member]
  · rw [present, member, Shape.eq_of_read_plain plain read]

end CloudInventory
