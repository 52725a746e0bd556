import CloudInventory.Proofs.Decode.Agreement
import CloudInventory.Proofs.Schema.GivenFields
import CloudInventory.Proofs.Schema.Places

/-!
# Tokens

Some texts of a record are tokens of a vocabulary. Any text may stand in their place: the
reader has the same fault with it, or reads the same canonical form but for the token.

Results:
1. `RecordKind.field?_of_token`: a token is the text of a field.
2. `Shape.agree_read`: two values that differ in a token are read with the same fault, or
   as canonical forms that differ in the token.
-/

namespace CloudInventory

/-- The fields of a kind that hold tokens. -/
def RecordKind.tokens : RecordKind → List String
  | drive => ["status", "media", "image_type"]
  | server => ["status"]
  | serverDrive => ["device"]
  | serverRuntime => ["status"]
  | nic => ["model"]
  | nicStats => ["interface_type"]
  | ipConfiguration => ["conf"]
  | firewallRule => ["action", "direction", "ip_proto"]
  | tagResource => ["res_type"]
  | subscription => ["resource", "status"]
  | pricing => ["resource"]
  | _ => []

/-- A token is the text of a field. -/
theorem RecordKind.field?_of_token {kind : RecordKind} {key : String} (token : key ∈ kind.tokens) :
    kind.field? key = some .text := by
  have all : ∀ key ∈ kind.tokens, kind.field? key = some .text := by
    cases kind <;> decide
  exact all key token

/-- Two lists of members that are equal but for the value of one key. -/
def ChangedUnder (key : String) (R : Json → Json → Prop) (members others : List (String × Json)) :
    Prop :=
  (∀ other, other ≠ key → members.lookup other = others.lookup other) ∧
    ∃ x y, members.lookup key = some x ∧ others.lookup key = some y ∧ R x y

namespace Shape

/-! ## Records that differ in a token -/

/-- A record with a token, and the record with the text `s` in its place. -/
inductive Retokened (s : String) : Shape → Place → Json → Json → Prop
  | member {outer : Shape} {kind : RecordKind} {key old : String}
    (front back : List (String × Json)) (holds : outer.recordKind? = some kind)
    (token : key ∈ kind.tokens) (first : key ∉ front.map Prod.fst) :
    Retokened s outer [.field key] (.object (front ++ (key, .string old) :: back))
      (.object (front ++ (key, .string s) :: back))
  | element {outer : Shape} {kind : RecordKind} {key old : String} (front back : List Json)
    (holds : outer.recordKind? = some kind) (token : key ∈ kind.tokens)
    (field : kind.fields[front.length]? = some (key, .text)) :
    Retokened s outer [.field key] (.array (front ++ .string old :: back))
      (.array (front ++ .string s :: back))

/-- Two canonical values that are equal but for a token at a place inside, which is `s` in
the second one. -/
inductive Differ (s : String) : Shape → Place → Json → Json → Prop
  | token {outer : Shape} {kind : RecordKind} {key old : String} {a b : Json}
    (holds : outer.recordKind? = some kind) (token : key ∈ kind.tokens)
    (others : ∀ other, other ≠ key → a.member? other = b.member? other)
    (before : a.member? key = some (.string old)) (after : b.member? key = some (.string s)) :
    Differ s outer [.field key] a b
  | member {outer shape : Shape} {kind : RecordKind} {key : String} {place : Place}
    {a b x y : Json} (holds : outer.recordKind? = some kind) (field : kind.field? key = some shape)
    (others : ∀ other, other ≠ key → a.member? other = b.member? other)
    (before : a.member? key = some x) (after : b.member? key = some y)
    (inside : Differ s shape place x y) : Differ s outer (.field key :: place) a b
  | item {shape : Shape} {place : Place} {a b : Json} (front back : List Json)
    (inside : Differ s shape place a b) :
    Differ s (.list shape) (.item front.length :: place)
      (.array (front ++ a :: back)) (.array (front ++ b :: back))
  | entry {kind : RecordKind} {place : Place} {key : String} {a b : Json}
    (front back : List (String × Json)) (inside : Differ s (.record kind) place a b) :
    Differ s (.table kind) (.entry key :: place)
      (.object (front ++ (key, a) :: back)) (.object (front ++ (key, b) :: back))

/-- Whether values of the shape hold records. -/
def holdsRecords : Shape → Bool
  | list item => item.holdsRecords
  | table _ => true
  | record _ => true
  | reference _ => true
  | _ => false

/-- Tokens are parts of records. -/
theorem Differ.holdsRecords {s : String} {shape : Shape} {place : Place} {a b : Json}
    (differ : Differ s shape place a b) : shape.holdsRecords = true := by
  have ofKind {outer : Shape} {kind : RecordKind} (holds : outer.recordKind? = some kind) :
      outer.holdsRecords = true := by
    cases outer with
    | record | reference => rfl
    | text | flag | scalar | freeform | list | table => cases holds
  induction differ with
  | token holds => exact ofKind holds
  | member holds => exact ofKind holds
  | item front back inside ih => exact ih
  | entry => rfl

/-! ## Reading around a place -/

section

variable {R : Json → Json → Prop} {a b : Json} {shape : Shape}

theorem readItems_eq_mapM (items : List Json) (shape : Shape) :
    readItems items shape = items.mapM fun json => shape.read json := by
  induction items with
  | nil => rw [readItems]; rfl
  | cons json items ih => rw [readItems, ih, List.mapM_cons]

theorem readTable_eq_mapM (members : List (String × Json)) (kind : RecordKind) :
    readTable members kind =
      members.mapM fun member => (read member.2 (.record kind)).map (member.1, ·) := by
  induction members with
  | nil => rw [readTable]; rfl
  | cons member members ih =>
    obtain ⟨key, json⟩ := member
    rw [readTable, ih, List.mapM_cons]
    change _ = (read json (.record kind)).map (key, ·) >>= _
    cases read json (.record kind) <;> rfl

/-- Members that differ under one key, at its first place, are read as members that do. -/
theorem agree_readMembers (notNull : a ≠ .null ∧ b ≠ .null)
    (agree : Agree R (shape.read a) (shape.read b)) {fields : List (String × Shape)} {key : String}
    (field : fields.lookup key = some shape) {front : List (String × Json)}
    (first : key ∉ front.map Prod.fst) (back : List (String × Json)) :
    Agree (ChangedUnder key R) (readMembers (front ++ (key, a) :: back) fields)
      (readMembers (front ++ (key, b) :: back) fields) := by
  induction front with
  | nil =>
    rw [List.nil_append, List.nil_append, readMembers, readMembers, field]
    · refine agree.bind fun x y related => ?_
      refine Agree.bind (.refl (fun _ => rfl) (readMembers back fields) : Agree Eq _ _) ?_
      rintro rest _ rfl
      refine .ok ⟨fun other different => ?_, x, y, ?_, ?_, related⟩
      · rw [lookup_cons_eq_ite, lookup_cons_eq_ite, if_neg different, if_neg different]
      · rw [lookup_cons_eq_ite, if_pos rfl]
      · rw [lookup_cons_eq_ite, if_pos rfl]
    · exact notNull.2
    · exact notNull.1
  | cons member front ih =>
    obtain ⟨other, json⟩ := member
    rw [List.map_cons, List.mem_cons, not_or] at first
    have rest := ih first.2
    by_cases null : json = .null
    · rw [null, List.cons_append, List.cons_append, readMembers, readMembers]
      exact rest
    · cases known : fields.lookup other with
      | none =>
        rw [List.cons_append, List.cons_append, readMembers_cons_of_unknown null known,
          readMembers_cons_of_unknown null known]
        exact rest
      | some otherShape =>
        rw [List.cons_append, List.cons_append, readMembers, readMembers, known]
        · refine Agree.bind (.refl (fun _ => rfl) (otherShape.read json) : Agree Eq _ _) ?_
          rintro value _ rfl
          refine rest.bind ?_
          rintro members others ⟨same, x, y, before, after, related⟩
          refine .ok ⟨fun name different => ?_, x, y, ?_, ?_, related⟩
          · rw [lookup_cons_eq_ite, lookup_cons_eq_ite, same name different]
          · rw [lookup_cons_eq_ite, if_neg first.1, before]
          · rw [lookup_cons_eq_ite, if_neg first.1, after]
        · exact null
        · exact null

/-- The elements of an array under the keys of the fields, with the one of a field apart. -/
theorem exists_zip_keys {kind : RecordKind} {key : String} {front : List Json}
    (field : kind.fields[front.length]? = some (key, shape)) (back : List Json) :
    ∃ (before after : List (String × Json)), key ∉ before.map Prod.fst ∧
      ∀ json, (kind.fields.map Prod.fst).zip (front ++ json :: back) =
        before ++ (key, json) :: after := by
  obtain ⟨bound, found⟩ := List.getElem?_eq_some_iff.1 field
  have parts : kind.fields.map Prod.fst = (kind.fields.take front.length).map Prod.fst ++
      key :: (kind.fields.drop (front.length + 1)).map Prod.fst := by
    conv_lhs => rw [← List.take_append_drop front.length kind.fields,
      List.drop_eq_getElem_cons bound, found]
    rw [List.map_append, List.map_cons]
  have distinct := kind.nodup_keys
  rw [parts] at distinct
  refine ⟨((kind.fields.take front.length).map Prod.fst).zip front,
    ((kind.fields.drop (front.length + 1)).map Prod.fst).zip back, ?_, fun json => ?_⟩
  · intro early
    have repeated := (keys_zip_sublist _ front).subset early
    exact (List.nodup_append.1 distinct).2.2 key repeated key List.mem_cons_self rfl
  · rw [parts, List.zip_append (by rw [List.length_map, List.length_take]; omega),
      List.zip_cons_cons]

/-- Arrays that differ in the element of a field are read as objects that differ in the
field. -/
theorem agree_readPositions {kind : RecordKind} {key : String} {front : List Json}
    (notNull : a ≠ .null ∧ b ≠ .null) (agree : Agree R (shape.read a) (shape.read b))
    (field : kind.fields[front.length]? = some (key, shape)) (back : List Json) :
    Agree (ChangedUnder key R)
      ((readPositions (front ++ a :: back) kind.fields).map sortMembers)
      ((readPositions (front ++ b :: back) kind.fields).map sortMembers) := by
  have known : kind.fields.lookup key = some shape :=
    lookup_of_mem kind.nodup_keys (List.mem_of_getElem? field)
  obtain ⟨before, after, first, zipped⟩ := exists_zip_keys field back
  have positions (json : Json) : readPositions (front ++ json :: back) kind.fields =
      readMembers (before ++ (key, json) :: after) kind.fields := by
    rw [readPositions_eq_readMembers fun _ => lookup_of_mem kind.nodup_keys, zipped]
  -- Sorting loses none of the members, whose keys are those of fields.
  have sorted (json : Json) (members : List (String × Json))
      (found : readMembers (before ++ (key, json) :: after) kind.fields = .ok members)
      (name : String) : (sortMembers members).lookup name = members.lookup name := by
    refine lookup_sortMembers (kind.nodup_keys.sublist ?_) name
    exact (keys_readMembers found).trans (zipped json ▸ keys_zip_sublist _ _)
  rw [positions, positions]
  have unsorted := agree_readMembers notNull agree known first after
  refine Agree.of_check (by rw [check_map, check_map, unsorted.check_eq]) ?_
  intro x y foundX foundY
  obtain ⟨members, readA, rfl⟩ := map_eq_ok_iff.1 foundX
  obtain ⟨others, readB, rfl⟩ := map_eq_ok_iff.1 foundY
  rw [readA, readB] at unsorted
  cases unsorted with
  | ok related => simpa only [ChangedUnder, sorted a members readA, sorted b others readB]

end

/-- Where a record may stand, objects that differ in a field are read as such objects. -/
theorem agree_read_object {R S : Json → Json → Prop} {place : Shape} {kind : RecordKind}
    {members others : List (String × Json)} {key : String} (holds : place.recordKind? = some kind)
    (agree : Agree (ChangedUnder key R) (readMembers members kind.fields)
      (readMembers others kind.fields))
    (further : ∀ x y, ChangedUnder key R x y → S (.object x) (.object y)) :
    Agree S (place.read (.object members)) (place.read (.object others)) := by
  cases place with
  | record =>
    cases holds
    rw [read, read]
    exact agree.map further
  | reference =>
    cases holds
    rw [read, read]
    exact (agree.map further).mapError
  | text | flag | scalar | freeform | list | table => cases holds

theorem agree_read_array {R S : Json → Json → Prop} {place : Shape} {kind : RecordKind}
    {items others : List Json} {key : String} (holds : place.recordKind? = some kind)
    (length : items.length = others.length)
    (agree : Agree (ChangedUnder key R) ((readPositions items kind.fields).map sortMembers)
      ((readPositions others kind.fields).map sortMembers))
    (further : ∀ x y, ChangedUnder key R x y → S (.object x) (.object y)) :
    Agree S (place.read (.array items)) (place.read (.array others)) := by
  have elements (items : List Json) : (readPositions items kind.fields).bind
      (ofElements items.length kind.fields) =
        (readPositions items kind.fields).map sortMembers >>= fun members =>
          if kind.fields.length < items.length then .error (.tooManyElements items.length)
          else .ok (.object members) := by
    cases readPositions items kind.fields <;> rfl
  have both : Agree S
      ((readPositions items kind.fields).bind (ofElements items.length kind.fields))
      ((readPositions others kind.fields).bind (ofElements others.length kind.fields)) := by
    rw [elements, elements, length]
    refine agree.bind fun x y related => ?_
    split
    · exact .error _
    · exact .ok (further x y related)
  cases place with
  | record =>
    cases holds
    rw [read, read]
    exact both
  | reference =>
    cases holds
    rw [read, read]
    exact both.mapError
  | text | flag | scalar | freeform | list | table => cases holds

/-! ## Reading two values -/

theorem Retokened.ne_null {s : String} {shape : Shape} {place : Place} {a b : Json}
    (retokened : Retokened s shape place a b) : a ≠ .null ∧ b ≠ .null := by
  cases retokened <;> exact ⟨Json.noConfusion, Json.noConfusion⟩

/-- Two values that differ in a token are read with the same fault, or as canonical forms
that differ in the token. -/
theorem agree_read {s : String} {shape : Shape} {place : Place} {a b : Json}
    (retokened : Within (Retokened s) shape place a b) :
    Agree (Differ s shape place) (shape.read a) (shape.read b) := by
  induction retokened with
  | here changed =>
    have texts (old : String) : Agree (fun x y => x = .string old ∧ y = .string s)
        (Shape.text.read (.string old)) (Shape.text.read (.string s)) := .ok ⟨rfl, rfl⟩
    have notNull (old : String) : Json.string old ≠ .null ∧ Json.string s ≠ .null :=
      ⟨Json.noConfusion, Json.noConfusion⟩
    cases changed with
    | member front back holds token first =>
      refine agree_read_object holds (agree_readMembers (notNull _) (texts _)
        (RecordKind.field?_of_token token) first back) ?_
      rintro x y ⟨others, _, _, before, after, rfl, rfl⟩
      exact .token holds token others before after
    | element front back holds token field =>
      refine agree_read_array holds (by rw [List.length_append, List.length_append]; rfl)
        (agree_readPositions (notNull _) (texts _) field back) ?_
      rintro x y ⟨others, _, _, before, after, rfl, rfl⟩
      exact .token holds token others before after
  | item front back inside ih =>
    rw [read, read, readItems_eq_mapM, readItems_eq_mapM]
    refine (ih.mapM front back).map ?_
    rintro _ _ ⟨front, x, y, back, length, rfl, rfl, differ⟩
    exact length ▸ .item front back differ
  | @entry kind place key a b front back inside ih =>
    rw [read, read, readTable_eq_mapM, readTable_eq_mapM]
    refine (Agree.mapM_values (read · (.record kind)) ih key front back).map ?_
    rintro _ _ ⟨front, x, y, back, rfl, rfl, differ⟩
    exact .entry front back differ
  | member front back holds field first inside ih =>
    refine agree_read_object holds (agree_readMembers
      (inside.ne_null fun _ _ _ _ => Retokened.ne_null) ih field first back) ?_
    rintro x y ⟨others, _, _, before, after, differ⟩
    exact .member holds field others before after differ
  | element front back holds field inside ih =>
    refine agree_read_array holds (by rw [List.length_append, List.length_append]; rfl)
      (agree_readPositions (inside.ne_null fun _ _ _ _ => Retokened.ne_null) ih field back) ?_
    rintro x y ⟨others, _, _, before, after, differ⟩
    exact .member holds (lookup_of_mem (RecordKind.nodup_keys _) (List.mem_of_getElem? field))
      others before after differ

end Shape

end CloudInventory
