import CloudInventory.Proofs.Resource.Evaluations
import CloudInventory.Proofs.Schema.CanonicalForms
import CloudInventory.Proofs.Text.Trim

/-!
# Exact conversion

A decoder makes a resource of a record that fits the schema. It fails exactly if one of the
scalars that it evaluates has no value, with the error of the first. What comes out is what
was given, field by field: nothing is left out, and nothing is made up but for the values
that stand for an unset field.

Results:
1. `Rule.holds_of_convert`: what is converted by a rule is what was given.
2. `Rule.read_of_mem_inside`: the records inside fit the schema too.
3. `conversion_exact`: the whole of it, for every type of resources.
-/

namespace CloudInventory

/-! ## What was given -/

/-- Whether a scalar restricts anything: a blank text does not. -/
def restricts : Json → Bool
  | .string text => !text.toList.all Text.isBlank
  | _ => true

/-- What the value of a field, as the record has it, and the value that it is converted into
have to do with each other. -/
def Rule.Holds (key : String) : (rule : Rule) → Option Json → rule.Value → Prop
  | text, json, value => Option.Rel (fun json s => json = .string s) json value
  | flag, json, value => Option.Rel (fun json b => json = .bool b) json value
  | decimal, json, value =>
    Option.Rel (fun json s => ∃ scalar : Scalar, json = scalar.toJson ∧ s = scalar.plainText)
      json value
  | token _, json, value =>
    Option.Rel (fun json x => ∃ text, json = .string text ∧ x = Token.ofText text) json value
  | variant, json, value =>
    (json = none ∧ value = .unrecognized) ∨
      ∃ text, json = some (.string text) ∧ value = Token.ofText text
  | instant, json, value =>
    Option.Rel (fun json t => ∃ text, json = .string text ∧ Instant.decode text = .ok t) json value
  | magnitude, json, value =>
    Option.Rel (fun json n => ∃ scalar : Scalar, json = scalar.toJson ∧
      Magnitude.ofScalar scalar = .ok n) json value
  | integer type, json, value =>
    Option.Rel (fun json n => ∃ scalar : Scalar, json = scalar.toJson ∧
      scalar.toBounded type.Value key = .ok n) json value
  | bootOrder, json, value =>
    (json = none ∧ value = -1) ∨ ∃ scalar : Scalar, json = some scalar.toJson ∧
      scalar.toBounded Int32 key = .ok value
  | address, json, value =>
    Option.Rel (fun json x => ∃ text, json = .string text ∧ AddressMatch.parse text = .ok (some x))
      (json.filter restricts) value
  | port, json, value =>
    Option.Rel (fun json x => ∃ scalar : Scalar, json = scalar.toJson ∧
      PortRange.decode (some scalar) = .ok (some x)) (json.filter restricts) value
  | texts, json, value =>
    (json = none ∧ value = []) ∨ json = some (.array (value.map .string))
  | metadata, json, value =>
    (json = none ∧ value = .empty) ∨
      ∃ members, json = some (.object members) ∧ value = .ofMembers members
  | record type, json, value =>
    Option.Rel (fun json x => type.convert json = .ok x) json value
  | records type, json, value =>
    (json = none ∧ value = []) ∨ ∃ items, json = some (.array items) ∧
      List.Forall₂ (fun json x => type.convert json = .ok x) items value
  | table type, json, value =>
    (json = none ∧ value = .empty) ∨ ∃ members rows, json = some (.object members) ∧
      List.Forall₂ (fun member row => row.1 = member.1 ∧ type.convert member.2 = .ok row.2)
        members rows ∧ value = .ofList rows

/-! ### Optional values -/

section

variable {α β γ : Type} {R : α → β → Prop} {S : β → γ → Prop}

theorem rel_comp {a : Option α} {b : Option β} {c : Option γ} (first : Option.Rel R a b)
    (second : Option.Rel S b c) : Option.Rel (fun x z => ∃ y, R x y ∧ S y z) a c := by
  cases first with
  | none =>
    cases second
    exact .none
  | some related =>
    obtain ⟨further⟩ := second
    exact .some ⟨_, related, further⟩

theorem rel_map (f : α → β) (a : Option α) : Option.Rel (fun x y => y = f x) a (a.map f) := by
  cases a with
  | none => exact .none
  | some x => exact .some rfl

/-- An optional value is converted if it is there. -/
theorem rel_of_mapM {f : α → Except DecodeError β} {a : Option α} {b : Option β}
    (converted : a.mapM f = .ok b) : Option.Rel (fun x y => f x = .ok y) a b := by
  cases a with
  | none =>
    cases converted
    exact .none
  | some x =>
    obtain ⟨y, here, rfl⟩ := map_eq_ok_iff.1 converted
    exact .some here

end

section

variable {json : Option Json}

theorem rel_text (canonical : ∀ given ∈ json, Shape.text.Canonical given) :
    Option.Rel (fun given s => given = .string s) json (json.bind Json.text?) := by
  cases json with
  | none => exact .none
  | some given =>
    obtain ⟨s, rfl⟩ := canonical given rfl
    exact .some rfl

theorem rel_flag (canonical : ∀ given ∈ json, Shape.flag.Canonical given) :
    Option.Rel (fun given b => given = .bool b) json (json.bind Json.flag?) := by
  cases json with
  | none => exact .none
  | some given =>
    obtain ⟨b, rfl⟩ := canonical given rfl
    exact .some rfl

theorem rel_scalar (canonical : ∀ given ∈ json, Shape.scalar.Canonical given) :
    Option.Rel (fun given (s : Scalar) => given = s.toJson) json (json.bind Scalar.ofJson?) := by
  cases json with
  | none => exact .none
  | some given =>
    obtain ⟨s, rfl⟩ := canonical given rfl
    rw [Option.bind_some, Scalar.ofJson?_toJson]
    exact .some rfl

end

/-! ### Addresses and ports -/

theorem restricts_string_iff {text : String} :
    restricts (.string text) = true ↔ Text.trim text.toList ≠ [] := by
  rw [restricts, Bool.not_eq_true', ← Bool.not_eq_true, List.all_eq_true, ne_eq,
    Text.trim_eq_nil_iff]

/-- A blank text has no address, and any other text has one or is faulty. -/
theorem AddressMatch.isSome_of_parse {text : String} {value : Option AddressMatch}
    (parsed : parse text = .ok value) : value.isSome = restricts (.string text) := by
  rw [parse] at parsed
  split at parsed
  next blank =>
    cases parsed
    exact (Bool.eq_false_iff.2 fun visible => restricts_string_iff.1 visible blank).symm
  next c cs visible =>
    obtain ⟨network, -, made⟩ := bind_eq_ok_iff.1 parsed
    cases made
    exact (restricts_string_iff.2 (by rw [visible]; exact List.cons_ne_nil _ _)).symm

/-- A blank text has no ports, and any other scalar has some or is faulty. -/
theorem PortRange.isSome_of_decode {scalar : Scalar} {value : Option PortRange}
    (decoded : decode (some scalar) = .ok value) : value.isSome = restricts scalar.toJson := by
  cases scalar with
  | number n =>
    cases n with
    | integer =>
      rw [decode] at decoded
      split at decoded
      · cases decoded
        rfl
      · cases decoded
    | float => cases decoded
  | text written =>
    rw [decode, parse] at decoded
    split at decoded
    next blank =>
      cases decoded
      exact (Bool.eq_false_iff.2 fun visible => restricts_string_iff.1 visible blank).symm
    next c cs visible =>
      split at decoded
      split at decoded
      · cases decoded
        exact (restricts_string_iff.2 (by rw [visible]; exact List.cons_ne_nil _ _)).symm
      · cases decoded

/-- A value that is there exactly if a test is passed. -/
theorem rel_filter {α β : Type} {x : α} {b : Option β} {p : α → Bool} {R : α → β → Prop}
    (there : b.isSome = p x) (related : ∀ y, b = some y → R x y) :
    Option.Rel R ((some x).filter p) b := by
  cases b with
  | none =>
    rw [Option.filter_some_neg (show p x = false from there.symm)]
    exact .none
  | some y =>
    rw [Option.filter_some_pos there.symm]
    exact .some (related y rfl)

/-! ### Rules -/

theorem texts_of_canonical {items : List Json} (each : ∀ json ∈ items, Shape.text.Canonical json) :
    (items.filterMap Json.text?).map .string = items := by
  induction items with
  | nil => rfl
  | cons json items ih =>
    rw [List.forall_mem_cons] at each
    obtain ⟨⟨s, rfl⟩, later⟩ := each
    exact congrArg _ (ih later)

/-- What a field of a canonical record is converted into is what was given. -/
theorem Rule.holds_of_convert {rule : Rule} {shape : Shape} {key : String} {json : Option Json}
    {value : rule.Value} (fits : rule.Fits shape)
    (canonical : ∀ given ∈ json, shape.Canonical given)
    (converted : rule.convert key json = .ok value) : rule.Holds key json value := by
  cases rule with
  | text =>
    cases fits
    cases converted
    exact rel_text canonical
  | flag =>
    cases fits
    cases converted
    exact rel_flag canonical
  | decimal =>
    cases fits
    cases converted
    exact rel_comp (rel_scalar canonical) (rel_map _ _)
  | token =>
    cases fits
    cases converted
    exact rel_comp (rel_text canonical) (rel_map _ _)
  | instant =>
    cases fits
    exact rel_comp (rel_text canonical) (rel_of_mapM converted)
  | magnitude | integer =>
    cases fits
    exact rel_comp (rel_scalar canonical) (rel_of_mapM converted)
  | record => exact rel_of_mapM converted
  -- A value that stands for an unset field.
  | variant =>
    cases fits
    cases converted
    cases json with
    | none => exact .inl ⟨rfl, rfl⟩
    | some given =>
      obtain ⟨text, rfl⟩ := canonical given rfl
      exact .inr ⟨text, rfl, rfl⟩
  | bootOrder =>
    cases fits
    obtain ⟨order, evaluated, rfl⟩ := map_eq_ok_iff.1 converted
    cases rel_comp (rel_scalar canonical) (rel_of_mapM evaluated) with
    | none => exact .inl ⟨rfl, rfl⟩
    | some both =>
      obtain ⟨scalar, rfl, here⟩ := both
      exact .inr ⟨scalar, rfl, here⟩
  | address =>
    cases fits
    cases json with
    | none =>
      cases converted
      exact .none
    | some given =>
      obtain ⟨text, rfl⟩ := canonical given rfl
      exact rel_filter (AddressMatch.isSome_of_parse converted) fun x there =>
        ⟨text, rfl, there ▸ converted⟩
  | port =>
    cases fits
    cases json with
    | none =>
      cases converted
      exact .none
    | some given =>
      obtain ⟨scalar, rfl⟩ := canonical given rfl
      rw [convert, Option.bind_some, Scalar.ofJson?_toJson] at converted
      exact rel_filter (PortRange.isSome_of_decode converted) fun x there =>
        ⟨scalar, rfl, there ▸ converted⟩
  | texts =>
    cases fits
    cases converted
    cases json with
    | none => exact .inl ⟨rfl, rfl⟩
    | some given =>
      obtain ⟨items, rfl, each⟩ := canonical given rfl
      exact .inr (congrArg (fun items => some (Json.array items)) (texts_of_canonical each).symm)
  | metadata =>
    cases fits
    cases converted
    cases json with
    | none => exact .inl ⟨rfl, rfl⟩
    | some given =>
      obtain ⟨members, rfl⟩ := canonical given rfl
      exact .inr ⟨members, rfl, rfl⟩
  | records type =>
    cases json with
    | none =>
      cases converted
      exact .inl ⟨rfl, rfl⟩
    | some given =>
      have array : ∃ items, given = .array items := by
        rcases fits with rfl | rfl <;> exact (canonical given rfl).imp fun _ => And.left
      obtain ⟨items, rfl⟩ := array
      exact .inr ⟨items, rfl, mapM_eq_ok_iff.1 converted⟩
  | table type =>
    cases fits
    obtain ⟨rows, decoded, rfl⟩ := map_eq_ok_iff.1 converted
    cases json with
    | none =>
      cases decoded
      exact .inl ⟨rfl, rfl⟩
    | some given =>
      obtain ⟨members, rfl, -⟩ := canonical given rfl
      refine .inr ⟨members, rows, rfl, (mapM_eq_ok_iff.1 decoded).imp ?_, rfl⟩
      intro member row made
      obtain ⟨x, here, rfl⟩ := map_eq_ok_iff.1 made
      exact ⟨rfl, here⟩

/-! ## Records inside -/

/-- The records inside a canonical record were read by the schema too. -/
theorem Rule.read_of_mem_inside {rule : Rule} {shape : Shape} {record : Json} {key : String}
    (fits : rule.Fits shape) (canonical : ∀ given ∈ record.member? key, shape.Canonical given) :
    ∀ entry ∈ rule.inside record key, ∃ place given,
      place.recordKind? = some entry.1.kind ∧ Shape.read given place = .ok entry.2.1 := by
  have ofCanonical {place : Shape} {kind : RecordKind} {json : Json}
      (record : place = .record kind ∨ place = .reference kind) (canonical : place.Canonical json) :
      ∃ place given, place.recordKind? = some kind ∧ Shape.read given place = .ok json := by
    rcases record with rfl | rfl <;> exact ⟨_, canonical.choose, rfl, canonical.choose_spec⟩
  cases rule with
  | record type =>
    intro entry member
    obtain ⟨child, there, rfl⟩ := List.mem_map.1 member
    refine ofCanonical fits (canonical child.1 ?_)
    rw [← Json.child?_eq, Option.mem_toList.1 there]
    rfl
  | records type =>
    intro entry member
    obtain ⟨child, there, rfl⟩ := List.mem_map.1 member
    have item : child.1 ∈ ((record.member? key).map Json.items).getD [] :=
      Json.map_val_children record key ▸ List.mem_map.2 ⟨child, there, rfl⟩
    cases found : record.member? key with
    | none =>
      rw [found] at item
      cases item
    | some given =>
      have here := canonical given found
      rw [found] at item
      rcases fits with rfl | rfl
      · obtain ⟨items, rfl, each⟩ := here
        exact ofCanonical (.inl rfl) (each child.1 item)
      · obtain ⟨items, rfl, each⟩ := here
        exact ofCanonical (.inr rfl) (each child.1 item)
  | table type =>
    cases fits
    intro entry member
    obtain ⟨child, there, rfl⟩ := List.mem_map.1 member
    have row : child.1 ∈ (((record.member? key).map Json.members).getD []).map Prod.snd :=
      Json.map_val_rows record key ▸ List.mem_map.2 ⟨child, there, rfl⟩
    cases found : record.member? key with
    | none =>
      rw [found] at row
      cases row
    | some given =>
      obtain ⟨members, rfl, each⟩ := canonical given found
      rw [found] at row
      obtain ⟨member, there, same⟩ := List.mem_map.1 row
      obtain ⟨given, here⟩ := each member there
      exact ⟨.record type.kind, given, rfl, same ▸ here⟩
  | text | flag | decimal | token | variant | instant | magnitude | integer | bootOrder | address
  | port | texts | metadata => exact fun _ member => absurd member List.not_mem_nil

/-! ## Every decoder -/

/-- A record that fits the schema, in a place for a record or for a reference, is decoded
into every type of its kind exactly if each scalar that the decoder evaluates has a value,
and else the error is that of the first one that has none. On success every part of the
resource is what was given for its field: unset if nothing was, and else the value that
the rule of the field makes of it. The resource has nothing beside that, so its fields
determine it. The records inside fit the schema as well, so all of this holds of them. -/
theorem conversion_exact (type : ResourceType) (place : Shape) (json record : Json)
    (holds : place.recordKind? = some type.kind) (read : place.read json = .ok record) :
    ((∃ x, type.convert record = .ok x) ↔
      ∀ evaluation ∈ type.evaluations record, evaluation.outcome = .ok ()) ∧
    (∀ fault, type.convert record = .error fault ↔
      ∃ i, FailsAt Evaluation.outcome (type.evaluations record) i fault) ∧
    (∀ x, type.convert record = .ok x → type.Derived x ∧ ∀ field ∈ type.fields,
      field.rule.Holds field.key (record.member? field.key) (field.value x)) ∧
    (∀ x y, type.Derived x → type.Derived y →
      (∀ field ∈ type.fields, field.value x = field.value y) → x = y) ∧
    (∀ field ∈ type.fields,
      (∃ shape, type.kind.field? field.key = some shape ∧ (place = .record type.kind →
        shape.readGiven (type.kind.given? json field.key) = .ok (record.member? field.key))) ∧
      ∀ entry ∈ field.rule.inside record field.key, ∃ inner given,
        inner.recordKind? = some entry.1.kind ∧ Shape.read given inner = .ok entry.2.1) := by
  have fits (field : Field type.Value) (member : field ∈ type.fields) :
      ∃ shape, type.kind.field? field.key = some shape ∧ field.rule.Fits shape ∧
        ∀ given ∈ record.member? field.key, shape.Canonical given := by
    obtain ⟨shape, known, fits⟩ := type.fits field member
    exact ⟨shape, known, fits, fun given there => Shape.canonical_member? holds read known there⟩
  refine ⟨?_, ?_, ?_, fun x y => ResourceType.eq_of_fields, ?_⟩
  · rw [← check_eq_ok_iff, ResourceType.check_evaluations, forM_eq_ok_iff]
  · intro fault
    rw [← check_eq_error_iff, ResourceType.check_evaluations, forM_eq_error_iff]
  · intro x converted
    refine ⟨ResourceType.derived_of_convert converted, fun field member => ?_⟩
    obtain ⟨shape, known, fits, canonical⟩ := fits field member
    exact Rule.holds_of_convert fits canonical
      (ResourceType.value_of_convert converted field member)
  · intro field member
    obtain ⟨shape, known, fits, canonical⟩ := fits field member
    refine ⟨⟨shape, known, ?_⟩, Rule.read_of_mem_inside fits canonical⟩
    rintro rfl
    exact RecordKind.readGiven_member? read known

/-! ## Attached drives -/

namespace ConversionExamples

/-- An attachment with a boot order and the drive of a bare identifier. -/
def attachment (bootOrder : String) : Json :=
  .object [("boot_order", .string bootOrder), ("drive", .string "d"), ("status", .bool true)]

/-- Its canonical form. -/
def canonical (bootOrder : String) : Json :=
  .object [("boot_order", .string bootOrder), ("drive", .object [("uuid", .string "d")])]

/-- What the second drive to boot from is decoded to. -/
def second : ServerDrive :=
  { bootOrder := 2, driveUuid := some "d", drive := some { uuid := some "d" } }

end ConversionExamples

open ConversionExamples in
/-- A boot order is read from text with blanks around it, and the attachment that comes out
is as given; a boot order that is no number is the fault of the attachment. -/
theorem conversion_exact_attachments :
    ResourceType.serverDrive.convert (canonical " 2 ") = .ok second ∧
      (∀ evaluation ∈ ResourceType.serverDrive.evaluations (canonical " 2 "),
        evaluation.outcome = .ok ()) ∧
      (∀ field ∈ ResourceType.serverDrive.fields,
        field.rule.Holds field.key ((canonical " 2 ").member? field.key) (field.value second)) ∧
      ∃ i, FailsAt Evaluation.outcome (ResourceType.serverDrive.evaluations (canonical "first")) i
        (.integer "boot_order" "first") := by
  have read (bootOrder : String) :
      (Shape.record .serverDrive).read (attachment bootOrder) = .ok (canonical bootOrder) := rfl
  have converted : ResourceType.serverDrive.convert (canonical " 2 ") = .ok second := rfl
  have failed : ResourceType.serverDrive.convert (canonical "first") =
      .error (.integer "boot_order" "first") := rfl
  obtain ⟨succeeds, -, given, -⟩ := conversion_exact .serverDrive _ _ _ rfl (read " 2 ")
  obtain ⟨-, fails, -⟩ := conversion_exact .serverDrive _ _ _ rfl (read "first")
  exact ⟨converted, succeeds.1 ⟨second, converted⟩, (given second converted).2, (fails _).1 failed⟩

end CloudInventory
