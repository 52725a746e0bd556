import CloudInventory.Proofs.Resource.FieldLaws
import CloudInventory.Proofs.Schema.Tokens
import Mathlib.Data.List.Nodup

/-!
# Changes of a token

What another text in the place of a token makes of a resource: nothing, if the type does not
have the field, or else another value in one part, however deep inside the resource the
part is. All decoders are covered at once, by their tables.

Results:
1. `Retold.value_eq`: parts that have no tokens stay as they are.
2. `follows_of_differ`: of canonical records that differ in a token a decoder makes
   the same fault, or resources that differ in the part of the token.
-/

namespace CloudInventory

/-! ## Resources that differ in a token -/

namespace ResourceType

/-- The uuid of an attached drive; it is the one part that has no field of its own. -/
def attachedUuid : (type : ResourceType) → type.Value → Option String
  | serverDrive, x => x.driveUuid
  | _, _ => none

/-- Two resources that have all their parts in common, but for the one of a field. -/
def AgreeBut (type : ResourceType) (key : String) (x y : type.Value) : Prop :=
  (∀ field ∈ type.fields, field.key ≠ key → field.value x = field.value y) ∧
    type.attachedUuid x = type.attachedUuid y

end ResourceType

/-- The second resource is the first one, but for the token at a place inside, which is read
from the text `s` in the second one. The place follows the fields of the records. A field
that the type does not have makes no difference. -/
inductive Retold (s : String) : (type : ResourceType) → Place → type.Value → type.Value → Prop
  | unread {type : ResourceType} {key : String} {place : Place} {x : type.Value}
    (absent : ∀ field ∈ type.fields, field.key ≠ key) : Retold s type (.field key :: place) x x
  | token {type : ResourceType} {key : String} {α : Type} [Vocabulary α]
    {value : type.Value → Option α} {x y : type.Value}
    (field : ⟨key, .token α, value⟩ ∈ type.fields) (others : type.AgreeBut key x y)
    (before : (value x).isSome = true) (after : value y = some (Token.ofText s)) :
    Retold s type [.field key] x y
  | variant {type : ResourceType} {key : String} {value : type.Value → TagResourceType}
    {x y : type.Value} (field : ⟨key, .variant, value⟩ ∈ type.fields)
    (others : type.AgreeBut key x y) (after : value y = Token.ofText s) :
    Retold s type [.field key] x y
  | record {type inner : ResourceType} {key : String} {place : Place}
    {value : type.Value → Option inner.Value} {x y : type.Value} {a b : inner.Value}
    (field : ⟨key, .record inner, value⟩ ∈ type.fields) (others : type.AgreeBut key x y)
    (before : value x = some a) (after : value y = some b) (inside : Retold s inner place a b) :
    Retold s type (.field key :: place) x y
  | item {type inner : ResourceType} {key : String} {place : Place}
    {value : type.Value → List inner.Value} {x y : type.Value} {a b : inner.Value}
    (front back : List inner.Value) (field : ⟨key, .records inner, value⟩ ∈ type.fields)
    (others : type.AgreeBut key x y) (before : value x = front ++ a :: back)
    (after : value y = front ++ b :: back) (inside : Retold s inner place a b) :
    Retold s type (.field key :: .item front.length :: place) x y
  | entry {type inner : ResourceType} {key name : String} {place : Place}
    {value : type.Value → Dictionary inner.Value} {x y : type.Value} {a b : inner.Value}
    (front back : List (String × inner.Value)) (field : ⟨key, .table inner, value⟩ ∈ type.fields)
    (others : type.AgreeBut key x y) (before : value x = .ofList (front ++ (name, a) :: back))
    (after : value y = .ofList (front ++ (name, b) :: back)) (inside : Retold s inner place a b) :
    Retold s type (.field key :: .entry name :: place) x y

/-! ## Parts that stay -/

/-- No table has two fields with one key. -/
theorem ResourceType.field_unique {type : ResourceType} {field other : Field type.Value}
    (member : field ∈ type.fields) (memberOther : other ∈ type.fields)
    (same : field.key = other.key) : field = other :=
  List.inj_on_of_nodup_map type.nodup_keys member memberOther same

/-- The rules for values without tokens. -/
def Rule.tokenless : Rule → Bool
  | token _ => false
  | variant => false
  | record _ => false
  | records _ => false
  | table _ => false
  | _ => true

namespace Retold

variable {s : String} {type : ResourceType} {place : Place} {x y : type.Value}

/-- Parts that have no tokens stay as they are. -/
theorem value_eq (retold : Retold s type place x y) {field : Field type.Value}
    (member : field ∈ type.fields) (tokenless : field.rule.tokenless = true) :
    field.value x = field.value y := by
  cases retold with
  | unread => rfl
  | token changed others | variant changed others | record changed others
  | item _ _ changed others | entry _ _ changed others =>
    obtain ⟨name, rule, part⟩ := field
    refine others.1 _ member ?_
    rintro rfl
    cases ResourceType.field_unique member changed rfl
    cases tokenless

/-- The first step of the place is the one field that makes a difference. -/
theorem agreeBut {key : String} (retold : Retold s type (.field key :: place) x y) :
    type.AgreeBut key x y := by
  cases retold with
  | unread => exact ⟨fun _ _ _ => rfl, rfl⟩
  | token _ others | variant _ others | record _ others | item _ _ _ others
  | entry _ _ _ others => exact others

theorem text_eq (retold : Retold s type place x y) {key : String}
    {value : type.Value → Option String} (member : ⟨key, .text, value⟩ ∈ type.fields) :
    value x = value y :=
  retold.value_eq member rfl

end Retold

/-! ## Two runs of a decoder -/

/-- Whether the value of a rule is that of a token. -/
def Rule.isToken : Rule → Bool
  | token _ => true
  | variant => true
  | _ => false

namespace ResourceType

variable {s key : String} {type : ResourceType} {place : Place} {a b : Json} {x y : type.Value}

/-- The fields of a table that hold tokens are converted as tokens. -/
theorem isToken_of_mem_tokens : ∀ field ∈ type.fields, field.key ∈ type.kind.tokens →
    field.rule.isToken = true := by
  cases type <;> decide

/-- The uuid of an attached drive stays if the drive keeps its uuid. -/
theorem attachedUuid_eq (derived : type.Derived x) (derivedOther : type.Derived y)
    (others : ∀ field ∈ type.fields, field.key ≠ key → field.value x = field.value y)
    (attached : ∀ value : type.Value → Option Drive, ⟨key, .record .drive, value⟩ ∈ type.fields →
      (value x).bind Drive.uuid = (value y).bind Drive.uuid) :
    type.attachedUuid x = type.attachedUuid y := by
  cases type with
  | serverDrive =>
    have field : ⟨"drive", .record .drive, ServerDrive.drive⟩ ∈ serverDrive.fields :=
      List.mem_cons_self
    rw [attachedUuid, attachedUuid, derived, derivedOther]
    by_cases here : key = "drive"
    · exact attached ServerDrive.drive (here ▸ field)
    · exact congrArg (·.bind Drive.uuid) (others _ field (Ne.symm here))
  | _ => rfl

/-- Decoders of records that differ in one field agree if they do in the field. -/
theorem agree_of_field {R : type.Value → type.Value → Prop}
    (others : ∀ other, other ≠ key → a.member? other = b.member? other)
    (changed : ∀ field ∈ type.fields, field.key = key →
      check (field.convert a) = check (field.convert b))
    (related : ∀ x y, type.convert a = .ok x → type.convert b = .ok y →
      (∀ field ∈ type.fields, field.key ≠ key → field.value x = field.value y) → R x y) :
    Agree R (type.convert a) (type.convert b) := by
  refine .of_check ?_ fun x y convertedX convertedY => ?_
  · rw [check_convert, check_convert]
    refine forM_congr fun field member => ?_
    by_cases here : field.key = key
    · exact changed field member here
    · rw [Field.convert, Field.convert, others _ here]
  · refine related x y convertedX convertedY fun field member different => ?_
    have valueX := value_of_convert convertedX field member
    have valueY := value_of_convert convertedY field member
    rw [Field.convert, others _ different] at valueX
    exact Except.ok.inj (valueX.symm.trans valueY)

/-- A field that the type does not have makes no difference. -/
theorem agree_of_unread (others : ∀ other, other ≠ key → a.member? other = b.member? other)
    (absent : ∀ field ∈ type.fields, field.key ≠ key) :
    Agree (Retold s type (.field key :: place)) (type.convert a) (type.convert b) := by
  refine agree_of_field others (fun field member here => absurd here (absent field member)) ?_
  intro x y convertedX convertedY same
  obtain rfl := eq_of_fields (derived_of_convert convertedX) (derived_of_convert convertedY)
    fun field member => same field member (absent field member)
  exact .unread absent

/-- A field with a rule of its own makes the difference, and no other. -/
theorem agree_of_changed {R : type.Value → type.Value → Prop} {rule : Rule}
    {value : type.Value → rule.Value} (member : ⟨key, rule, value⟩ ∈ type.fields)
    (others : ∀ other, other ≠ key → a.member? other = b.member? other)
    {S : rule.Value → rule.Value → Prop}
    (changed : Agree S (rule.convert key (a.member? key)) (rule.convert key (b.member? key)))
    (attached : ∀ x y : type.Value, S (value x) (value y) → ∀ part : type.Value → Option Drive,
      ⟨key, .record .drive, part⟩ ∈ type.fields →
        (part x).bind Drive.uuid = (part y).bind Drive.uuid)
    (related : ∀ x y, type.AgreeBut key x y → S (value x) (value y) → R x y) :
    Agree R (type.convert a) (type.convert b) := by
  refine agree_of_field others ?_ ?_
  · intro field memberOther same
    obtain rfl := field_unique memberOther member same
    exact changed.check_eq
  · intro x y convertedX convertedY same
    have valueX : rule.convert key (a.member? key) = .ok (value x) :=
      value_of_convert convertedX _ member
    have valueY : rule.convert key (b.member? key) = .ok (value y) :=
      value_of_convert convertedY _ member
    rw [valueX, valueY] at changed
    cases changed with
    | ok here =>
      refine related x y ⟨same, ?_⟩ here
      exact attachedUuid_eq (derived_of_convert convertedX) (derived_of_convert convertedY) same
        (attached x y here)

end ResourceType

/-- Two lists of resources that differ in a token of one item. -/
def RetoldItem (s : String) (type : ResourceType) (place : Place) (xs ys : List type.Value) :
    Prop :=
  ∃ front x y back inner, place = .item front.length :: inner ∧ xs = front ++ x :: back ∧
    ys = front ++ y :: back ∧ Retold s type inner x y

/-- Two tables of resources that differ in a token of one entry. -/
def RetoldEntry (s : String) (type : ResourceType) (place : Place) (x y : Dictionary type.Value) :
    Prop :=
  ∃ front name a b back inner, place = .entry name :: inner ∧
    x = .ofList (front ++ (name, a) :: back) ∧ y = .ofList (front ++ (name, b) :: back) ∧
    Retold s type inner a b

/-- What the decoders make of two canonical values, be they records, lists of records or
tables. -/
structure Follows (s : String) (shape : Shape) (place : Place) (a b : Json) : Prop where
  record : ∀ type : ResourceType, shape.recordKind? = some type.kind →
    Agree (Retold s type place) (type.convert a) (type.convert b)
  records : ∀ (type : ResourceType) (item : Shape), shape = .list item →
    item.recordKind? = some type.kind → ∀ key,
    Agree (RetoldItem s type place) ((Rule.records type).convert key (some a))
      ((Rule.records type).convert key (some b))
  table : ∀ type : ResourceType, shape = .table type.kind → ∀ key,
    Agree (RetoldEntry s type place) ((Rule.table type).convert key (some a))
      ((Rule.table type).convert key (some b))

namespace ResourceType

variable {s key : String} {type : ResourceType} {place : Place} {a b : Json} {x y : type.Value}

/-- A token makes a difference in the field that is converted from it. -/
theorem agree_of_token {old : String} (token : key ∈ type.kind.tokens)
    (others : ∀ other, other ≠ key → a.member? other = b.member? other)
    (before : a.member? key = some (.string old)) (after : b.member? key = some (.string s)) :
    Agree (Retold s type [.field key]) (type.convert a) (type.convert b) := by
  by_cases taken : ∃ field ∈ type.fields, field.key = key
  · obtain ⟨⟨name, rule, value⟩, member, here⟩ := taken
    obtain rfl : name = key := here
    have isToken := type.isToken_of_mem_tokens _ member token
    cases rule with
    | token α =>
      have changed : Agree (fun x y => x.isSome = true ∧ y = some (Token.ofText s))
          ((Rule.token α).convert name (a.member? name))
          ((Rule.token α).convert name (b.member? name)) := by
        rw [before, after]
        exact .ok ⟨rfl, rfl⟩
      refine agree_of_changed member others changed ?_ ?_
      · exact fun _ _ _ _ other => nomatch field_unique other member rfl
      · exact fun x y others here => .token member others here.1 here.2
    | variant =>
      have changed : Agree (fun _ y => y = Token.ofText s)
          (Rule.variant.convert name (a.member? name))
          (Rule.variant.convert name (b.member? name)) := by
        rw [before, after]
        exact .ok rfl
      refine agree_of_changed member others changed ?_ ?_
      · exact fun _ _ _ _ other => nomatch field_unique other member rfl
      · exact fun x y others here => .variant member others here
    | _ => cases isToken
  · exact agree_of_unread others fun field member here => taken ⟨field, member, here⟩

/-- A record, a list of records or a table makes a difference in the field that is converted
from it. -/
theorem agree_of_member {shape : Shape} {given changed : Json}
    (field : type.kind.field? key = some shape)
    (others : ∀ other, other ≠ key → a.member? other = b.member? other)
    (before : a.member? key = some given) (after : b.member? key = some changed)
    (inside : shape.Differ s place given changed) (follows : Follows s shape place given changed) :
    Agree (Retold s type (.field key :: place)) (type.convert a) (type.convert b) := by
  by_cases taken : ∃ field ∈ type.fields, field.key = key
  · obtain ⟨⟨name, rule, value⟩, member, here⟩ := taken
    obtain rfl : name = key := here
    obtain ⟨fitting, known, fits⟩ := type.fits _ member
    obtain rfl : fitting = shape := Option.some.inj (known.symm.trans field)
    cases rule with
    | record inner =>
      have record : fitting.recordKind? = some inner.kind := by
        rcases fits with rfl | rfl <;> rfl
      have related : Agree (fun x y => ∃ p q, x = some p ∧ y = some q ∧ Retold s inner place p q)
          ((Rule.record inner).convert name (a.member? name))
          ((Rule.record inner).convert name (b.member? name)) := by
        rw [before, after]
        exact (follows.record inner record).map fun p q retold => ⟨p, q, rfl, rfl, retold⟩
      refine agree_of_changed member others related ?_ ?_
      · rintro x y ⟨p, q, valueX, valueY, retold⟩ part other
        cases field_unique other member rfl
        have uuid : Drive.uuid p = Drive.uuid q := retold.text_eq List.mem_cons_self
        rw [valueX, valueY]
        exact uuid
      · rintro x y others ⟨p, q, valueX, valueY, retold⟩
        exact .record member others valueX valueY retold
    | records inner =>
      have related : Agree (RetoldItem s inner place)
          ((Rule.records inner).convert name (a.member? name))
          ((Rule.records inner).convert name (b.member? name)) := by
        rw [before, after]
        rcases fits with rfl | rfl <;> exact follows.records inner _ rfl rfl name
      refine agree_of_changed member others related ?_ ?_
      · exact fun _ _ _ _ other => nomatch field_unique other member rfl
      · rintro x y others ⟨front, p, q, back, rest, rfl, valueX, valueY, retold⟩
        exact .item front back member others valueX valueY retold
    | table inner =>
      have related : Agree (RetoldEntry s inner place)
          ((Rule.table inner).convert name (a.member? name))
          ((Rule.table inner).convert name (b.member? name)) := by
        rw [before, after]
        exact follows.table inner fits name
      refine agree_of_changed member others related ?_ ?_
      · exact fun _ _ _ _ other => nomatch field_unique other member rfl
      · rintro x y others ⟨front, _, p, q, back, rest, rfl, valueX, valueY, retold⟩
        exact .entry front back member others valueX valueY retold
    -- No rule for plain values is for a shape that holds records.
    | text | flag | decimal | token | variant | instant | magnitude | integer | bootOrder
    | address | port | texts | metadata =>
      cases fits
      cases inside.holdsRecords
  · exact agree_of_unread others fun field member here => taken ⟨field, member, here⟩

end ResourceType

/-- Of canonical values that differ in a token the decoders make the same fault, or
resources that differ in the part of the token. -/
theorem follows_of_differ {s : String} {shape : Shape} {place : Place} {a b : Json}
    (differ : shape.Differ s place a b) : Follows s shape place a b := by
  induction differ with
  | @token outer kind key old a b holds token others before after =>
    refine ⟨fun type found => ?_, ?_, ?_⟩
    · obtain rfl : kind = type.kind := Option.some.inj (holds.symm.trans found)
      exact ResourceType.agree_of_token token others before after
    · rintro type item rfl
      cases holds
    · rintro type rfl
      cases holds
  | @member outer shape kind key place a b x y holds field others before after inside follows =>
    refine ⟨fun type found => ?_, ?_, ?_⟩
    · obtain rfl : kind = type.kind := Option.some.inj (holds.symm.trans found)
      exact ResourceType.agree_of_member field others before after inside follows
    · rintro type item rfl
      cases holds
    · rintro type rfl
      cases holds
  | item front back inside follows =>
    refine ⟨fun type found => (nomatch found), ?_, fun type found => (nomatch found)⟩
    rintro type item same found key
    cases same
    refine ((follows.record type found).mapM front back).imp ?_
    rintro _ _ ⟨before, x, y, after, length, rfl, rfl, retold⟩
    exact ⟨before, x, y, after, _, by rw [length], rfl, rfl, retold⟩
  | @entry kind place name a b front back inside follows =>
    refine ⟨fun type found => (nomatch found), fun type item found => (nomatch found), ?_⟩
    rintro type found key
    cases found
    refine (Agree.mapM_values type.convert (follows.record type rfl) name front back).map ?_
    rintro _ _ ⟨before, x, y, after, rfl, rfl, retold⟩
    exact ⟨before, name, x, y, after, place, rfl, rfl, rfl, retold⟩

end CloudInventory
