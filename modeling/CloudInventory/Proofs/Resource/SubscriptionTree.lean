import CloudInventory.Proofs.Resource.Evaluations
import CloudInventory.Proofs.Resource.ReferenceFields
import CloudInventory.Proofs.Schema.CanonicalForms
import CloudInventory.Proofs.Schema.Tokens
import Mathlib.Algebra.GroupWithZero.Nat

/-!
# Trees of subscriptions

A subscription is sent with references to the ones that renew it: bare identifiers, and records
with references of their own, to any depth. Decoding makes one subscription of each reference
and leaves all of them where they stand. A tree is as good as its nodes. The amount of a node is
evaluated before anything below it, and its times and what remains of it are evaluated last, so
the fault that is reported need not be the one nearest to the root.

Results:
1. `Subscription.induction_of_convert`: what a node has if its children have it, a tree has.
2. `Subscription.ids_of_convert`, `Subscription.treeSize_of_convert` and
   `Subscription.rel_at?_of_convert`: the identifiers, the size and the places in a tree.
3. `Subscription.check_decode` and `Subscription.check_convertReference`: the order of faults in
   one node and in a tree.
4. `Subscription.tree_exact`: all of it.
-/

namespace CloudInventory

/-! ## Sent trees -/

/-- What a value gives for a field is smaller than the value. -/
theorem RecordKind.sizeOf_given?_lt {kind : RecordKind} {json given : Json} {key : String}
    (found : kind.given? json key = some given) : sizeOf given < sizeOf json := by
  have member := List.mem_of_mem_filter (Json.mem_of_lookup found)
  cases json with
  | object members => exact Json.sizeOf_lt_of_mem_members member
  | array items => exact Json.sizeOf_lt_of_mem_items (List.of_mem_zip member).2
  | null | bool | number | string => exact absurd member List.not_mem_nil

namespace Subscription

/-- The references to descendants that a subscription is sent with. A bare identifier comes
without any. -/
def references (json : Json) : List Json :=
  ((RecordKind.subscription.given? json "descendants").map Json.items).getD []

theorem sizeOf_lt_of_mem_references {json reference : Json}
    (member : reference ∈ references json) : sizeOf reference < sizeOf json := by
  unfold references at member
  cases given : RecordKind.subscription.given? json "descendants" with
  | none =>
    rw [given] at member
    cases member
  | some list =>
    rw [given] at member
    cases list with
    | array items =>
      exact Nat.lt_trans (Json.sizeOf_lt_of_mem_items member) (RecordKind.sizeOf_given?_lt given)
    | null | bool | number | string | object => cases member

/-- The identifier that a reference is sent with, a number in decimal. -/
def sentId? (json : Json) : Option String :=
  (bareIdentifier? json).or
    (((RecordKind.subscription.given? json "id").bind Scalar.ofJson?).map Scalar.plainText)

/-- The identifiers of a sent tree, each in front of those below it. -/
def sentIds (json : Json) : List (Option String) :=
  sentId? json :: (references json).attach.flatMap fun ⟨reference, _⟩ => sentIds reference
  termination_by sizeOf json
  decreasing_by exact sizeOf_lt_of_mem_references (by assumption)

theorem sentIds_eq (json : Json) :
    sentIds json = sentId? json :: (references json).flatMap sentIds := by
  rw [sentIds]
  conv_rhs => rw [← List.attach_map_subtype_val (references json), List.flatMap_map]

/-- The number of references in a sent tree, all the way down. -/
def referenceCount (json : Json) : Nat :=
  ((references json).attach.map fun ⟨reference, _⟩ => 1 + referenceCount reference).sum
  termination_by sizeOf json
  decreasing_by exact sizeOf_lt_of_mem_references (by assumption)

theorem referenceCount_eq (json : Json) :
    referenceCount json =
      ((references json).map fun reference => 1 + referenceCount reference).sum := by
  rw [referenceCount]
  conv_rhs => rw [← List.attach_map_subtype_val (references json), List.map_map]
  rfl

/-- The reference at the end of a path, a list of places among siblings. -/
def referenceAt? (json : Json) : List Nat → Option Json
  | [] => some json
  | i :: path => (references json)[i]?.bind (referenceAt? · path)

/-! ## Trees -/

mutual

/-- The identifiers of a tree, each in front of those below it. -/
def ids : Subscription → List (Option String)
  | ⟨id, _, _, _, _, descendants, _, _, _, _, _, _, _, _, _, _, _⟩ => id :: idsOfAll descendants

/-- The identifiers of the trees of a list. -/
def idsOfAll : List Subscription → List (Option String)
  | [] => []
  | x :: xs => ids x ++ idsOfAll xs

end

theorem idsOfAll_eq (xs : List Subscription) : idsOfAll xs = xs.flatMap ids := by
  induction xs with
  | nil => rfl
  | cons x xs ih => rw [idsOfAll, ih, List.flatMap_cons]

theorem ids_eq (x : Subscription) : x.ids = x.id :: x.descendants.flatMap ids := by
  cases x
  rw [ids, idsOfAll_eq]

theorem treeSizes_eq (xs : List Subscription) : treeSizes xs = (xs.map treeSize).sum := by
  induction xs with
  | nil => rfl
  | cons x xs ih => rw [treeSizes, ih, List.map_cons, List.sum_cons]

theorem treeSize_eq (x : Subscription) : x.treeSize = 1 + (x.descendants.map treeSize).sum := by
  cases x
  rw [treeSize, treeSizes_eq]

/-- The subscription at the end of a path. -/
def at? (x : Subscription) : List Nat → Option Subscription
  | [] => some x
  | i :: path => x.descendants[i]?.bind (·.at? path)

/-! ## One node -/

variable {json : Json} {x : Subscription}

theorem id_of_decode (decoded : Resource.decode json = .ok x) :
    x.id = ((RecordKind.subscription.given? json "id").bind Scalar.ofJson?).map
      Scalar.plainText := by
  obtain ⟨record, read, made⟩ := Resource.decode_eq_ok_iff.1 decoded
  change ofRecord record = .ok x at made
  rw [ofRecord] at made
  simp only [bind_eq_ok_iff] at made
  obtain ⟨_, -, _, -, _, -, _, -, _, -, _, -, made⟩ := made
  cases made
  rw [Json.decimalField, Json.scalarField, RecordKind.member?_eq_given? read rfl (.inr rfl)]
  rfl

/-- A record is no bare identifier. -/
theorem bareIdentifier?_of_decode (decoded : Resource.decode json = .ok x) :
    bareIdentifier? json = none := by
  obtain ⟨record, read, -⟩ := Resource.decode_eq_ok_iff.1 decoded
  cases json with
  | null | bool | array | object => rfl
  | number | string =>
    rw [RecordKind.read, Shape.read] at read
    · cases read
    all_goals exact fun _ => Json.noConfusion

/-- A bare identifier gives no fields. -/
theorem given?_of_bare {id : String} (bare : bareIdentifier? json = some id) (key : String) :
    RecordKind.subscription.given? json key = none := by
  cases json with
  | number | string => rfl
  | null | bool | array | object => cases bare

theorem references_of_bare {id : String} (bare : bareIdentifier? json = some id) :
    references json = [] := by
  rw [references, given?_of_bare bare]
  rfl

/-- A node has the identifier that was sent, and one child for each reference, in order. -/
theorem node_of_convert (converted : convertReference json = .ok x) :
    x.id = sentId? json ∧
      List.Forall₂ (fun reference y => convertReference reference = .ok y) (references json)
        x.descendants := by
  rcases convertReference_eq_ok_iff.1 converted with ⟨id, bare, rfl⟩ | ⟨record, decoded⟩
  · rw [sentId?, bare, references_of_bare bare]
    exact ⟨rfl, .nil⟩
  · refine ⟨?_, mapM_eq_ok_iff.1 (references_of_decode decoded)⟩
    rw [sentId?, record, Option.none_or, id_of_decode decoded]

/-- What every node has if its children have it, the whole tree has. -/
theorem induction_of_convert {motive : Json → Subscription → Prop}
    (node : ∀ json x, x.id = sentId? json →
      List.Forall₂ motive (references json) x.descendants → motive json x)
    {json : Json} {x : Subscription} (converted : convertReference json = .ok x) :
    motive json x := by
  obtain ⟨id, descendants⟩ := node_of_convert converted
  refine node json x id ?_
  have smaller : ∀ reference ∈ references json, sizeOf reference < sizeOf json :=
    fun _ => sizeOf_lt_of_mem_references
  refine ((List.forall₂_and_left _ _).2 ⟨smaller, descendants⟩).imp ?_
  rintro reference y ⟨isSmaller, converted⟩
  exact induction_of_convert node converted
  termination_by sizeOf json

/-! ## The whole tree -/

theorem map_eq_map_of_forall₂ {α β γ : Type} {f : β → γ} {g : α → γ} {items : List α}
    {values : List β} (same : List.Forall₂ (fun item value => f value = g item) items values) :
    values.map f = items.map g := by
  induction same with
  | nil => rfl
  | cons here _ ih => rw [List.map_cons, List.map_cons, here, ih]

theorem ids_of_convert (converted : convertReference json = .ok x) : x.ids = sentIds json := by
  refine induction_of_convert (motive := fun json x => x.ids = sentIds json) ?_ converted
  intro json x id descendants
  rw [ids_eq, sentIds_eq, id, List.flatMap_def, List.flatMap_def,
    map_eq_map_of_forall₂ descendants]

theorem treeSize_of_convert (converted : convertReference json = .ok x) :
    x.treeSize = 1 + referenceCount json := by
  refine induction_of_convert (motive := fun json x => x.treeSize = 1 + referenceCount json) ?_
    converted
  intro json x _ descendants
  rw [treeSize_eq, referenceCount_eq, map_eq_map_of_forall₂ descendants]

/-- Paths lead to references and to what these are converted to. -/
theorem rel_at?_of_convert (converted : convertReference json = .ok x) (path : List Nat) :
    Option.Rel (fun reference y => convertReference reference = .ok y) (referenceAt? json path)
      (x.at? path) := by
  induction path generalizing json x with
  | nil => exact .some converted
  | cons i path ih =>
    rw [referenceAt?, at?]
    have child := rel_getElem?_of_forall₂ (node_of_convert converted).2 i
    generalize (references json)[i]? = reference at child ⊢
    generalize x.descendants[i]? = y at child ⊢
    cases child with
    | none => exact .none
    | some converted => exact ih converted

/-! ## Faults -/

/-- The scalar that is sent in a field. -/
def sentScalar? (json : Json) (key : String) : Option Scalar :=
  (RecordKind.subscription.given? json key).bind Scalar.ofJson?

/-- The text that is sent in a field. -/
def sentText? (json : Json) (key : String) : Option String :=
  (RecordKind.subscription.given? json key).bind Json.text?

/-- What is evaluated of a subscription before its descendants. -/
def firstEvaluations (json : Json) : List Evaluation :=
  (sentScalar? json "amount").toList.map .magnitude

/-- What is evaluated of a subscription after its descendants. -/
def lastEvaluations (json : Json) : List Evaluation :=
  (sentText? json "start_time").toList.map .instant ++
    ((sentText? json "end_time").toList.map .instant ++
      ((sentText? json "last_notification").toList.map .instant ++
        (sentScalar? json "remaining").toList.map .magnitude))

/-- What is evaluated of a whole tree, in order. -/
def evaluations (json : Json) : List Evaluation :=
  firstEvaluations json ++
    ((references json).attach.flatMap (fun ⟨reference, _⟩ => evaluations reference) ++
      lastEvaluations json)
  termination_by sizeOf json
  decreasing_by exact sizeOf_lt_of_mem_references (by assumption)

theorem evaluations_eq (json : Json) :
    evaluations json =
      firstEvaluations json ++ ((references json).flatMap evaluations ++ lastEvaluations json) := by
  rw [evaluations]
  conv_rhs => rw [← List.attach_map_subtype_val (references json), List.flatMap_map]

theorem evaluations_of_bare {id : String} (bare : bareIdentifier? json = some id) :
    evaluations json = [] := by
  simp only [evaluations_eq, firstEvaluations, lastEvaluations, sentScalar?, sentText?,
    references_of_bare bare, given?_of_bare bare]
  rfl

section

variable {record : Json} (read : RecordKind.subscription.read json = .ok record)

include read

/-- A scalar is in the canonical record as it was sent. -/
theorem scalarField_eq_sentScalar? {key : String}
    (field : RecordKind.subscription.field? key = some .scalar) :
    (record.member? key).bind Scalar.ofJson? = sentScalar? json key := by
  rw [RecordKind.member?_eq_given? read field (.inr rfl), sentScalar?]

/-- So is a text. -/
theorem textField_eq_sentText? {key : String}
    (field : RecordKind.subscription.field? key = some .text) :
    (record.member? key).bind Json.text? = sentText? json key := by
  rw [RecordKind.member?_eq_given? read field (.inl rfl), sentText?]

theorem mapM_children_eq_mapM_references :
    ((((record.member? "descendants").map Json.items).getD []).mapM
        ResourceType.subscription.convert : Except DecodeError (List Subscription)) =
      (references json).mapM convertReference :=
  recordsField_eq_convertReference read rfl

/-- The amount comes first, then the descendants in order, and then the rest. -/
theorem check_decode :
    check (Resource.decode json : Except DecodeError Subscription) =
      forM (firstEvaluations json) Evaluation.outcome >>= fun _ =>
        check ((references json).mapM convertReference : Except DecodeError (List Subscription)) >>=
          fun _ => forM (lastEvaluations json) Evaluation.outcome := by
  have decoded : (Resource.decode json : Except DecodeError Subscription) =
      ResourceType.subscription.convert record := Resource.decode_of_read read
  have unset {α : Type} (a : α) : check (pure a : Except DecodeError α) = pure () := rfl
  have magnitude (s : Option Scalar) : check (s.mapM Magnitude.ofScalar) =
      forM (s.toList.map .magnitude) Evaluation.outcome := check_mapM_scalar (fun _ => rfl) s
  have instant (s : Option String) : check (s.mapM Instant.decode) =
      forM (s.toList.map .instant) Evaluation.outcome := check_mapM_scalar (fun _ => rfl) s
  rw [decoded, ResourceType.check_convert]
  -- Of the fields of the table six can fail, and these are evaluated in its order.
  simp only [ResourceType.fields, ResourceType.subscriptionFields, List.forM_cons, List.forM_nil,
    Field.convert, Rule.convert, unset, pure_bind, bind_pure_unit,
    mapM_children_eq_mapM_references read, firstEvaluations, lastEvaluations, List.forM_append,
    ← magnitude, ← instant]
  rw [scalarField_eq_sentScalar? read rfl, scalarField_eq_sentScalar? read rfl,
    textField_eq_sentText? read rfl, textField_eq_sentText? read rfl,
    textField_eq_sentText? read rfl]

/-- The references of a subscription that fits the schema fit it too. -/
theorem read_of_mem_references {reference : Json} (member : reference ∈ references json) :
    ∃ canonical, (Shape.reference .subscription).read reference = .ok canonical := by
  have field : RecordKind.subscription.field? "descendants" =
      some (.list (.reference .subscription)) := rfl
  unfold references at member
  rcases Shape.readGiven_eq_ok_iff.1 (RecordKind.readGiven_member? read field) with
    ⟨absent, -⟩ | ⟨given, value, present, -, readList⟩
  · rw [absent] at member
    cases member
  · rw [present] at member
    cases given with
    | array items =>
      rw [Shape.read, Shape.readItems_eq_mapM, map_eq_ok_iff] at readList
      obtain ⟨values, readItems, -⟩ := readList
      have each := check_eq_ok_iff.2 ⟨values, readItems⟩
      rw [check_mapM, forM_eq_ok_iff] at each
      exact check_eq_ok_iff.1 (each reference member)
    | null | bool | number | string | object => cases member

/-- A subscription that fits the schema fails at its amount, or else at the first reference
that does, or else at what is left of it. -/
theorem decode_eq_error_iff {fault : DecodeError} :
    (Resource.decode json : Except DecodeError Subscription) = .error fault ↔
      (∃ i, FailsAt Evaluation.outcome (firstEvaluations json) i fault) ∨
        (∀ evaluation ∈ firstEvaluations json, evaluation.outcome = .ok ()) ∧
          ((∃ i, FailsAt (convertReference (α := Subscription)) (references json) i fault) ∨
            (∃ xs : List Subscription, (references json).mapM convertReference = .ok xs) ∧
              ∃ i, FailsAt Evaluation.outcome (lastEvaluations json) i fault) := by
  have unit {p : Unit → Prop} : (∃ a, p a) ↔ p () :=
    ⟨fun ⟨(), holds⟩ => holds, fun holds => ⟨(), holds⟩⟩
  rw [← check_eq_error_iff, check_decode read]
  simp only [bind_eq_error_iff, unit, check_eq_error_iff, check_eq_ok_iff, mapM_eq_error_iff,
    forM_eq_error_iff, forM_eq_ok_iff]

end

/-- A reference that fits the schema has the first fault of its tree. -/
theorem check_convertReference {json canonical : Json}
    (fits : (Shape.reference .subscription).read json = .ok canonical) :
    check (convertReference json : Except DecodeError Subscription) =
      forM (evaluations json) Evaluation.outcome := by
  cases bare : bareIdentifier? json with
  | some id =>
    have converted : convertReference json = .ok (withId id) :=
      convertReference_eq_ok_iff.2 (.inl ⟨id, bare, rfl⟩)
    rw [converted, evaluations_of_bare bare]
    rfl
  | none =>
    have noScalar : Scalar.ofJson? json = none := Option.map_eq_none_iff.1 bare
    have read := Shape.read_record_of_ofJson?_eq_none noScalar fits
    have same : (convertReference json : Except DecodeError Subscription) =
        Resource.decode json :=
      (convertReference_of_read fits).trans (Resource.decode_of_read read).symm
    have below : (forM (references json) fun reference =>
          check (convertReference reference : Except DecodeError Subscription)) =
        forM (references json) fun reference => forM (evaluations reference) Evaluation.outcome :=
      forM_congr fun reference member => by
        obtain ⟨_, fits⟩ := read_of_mem_references read member
        have smaller := sizeOf_lt_of_mem_references member
        exact check_convertReference fits
    rw [same, check_decode read, check_mapM, below, evaluations_eq, List.forM_append,
      List.forM_append, forM_flatMap]
  termination_by sizeOf json

/-! ## Malformed nodes -/

/-- What is sent as the amount or as what remains is no magnitude, or what is sent as a time
is none. -/
def IsMalformed (json : Json) : Prop :=
  (∃ key ∈ ["amount", "remaining"], ∃ given,
    RecordKind.subscription.given? json key = some given ∧
      ∀ s value, Scalar.ofJson? given = some s → Magnitude.ofScalar s ≠ .ok value) ∨
  ∃ key ∈ ["start_time", "end_time", "last_notification"], ∃ given,
    RecordKind.subscription.given? json key = some given ∧
      ∀ text value, given.text? = some text → Instant.decode text ≠ .ok value

/-- Everything that is evaluated of a decoded subscription itself has a value. -/
theorem outcome_of_decode (decoded : Resource.decode json = .ok x) :
    ∀ evaluation ∈ firstEvaluations json ++ lastEvaluations json, evaluation.outcome = .ok () := by
  obtain ⟨record, read, -⟩ := Resource.decode_eq_ok_iff.1 decoded
  have checked := check_eq_ok_iff.2 ⟨x, decoded⟩
  rw [check_decode read] at checked
  obtain ⟨_, first, checked⟩ := bind_eq_ok_iff.1 checked
  obtain ⟨_, -, last⟩ := bind_eq_ok_iff.1 checked
  exact List.forall_mem_append.2 ⟨forM_eq_ok_iff.1 first, forM_eq_ok_iff.1 last⟩

/-- So it is not malformed, and nor is a bare identifier. -/
theorem not_isMalformed_of_convert (converted : convertReference json = .ok x) :
    ¬ IsMalformed json := by
  rcases convertReference_eq_ok_iff.1 converted with ⟨id, bare, -⟩ | ⟨-, decoded⟩
  · simp only [IsMalformed, given?_of_bare bare]
    rintro (⟨_, -, _, absent, -⟩ | ⟨_, -, _, absent, -⟩) <;> cases absent
  obtain ⟨record, read, -⟩ := Resource.decode_eq_ok_iff.1 decoded
  rintro (⟨key, isKey, given, present, noValue⟩ | ⟨key, isKey, given, present, noValue⟩) <;>
    simp only [List.mem_cons, List.not_mem_nil, or_false] at isKey
  · have field : RecordKind.subscription.field? key = some .scalar := by
      rcases isKey with rfl | rfl <;> rfl
    obtain ⟨_, fits⟩ := RecordKind.exists_read_of_given? read field present
    obtain ⟨s, isScalar⟩ : ∃ s, Scalar.ofJson? given = some s := by
      cases given <;> simp [Shape.read] at fits <;> exact ⟨_, rfl⟩
    have sent : sentScalar? json key = some s := by
      rw [sentScalar?, present, Option.bind_some, isScalar]
    have evaluated : .magnitude s ∈ firstEvaluations json ++ lastEvaluations json := by
      rcases isKey with rfl | rfl <;> simp [firstEvaluations, lastEvaluations, sent]
    obtain ⟨value, has⟩ := check_eq_ok_iff.1 (outcome_of_decode decoded _ evaluated)
    exact noValue s value isScalar has
  · have field : RecordKind.subscription.field? key = some .text := by
      rcases isKey with rfl | rfl | rfl <;> rfl
    obtain ⟨_, fits⟩ := RecordKind.exists_read_of_given? read field present
    obtain ⟨text, isText⟩ : ∃ text, given.text? = some text := by
      cases given <;> simp [Shape.read] at fits
      exact ⟨_, rfl⟩
    have sent : sentText? json key = some text := by
      rw [sentText?, present, Option.bind_some, isText]
    have evaluated : .instant text ∈ firstEvaluations json ++ lastEvaluations json := by
      rcases isKey with rfl | rfl | rfl <;> simp [firstEvaluations, lastEvaluations, sent]
    obtain ⟨value, has⟩ := check_eq_ok_iff.1 (outcome_of_decode decoded _ evaluated)
    exact noValue text value isText has

/-! ## Trees -/

/-- The reference became the subscription: a bare identifier the leaf that carries nothing
else, a record what it is decoded to, with a child for each of its references. -/
structure Becomes (reference : Json) (x : Subscription) : Prop where
  id : x.id = sentId? reference
  children : x.descendants.length = (references reference).length
  bare : ∀ id, bareIdentifier? reference = some id → x = withId id
  record : bareIdentifier? reference = none → Resource.decode reference = .ok x

theorem becomes_of_convert (converted : convertReference json = .ok x) : Becomes json x := by
  obtain ⟨id, descendants⟩ := node_of_convert converted
  refine ⟨id, descendants.length_eq.symm, ?_, ?_⟩ <;>
    rcases convertReference_eq_ok_iff.1 converted with ⟨id, bare, rfl⟩ | ⟨record, decoded⟩
  · rintro other same
    cases bare.symm.trans same
    rfl
  · rintro other same
    cases record.symm.trans same
  · intro absent
    cases bare.symm.trans absent
  · exact fun _ => decoded

/-- A tree that is decoded keeps its shape: every path leads to a reference and to what it
became, or to neither. The identifiers are those that were sent, in the same order, and the
size counts the references and the root. A malformed node fails the tree, however deep it
stands. The fault of a tree that fits the schema is the first of its evaluations: the amount of
a node comes before its descendants, and these before its times and what remains of it. -/
theorem tree_exact (json : Json) :
    (∀ x : Subscription, Resource.decode json = .ok x →
      (∀ path, Option.Rel Becomes (referenceAt? json path) (x.at? path)) ∧
      x.ids = sentIds json ∧ x.treeSize = 1 + referenceCount json) ∧
    (∀ path node, referenceAt? json path = some node → IsMalformed node →
      ∃ fault, (Resource.decode json : Except DecodeError Subscription) = .error fault) ∧
    ∀ record, RecordKind.subscription.read json = .ok record → ∀ fault,
      ((Resource.decode json : Except DecodeError Subscription) = .error fault ↔
        ∃ i, FailsAt Evaluation.outcome (evaluations json) i fault) ∧
      ((Resource.decode json : Except DecodeError Subscription) = .error fault ↔
        (∃ i, FailsAt Evaluation.outcome (firstEvaluations json) i fault) ∨
          (∀ evaluation ∈ firstEvaluations json, evaluation.outcome = .ok ()) ∧
            ((∃ i, FailsAt (convertReference (α := Subscription)) (references json) i fault) ∨
              (∃ xs : List Subscription, (references json).mapM convertReference = .ok xs) ∧
                ∃ i, FailsAt Evaluation.outcome (lastEvaluations json) i fault)) := by
  have root {x : Subscription} (decoded : Resource.decode json = .ok x) :
      convertReference json = .ok x :=
    convertReference_eq_ok_iff.2 (.inr ⟨bareIdentifier?_of_decode decoded, decoded⟩)
  refine ⟨fun x decoded => ⟨fun path => ?_, ids_of_convert (root decoded),
    treeSize_of_convert (root decoded)⟩, fun path node reached malformed => ?_,
    fun record read fault => ⟨?_, decode_eq_error_iff read⟩⟩
  · have there := rel_at?_of_convert (root decoded) path
    generalize referenceAt? json path = reference at there ⊢
    generalize x.at? path = y at there ⊢
    cases there with
    | none => exact .none
    | some converted => exact .some (becomes_of_convert converted)
  · cases decoded : (Resource.decode json : Except DecodeError Subscription) with
    | error fault => exact ⟨fault, rfl⟩
    | ok x =>
      have there := rel_at?_of_convert (root decoded) path
      rw [reached] at there
      generalize x.at? path = y at there
      cases there with
      | some converted => exact absurd malformed (not_isMalformed_of_convert converted)
  · have fits := Shape.read_reference_of_read_record read
    have same : (Resource.decode json : Except DecodeError Subscription) =
        convertReference json :=
      (Resource.decode_of_read read).trans (convertReference_of_read fits).symm
    rw [same, ← check_eq_error_iff, check_convertReference fits, forM_eq_error_iff]

/-! ## A renewed subscription -/

namespace SubscriptionTreeExamples

/-- The last of the renewals. -/
def last (amount : String) : Json :=
  .object [("amount", .string amount), ("id", .string "9")]

/-- A renewal without an identifier, and two below it. -/
def middle (amount : String) : Json :=
  .object [("descendants", .array [.string "8", last amount]), ("uuid", .string "u")]

/-- A subscription with two renewals, one of them a bare number. -/
def renewed (amount start : String) : Json :=
  .object [
    ("amount", .string "10"),
    ("descendants", .array [.number (.integer 7 (by decide)), middle amount]),
    ("id", .number (.integer 1 (by decide))),
    ("start_time", .string start)]

theorem references_renewed (amount start : String) :
    references (renewed amount start) = [.number (.integer 7 (by decide)), middle amount] := rfl

theorem references_middle (amount : String) :
    references (middle amount) = [.string "8", last amount] := rfl

theorem references_last (amount : String) : references (last amount) = [] := rfl

theorem evaluations_renewed (amount start : String) :
    evaluations (renewed amount start) =
      [.magnitude (.text "10"), .magnitude (.text amount), .instant start] := by
  have bare (json : Json) (id : String) (same : bareIdentifier? json = some id) :
    evaluations json = [] := evaluations_of_bare same
  rw [evaluations_eq, references_renewed, List.flatMap_cons, bare _ "7" rfl, List.flatMap_singleton,
    evaluations_eq, references_middle, List.flatMap_cons, bare _ "8" rfl, List.flatMap_singleton,
    evaluations_eq, references_last]
  rfl

theorem sentIds_renewed (amount start : String) :
    sentIds (renewed amount start) = [some "1", some "7", none, some "8", some "9"] := by
  have leaf (json : Json) (none : references json = []) : sentIds json = [sentId? json] := by
    rw [sentIds_eq, none, List.flatMap_nil]
  rw [sentIds_eq, references_renewed, List.flatMap_cons, leaf _ rfl, List.flatMap_singleton,
    sentIds_eq, references_middle, List.flatMap_cons, leaf _ rfl, List.flatMap_singleton,
    leaf _ rfl]
  rfl

theorem referenceCount_renewed (amount start : String) :
    referenceCount (renewed amount start) = 4 := by
  have leaf (json : Json) (none : references json = []) : referenceCount json = 0 := by
    rw [referenceCount_eq, none, List.map_nil, List.sum_nil]
  rw [referenceCount_eq, references_renewed, List.map_cons, List.map_singleton, leaf _ rfl,
    referenceCount_eq, references_middle, List.map_cons, List.map_singleton, leaf _ rfl,
    leaf _ rfl]
  rfl

end SubscriptionTreeExamples

open SubscriptionTreeExamples in
/-- Five subscriptions come out in the order in which they were sent, one of them a leaf and
one without an identifier. A time that is none fails them all, but an amount that is none is
reported before it, though it stands two levels below. -/
theorem tree_exact_renewed :
    (∃ x : Subscription, Resource.decode (renewed "3" "2020-01-02T03:04:05+00:00") = .ok x ∧
      x.ids = [some "1", some "7", none, some "8", some "9"] ∧ x.treeSize = 5 ∧
      x.at? [1, 0] = some (withId "8")) ∧
    (∃ fault, (Resource.decode (renewed "3" "never") : Except DecodeError Subscription) =
      .error fault) ∧
    (Resource.decode (renewed "-1" "never") : Except DecodeError Subscription) =
      .error (.magnitude "-1") := by
  have read (amount start : String) :
      ∃ record, RecordKind.subscription.read (renewed amount start) = .ok record := ⟨_, rfl⟩
  refine ⟨?_, ?_, ?_⟩
  · obtain ⟨record, fits⟩ := read "3" "2020-01-02T03:04:05+00:00"
    obtain ⟨keeps, -, faults⟩ := tree_exact (renewed "3" "2020-01-02T03:04:05+00:00")
    cases decoded : (Resource.decode (renewed "3" "2020-01-02T03:04:05+00:00") :
        Except DecodeError Subscription) with
    | error fault =>
      have failed := (faults record fits fault).1.1 decoded
      rw [evaluations_renewed, ← forM_eq_error_iff] at failed
      cases failed
    | ok x =>
      obtain ⟨paths, ids, size⟩ := keeps x decoded
      refine ⟨x, rfl, ids.trans (sentIds_renewed ..), ?_, ?_⟩
      · rw [size, referenceCount_renewed]
      · have there := paths [1, 0]
        have bare : referenceAt? (renewed "3" "2020-01-02T03:04:05+00:00") [1, 0] =
          some (.string "8") := rfl
        rw [bare] at there
        generalize x.at? [1, 0] = y at there ⊢
        cases there with
        | some becomes => rw [becomes.bare "8" rfl]
  · refine (tree_exact _).2.1 [] _ rfl (.inr ⟨"start_time", by decide, .string "never", rfl, ?_⟩)
    rintro text value ⟨⟩
    have none : Instant.decode "never" = .error (.timestamp "never" _) := rfl
    rw [none]
    nofun
  · obtain ⟨record, fits⟩ := read "-1" "never"
    refine ((tree_exact _).2.2 record fits _).1.2 ?_
    rw [evaluations_renewed, ← forM_eq_error_iff]
    rfl

end Subscription

end CloudInventory
