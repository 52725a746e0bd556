import CloudInventory.Proofs.Resource.FieldLaws

/-!
# What a decoder evaluates

A decoder can only fail at a scalar that has no value: a time stamp, a magnitude, a bounded
integer, an address or a port. The scalars that it comes to, in the record and in the
records inside, are listed in its order of evaluation.

Results:
1. `Rule.check_convert`: what one field can fail at.
2. `ResourceType.check_evaluations`: a decoder has the first fault of its evaluations.
-/

namespace CloudInventory

/-! ## Evaluations -/

/-- A scalar that a decoder evaluates and that may have no value. -/
inductive Evaluation where
  | instant (text : String)
  | magnitude (scalar : Scalar)
  | integer (type : IntegerType) (key : String) (scalar : Scalar)
  | address (text : String)
  | port (scalar : Scalar)

/-- Whether the scalar has a value, on its own. -/
def Evaluation.outcome : Evaluation → Except DecodeError Unit
  | instant text => check (Instant.decode text)
  | magnitude scalar => check (Magnitude.ofScalar scalar)
  | integer type key scalar => check (scalar.toBounded type.Value key)
  | address text => check (AddressMatch.parse text)
  | port scalar => check (PortRange.decode (some scalar))

/-- The records of a table inside a record. -/
def Json.rows (record : Json) (key : String) :
    List { json : Json // sizeOf json < sizeOf record } :=
  match record.child? key with
  | some ⟨.object members, smaller⟩ =>
    members.attach.map fun ⟨(_, json), member⟩ =>
      ⟨json, Nat.lt_trans (sizeOf_lt_of_mem_members member) smaller⟩
  | _ => []

namespace Rule

/-- What is evaluated of a field itself. -/
def evaluations (key : String) : Rule → Option Json → List Evaluation
  | instant, json => (json.bind Json.text?).toList.map .instant
  | magnitude, json => (json.bind Scalar.ofJson?).toList.map .magnitude
  | integer type, json => (json.bind Scalar.ofJson?).toList.map (.integer type key)
  | bootOrder, json => (json.bind Scalar.ofJson?).toList.map (.integer .int32 key)
  | address, json => (json.bind Json.text?).toList.map .address
  | port, json => (json.bind Scalar.ofJson?).toList.map .port
  | _, _ => []

/-- The records inside a field, each with the type that it is decoded into. -/
def inside (record : Json) (key : String) :
    Rule → List (ResourceType × { json : Json // sizeOf json < sizeOf record })
  | .record type => (record.child? key).toList.map (type, ·)
  | .records type => (record.children key).map (type, ·)
  | .table type => (record.rows key).map (type, ·)
  | _ => []

end Rule

/-- The scalars that a decoder evaluates, in its order: field by field, and for a record in
a field those of that record. -/
def ResourceType.evaluations (type : ResourceType) (record : Json) : List Evaluation :=
  type.fields.flatMap fun field =>
    field.rule.evaluations field.key (record.member? field.key) ++
      (field.rule.inside record field.key).flatMap fun ⟨inner, json, _⟩ => inner.evaluations json
  termination_by sizeOf record

/-! ## The first fault -/

/-- The rows of a table are the values of its members. -/
theorem Json.map_val_rows (record : Json) (key : String) :
    (record.rows key).map Subtype.val =
      (((record.member? key).map members).getD []).map Prod.snd := by
  rw [← child?_eq, rows]
  rcases record.child? key with _ | ⟨json, smaller⟩
  · rfl
  · cases json with
    | object members =>
      simp only [List.map_map, Option.map_some, Option.getD_some, Json.members]
      conv_rhs => rw [← List.attach_map_subtype_val members, List.map_map]
      rfl
    | null | bool | number | string | array => rfl

/-- The rows of a table are decoded in order. -/
theorem Json.check_rows {α : Type} (decode : Json → Except DecodeError α) (record : Json)
    (key : String) :
    (forM (record.rows key) fun row => check (decode row.1)) =
      check ((((record.member? key).map members).getD []).mapM fun (key, json) =>
        (decode json).map (key, ·)) := by
  have values := congrArg (fun rows => forM rows fun row => check (decode row))
    (record.map_val_rows key)
  simp only [List.forM_map] at values
  rw [values, check_mapM]
  exact forM_congr fun member _ => (check_map _ _).symm

/-- A scalar that may be absent is evaluated if it is there. -/
theorem check_mapM_scalar {α β : Type} {f : α → Except DecodeError β} {evaluate : α → Evaluation}
    (same : ∀ x, check (f x) = (evaluate x).outcome) (scalar : Option α) :
    check (scalar.mapM f) = forM (scalar.toList.map evaluate) Evaluation.outcome := by
  rw [check_option_mapM, List.forM_map]
  exact forM_congr fun x _ => same x

namespace Rule

variable {key : String} {record : Json}

/-- A rule for scalars has the fault of the scalar. -/
theorem check_convert_of_scalar {rule : Rule} (none : rule.inside record key = [])
    (same : check (rule.convert key (record.member? key)) =
      forM (rule.evaluations key (record.member? key)) Evaluation.outcome) :
    check (rule.convert key (record.member? key)) =
      forM (rule.evaluations key (record.member? key)) Evaluation.outcome >>= fun _ =>
        forM (rule.inside record key) fun (type, child) => check (type.convert child.1) := by
  rw [none, List.forM_nil, same]
  exact (bind_pure _).symm

/-- A rule has the first fault of what is evaluated of the field and of the records
inside. -/
theorem check_convert (rule : Rule) (key : String) (record : Json) :
    check (rule.convert key (record.member? key)) =
      forM (rule.evaluations key (record.member? key)) Evaluation.outcome >>= fun _ =>
        forM (rule.inside record key) fun (type, child) => check (type.convert child.1) := by
  cases rule with
  | text | flag | decimal | token | variant | texts | metadata => rfl
  | instant => exact check_convert_of_scalar rfl (check_mapM_scalar (fun _ => rfl) _)
  | magnitude => exact check_convert_of_scalar rfl (check_mapM_scalar (fun _ => rfl) _)
  | integer type => exact check_convert_of_scalar rfl (check_mapM_scalar (fun _ => rfl) _)
  | bootOrder =>
    exact check_convert_of_scalar rfl
      ((check_map _ _).trans (check_mapM_scalar (fun _ => rfl) _))
  | address =>
    refine check_convert_of_scalar rfl ?_
    rw [convert, evaluations]
    cases (record.member? key).bind Json.text? with
    | none => rfl
    | some text => exact (bind_pure _).symm
  | port =>
    refine check_convert_of_scalar rfl ?_
    rw [convert, evaluations]
    cases (record.member? key).bind Scalar.ofJson? with
    | none => rfl
    | some scalar => exact (bind_pure _).symm
  | record type =>
    simp only [evaluations, inside, convert, List.forM_nil, List.forM_map, pure_bind]
    rw [← Json.child?_eq, check_option_mapM, Option.toList_map, List.forM_map]
  | records type =>
    simp only [evaluations, inside, convert, List.forM_nil, List.forM_map, pure_bind]
    rw [← check_mapM, Json.mapM_children]
    rfl
  | table type =>
    simp only [evaluations, inside, convert, List.forM_nil, List.forM_map, pure_bind]
    rw [Json.check_rows]
    exact check_map _ _

end Rule

/-- A decoder has the first fault of its evaluations. -/
theorem ResourceType.check_evaluations (type : ResourceType) (record : Json) :
    check (type.convert record) = forM (type.evaluations record) Evaluation.outcome := by
  rw [check_convert, evaluations, forM_flatMap]
  refine forM_congr fun field _ => ?_
  rw [List.forM_append, forM_flatMap, Field.convert, Rule.check_convert]
  refine bind_congr fun _ => forM_congr ?_
  rintro ⟨inner, json, smaller⟩ -
  exact check_evaluations inner json
  termination_by sizeOf record

end CloudInventory
