import CloudInventory.Proofs.Decode.Sequence
import CloudInventory.Proofs.Envelope.Forms
import CloudInventory.Request.Basic
import CloudInventory.Resource.DriveInfo

/-!
# Lists and single resources

A list of resources is all or nothing: every record of the body is decoded on its own,
in order, and the first faulty record fails the list. The single resource of a body is
decoded from the first record alone, so it does not see the faults behind it.

Results:
1. `Resource.decode_eq_ok_iff` and `Resource.decode_eq_error_iff`: a record passes the
   schema first and its decoder second.
2. `unwrapList_objectsBody_append`: records that are listed together are decoded as in
   two lists, one after the other.
3. `unwrapList_pointwise`: what a list comes to, and what a single resource of the same
   body comes to.
-/

namespace CloudInventory

/-! ## One record -/

namespace Resource

variable {α : Type} [Resource α] {json : Json}

/-- A record is decoded if it fits the schema and its canonical form has a value. -/
theorem decode_eq_ok_iff {value : α} :
    decode json = .ok value ↔
      ∃ record, (Resource.kind α).read json = .ok record ∧ ofRecord record = .ok value := by
  unfold decode
  cases (Resource.kind α).read json with
  | ok record => simp
  | error fault => simp

/-- A record that is not decoded does not fit the schema, or else its canonical form has
no value. -/
theorem decode_eq_error_iff {fault : DecodeError} :
    decode (α := α) json = .error fault ↔
      (∃ misfit, (Resource.kind α).read json = .error misfit ∧ fault = .schema misfit) ∨
        ∃ record, (Resource.kind α).read json = .ok record ∧
          ofRecord (α := α) record = .error fault := by
  unfold decode
  cases (Resource.kind α).read json with
  | ok record => simp
  | error misfit => simp [eq_comm]

end Resource

/-! ## The records of a body -/

/-- The records of a body; none if there is no body. -/
def bodyRecords (body : Option Json) : List Json :=
  (body.map fun json => (Envelope.detect json).records).getD []

section

variable (α : Type) [Resource α]

theorem unwrapList_eq_mapM (body : Option Json) :
    unwrapList α body = (bodyRecords body).mapM Resource.decode := rfl

theorem unwrapSingle_eq_mapM (body : Option Json) :
    unwrapSingle α body = (bodyRecords body).head?.mapM Resource.decode := by
  cases body with
  | none => rfl
  | some json => exact unwrapSingle_eq α json

/-- An object around a list holds the records of the list, also if there are none. -/
theorem bodyRecords_objectsBody (records : List Json) :
    bodyRecords (some (objectsBody records)) = records := by
  cases records with
  | nil => rfl
  | cons first rest => rfl

/-- Records that are listed together are decoded as in two lists, one after the other. -/
theorem unwrapList_objectsBody_append (front back : List Json) :
    unwrapList α (some (objectsBody (front ++ back))) =
      (unwrapList α (some (objectsBody front))).bind fun values =>
        (unwrapList α (some (objectsBody back))).map (values ++ ·) := by
  simp only [unwrapList_eq_mapM, bodyRecords_objectsBody, List.mapM_append]
  rfl

end

/-- A list of resources comes to the values of its records, one by one and in order, if
every record fits the schema and has a value, and else to the fault of the first record
that has one. Two lists put together come to both lists of values. A single resource
comes to the first value of the list; where the list fails it fails only at the first
record, and with the same fault. -/
theorem unwrapList_pointwise (α : Type) [Resource α] :
    (∀ (body : Option Json) (values : List α),
      unwrapList α body = .ok values ↔
        List.Forall₂ (fun json value => ∃ record,
          (Resource.kind α).read json = .ok record ∧ Resource.ofRecord record = .ok value)
          (bodyRecords body) values) ∧
    (∀ (body : Option Json) (fault : DecodeError),
      unwrapList α body = .error fault ↔
        ∃ i, FailsAt (Resource.decode (α := α)) (bodyRecords body) i fault) ∧
    (∀ (front back : List Json) (values others : List α),
      unwrapList α (some (objectsBody front)) = .ok values →
      unwrapList α (some (objectsBody back)) = .ok others →
      unwrapList α (some (objectsBody (front ++ back))) = .ok (values ++ others)) ∧
    (∀ (body : Option Json) (values : List α), unwrapList α body = .ok values →
      unwrapSingle α body = .ok values.head?) ∧
    (∀ (body : Option Json) (i : Nat) (fault : DecodeError),
      FailsAt (Resource.decode (α := α)) (bodyRecords body) i fault →
      ((∃ other, unwrapSingle α body = .error other) ↔ i = 0) ∧
        (i = 0 → unwrapSingle α body = .error fault)) := by
  refine ⟨fun body values => ?_, fun body fault => mapM_eq_error_iff, ?_, ?_, ?_⟩
  · simp only [← Resource.decode_eq_ok_iff]
    exact mapM_eq_ok_iff
  · intro front back values others decoded decodedOthers
    rw [unwrapList_objectsBody_append, decoded, decodedOthers]
    rfl
  · intro body values decoded
    rw [unwrapSingle_eq_mapM]
    exact head?_mapM_of_mapM decoded
  · intro body i fault fails
    rw [unwrapSingle_eq_mapM]
    rcases head?_mapM_of_failsAt fails with ⟨zero, same⟩ | ⟨later, value, decoded⟩
    · exact ⟨⟨fun _ => zero, fun _ => ⟨fault, same⟩⟩, fun _ => same⟩
    · refine ⟨⟨?_, fun zero => absurd zero later⟩, fun zero => absurd zero later⟩
      rintro ⟨other, fails⟩
      rw [decoded] at fails
      cases fails

/-! ## Drives, one of them of no size -/

namespace RecordExamples

/-- A drive with a name. -/
def named : Json :=
  .object [("name", .string "data"), ("uuid", .string "d1")]

/-- A drive whose size is no number; it fits the schema. -/
def unsized : Json :=
  .object [("size", .string "12GB"), ("uuid", .string "d2")]

/-- A record that does not fit the schema. -/
def misfit : Json :=
  .object [("uuid", .bool true)]

/-- What the first record is decoded to. -/
def namedDrive : DriveInfo :=
  { drive := { uuid := some "d1" }, name := some "data" }

end RecordExamples

open RecordExamples in
/-- The second record fails the list, though only the third does not fit the schema; the
first is there for whoever asks for one. Lists without faults are put together. -/
theorem unwrapList_pointwise_drives :
    unwrapList DriveInfo (some (objectsBody [named, unsized, misfit])) =
        .error (.magnitude "12GB") ∧
      (¬ ∃ other, unwrapSingle DriveInfo (some (objectsBody [named, unsized, misfit])) =
        .error other) ∧
      unwrapList DriveInfo (some (objectsBody ([named] ++ [named]))) =
        .ok ([namedDrive] ++ [namedDrive]) ∧
      unwrapSingle DriveInfo (some (objectsBody [named])) = .ok (some namedDrive) := by
  obtain ⟨-, faults, append, first, agree⟩ := unwrapList_pointwise DriveInfo
  have fails : FailsAt (Resource.decode (α := DriveInfo))
      (bodyRecords (some (objectsBody [named, unsized, misfit]))) 1 (.magnitude "12GB") :=
    failsAt_succ_iff.2 ⟨⟨namedDrive, rfl⟩, failsAt_zero_iff.2 rfl⟩
  have one : unwrapList DriveInfo (some (objectsBody [named])) = .ok [namedDrive] := rfl
  refine ⟨(faults _ _).2 ⟨1, fails⟩, ?_, append _ _ _ _ one one, first _ _ one⟩
  rw [(agree _ _ _ fails).1]
  exact Nat.one_ne_zero

end CloudInventory
