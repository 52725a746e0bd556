import CloudInventory.Client.Operations
import CloudInventory.Proofs.Client.Endpoints
import CloudInventory.Proofs.Decode.Sequence
import CloudInventory.Proofs.Envelope.Records
import CloudInventory.Proofs.Text.Trim

/-!
# What responses mean

A response says that a resource is missing, that something failed, that there is no body, or
it has a body, which may be no JSON at all. Whoever asks for a resource sees these as four
different things: only a missing resource, a response without a body and a body without
records are an absent value, and no fault of decoding ever is. Whoever wants to change a
resource is told that it is missing.

Results:
1. `Response.payload_eq_iff`: what a response means, as a relation and as it is read.
2. `Client.single_eq_none_iff` and `Client.list_eq_nil_iff`: bodies without resources.
3. `Response.fetched_absent_iff`: when what is asked for is absent.
4. `Client.retrieval_outcome`: what comes of asking, for every response.
-/

namespace CloudInventory

/-! ## Responses -/

namespace Response

variable {response : Response}

/-- The status reports success. -/
def Succeeds (response : Response) : Prop :=
  200 ≤ response.status ∧ response.status < 300

/-- The status promises no body, or the text has no characters but blanks. -/
def Bodiless (response : Response) : Prop :=
  response.status = 204 ∨ ∀ c ∈ response.text.toList, Text.isBlank c = true

instance (response : Response) : Decidable response.Succeeds :=
  inferInstanceAs (Decidable (_ ∧ _))

instance (response : Response) : Decidable response.Bodiless :=
  decidable_of_iff (response.status = 204 ∨ response.text.toList.all Text.isBlank = true)
    (by rw [Bodiless, List.all_eq_true])

/-- What a response means, whoever gets it. -/
inductive Means (response : Response) : Outcome (Option Json) → Prop where
  /-- The status is no success, and is reported with the text. -/
  | failed (fails : ¬ response.Succeeds) :
    Means response (.error (.status response.status response.text))
  /-- There is nothing to decode. -/
  | bodiless (succeeds : response.Succeeds) (bodiless : response.Bodiless) :
    Means response (.ok none)
  /-- The text is no JSON. -/
  | malformed (succeeds : response.Succeeds) (bodied : ¬ response.Bodiless)
    (noJson : Json.parse? response.text = none) : Means response (.error (.decode .notJson))
  /-- The text is JSON. -/
  | body {json : Json} (succeeds : response.Succeeds) (bodied : ¬ response.Bodiless)
    (parsed : Json.parse? response.text = some json) : Means response (.ok (some json))

theorem isSuccess_iff : response.isSuccess = true ↔ response.Succeeds := by
  rw [isSuccess, Bool.and_eq_true, decide_eq_true_eq, decide_eq_true_eq, Succeeds]

theorem isBlankText_iff {text : String} :
    Text.isBlankText text = true ↔ ∀ c ∈ text.toList, Text.isBlank c = true := by
  rw [Text.isBlankText, List.isEmpty_iff, Text.trim_eq_nil_iff]

/-- Every response is read as what it means. -/
theorem means_payload (response : Response) : response.Means (Delivery.payload (.ok response)) := by
  rw [Delivery.payload]
  split
  next fails =>
    refine .failed fun succeeds => ?_
    rw [isSuccess_iff.2 succeeds] at fails
    cases fails
  next notFailed =>
    have succeeds : response.Succeeds := by
      rw [Bool.not_eq_true', Bool.not_eq_false] at notFailed
      exact isSuccess_iff.1 notFailed
    split
    next empty => exact .bodiless succeeds (empty.imp_right isBlankText_iff.1)
    next filled =>
      have bodied : ¬ response.Bodiless := fun bodiless =>
        filled (bodiless.imp_right isBlankText_iff.2)
      split
      next json parsed => exact .body succeeds bodied parsed
      next noJson => exact .malformed succeeds bodied noJson

/-- A response means one thing only. -/
theorem Means.unique {outcome other : Outcome (Option Json)} (means : response.Means outcome)
    (meansOther : response.Means other) : outcome = other := by
  cases means <;> cases meansOther <;> simp_all

/-- What a response is read as is what it means. -/
theorem payload_eq_iff {outcome : Outcome (Option Json)} :
    Delivery.payload (.ok response) = outcome ↔ response.Means outcome :=
  ⟨fun same => same ▸ means_payload response, (means_payload response).unique⟩

/-! ## What is asked for -/

/-- What comes of asking for something. -/
def fetched (response : Response) : Outcome (Option Json) :=
  absentIfNotFound (Delivery.payload (.ok response))

/-- Nothing can be shown: the resource is missing, there is no body, or the body has no
records. -/
def Absent (response : Response) : Prop :=
  response.status = 404 ∨ response.Succeeds ∧ (response.Bodiless ∨
    ∃ json, Json.parse? response.text = some json ∧ (Envelope.detect json).records = [])

theorem not_succeeds_of_missing (missing : response.status = 404) : ¬ response.Succeeds := by
  rw [Succeeds, missing]
  decide

theorem fetched_of_missing (missing : response.status = 404) : response.fetched = .ok none := by
  rw [fetched, payload_eq_iff.2 (.failed (not_succeeds_of_missing missing)), missing]
  rfl

theorem fetched_of_failed (fails : ¬ response.Succeeds) (present : response.status ≠ 404) :
    response.fetched = .error (.status response.status response.text) := by
  have noted : (ServiceError.status response.status response.text).isNotFound = false :=
    beq_eq_false_iff_ne.2 present
  rw [fetched, payload_eq_iff.2 (.failed fails), absentIfNotFound, noted, if_neg Bool.false_ne_true]

theorem fetched_of_bodiless (succeeds : response.Succeeds) (bodiless : response.Bodiless) :
    response.fetched = .ok none := by
  rw [fetched, payload_eq_iff.2 (.bodiless succeeds bodiless)]
  rfl

theorem fetched_of_malformed (succeeds : response.Succeeds) (bodied : ¬ response.Bodiless)
    (noJson : Json.parse? response.text = none) :
    response.fetched = .error (.decode .notJson) := by
  rw [fetched, payload_eq_iff.2 (.malformed succeeds bodied noJson)]
  rfl

theorem fetched_of_body {json : Json} (succeeds : response.Succeeds) (bodied : ¬ response.Bodiless)
    (parsed : Json.parse? response.text = some json) : response.fetched = .ok (some json) := by
  rw [fetched, payload_eq_iff.2 (.body succeeds bodied parsed)]
  rfl

/-- What is asked for is a body without records exactly if nothing can be shown. -/
theorem fetched_absent_iff :
    (∃ body, response.fetched = .ok body ∧ bodyRecords body = []) ↔ response.Absent := by
  by_cases missing : response.status = 404
  · exact iff_of_true ⟨none, fetched_of_missing missing, rfl⟩ (.inl missing)
  rw [Absent, or_iff_right missing]
  by_cases succeeds : response.Succeeds
  · rw [and_iff_right succeeds]
    by_cases bodiless : response.Bodiless
    · exact iff_of_true ⟨none, fetched_of_bodiless succeeds bodiless, rfl⟩ (.inl bodiless)
    · rw [or_iff_right bodiless]
      cases parsed : Json.parse? response.text with
      | none =>
        rw [fetched_of_malformed succeeds bodiless parsed]
        exact iff_of_false (fun ⟨_, made, _⟩ => nomatch made) (fun ⟨_, made, _⟩ => nomatch made)
      | some json =>
        rw [fetched_of_body succeeds bodiless parsed]
        constructor
        · rintro ⟨_, ⟨⟩, noRecords⟩
          exact ⟨json, rfl, noRecords⟩
        · rintro ⟨_, ⟨⟩, noRecords⟩
          exact ⟨some json, rfl, noRecords⟩
  · rw [fetched_of_failed succeeds missing]
    exact iff_of_false (fun ⟨_, made, _⟩ => nomatch made) (fun both => succeeds both.1)

end Response

/-! ## Resources of a body -/

namespace Client

section

variable {α : Type} [Resource α] {outcome : Outcome (Option Json)}

/-- The single resource of a body is absent exactly if the body has no records. -/
theorem single_eq_none_iff :
    single α outcome = .ok none ↔ ∃ body, outcome = .ok body ∧ bodyRecords body = [] := by
  refine bind_eq_ok_iff.trans (exists_congr fun body => and_congr_right fun _ => ?_)
  rw [Outcome.ofDecoded, mapError_eq_ok_iff, unwrapSingle_eq_mapM]
  cases bodyRecords body with
  | nil => exact iff_of_true rfl rfl
  | cons first rest =>
    rw [List.head?_cons, Option.mapM_some]
    refine iff_of_false ?_ (List.cons_ne_nil _ _)
    rintro made
    obtain ⟨_, -, same⟩ := map_eq_ok_iff.1 made
    cases same

/-- The resources of a body are none exactly if the body has no records. -/
theorem list_eq_nil_iff :
    list α outcome = .ok [] ↔ ∃ body, outcome = .ok body ∧ bodyRecords body = [] := by
  refine bind_eq_ok_iff.trans (exists_congr fun body => and_congr_right fun _ => ?_)
  rw [Outcome.ofDecoded, mapError_eq_ok_iff, unwrapList_eq_mapM, mapM_eq_ok_iff,
    List.forall₂_nil_right_iff]

end

end Client

/-! ## Exchanges -/

namespace Session

variable {α : Type}

/-- The value of a session with a peer that responds to every request in the same way. -/
def valueUpon (response : Response) (session : Session α) : α :=
  session.valueFrom fun _ => .ok response

end Session

namespace Client

/-- The operations that want something to be changed: with a body, or without a result. -/
inductive Changes (client : Client) : {β : Type} → Session (Outcome β) → Prop where
  | create {α : Type} [Resource α] [Sendable α] (path : String) (value : α) :
    Changes client (client.create path value)
  | update {α : Type} [Resource α] [Sendable α] (path : String) (value : α) :
    Changes client (client.update path value)
  | clone (uuid : String) (clone : CloneRequest) : Changes client (client.cloneDrive uuid clone)
  | command (method : Method) (path : String) : Changes client (client.command method path)

variable {client : Client} {response : Response}

/-- A status that is no success is reported to whoever wants something to be changed. -/
theorem Changes.valueUpon_of_failed {β : Type} {session : Session (Outcome β)}
    (changes : client.Changes session) (fails : ¬ response.Succeeds) :
    session.valueUpon response = .error (.status response.status response.text) := by
  have payload := Response.payload_eq_iff.2 (.failed fails)
  cases changes with
  | create path value => exact congrArg (single _) payload
  | update path value => exact congrArg (single _) payload
  | clone uuid clone => exact congrArg (single _) payload
  | command method path => exact congrArg (Except.map fun _ => ()) payload

/-- Asking for a resource or a list separates what is missing, what failed and what cannot be
decoded. A missing resource is absent, whatever the text; any other status that is no success
is reported with the text. A success without a body is absent, a text that is no JSON is a
fault, and any other text is what its records are decoded to. So absence has no other cause
than a missing resource, no body, or a body without records; and whoever wants to change a
missing resource is told so. -/
theorem retrieval_outcome (α : Type) [Resource α] (client : Client) (path : String)
    (response : Response) :
    let one := (client.getOne α path).valueUpon response
    let all := (client.getList α path).valueUpon response
    (response.status = 404 → one = .ok none ∧ all = .ok []) ∧
    (¬ response.Succeeds → response.status ≠ 404 →
      one = .error (.status response.status response.text) ∧
        all = .error (.status response.status response.text)) ∧
    (response.Succeeds → response.Bodiless → one = .ok none ∧ all = .ok []) ∧
    (response.Succeeds → ¬ response.Bodiless → Json.parse? response.text = none →
      one = .error (.decode .notJson) ∧ all = .error (.decode .notJson)) ∧
    (∀ json, response.Succeeds → ¬ response.Bodiless → Json.parse? response.text = some json →
      one = (unwrapSingle α (some json)).mapError .decode ∧
        all = (unwrapList α (some json)).mapError .decode) ∧
    (one = .ok none ↔ response.Absent) ∧
    (all = .ok [] ↔ response.Absent) ∧
    (∀ {β : Type} {session : Session (Outcome β)}, client.Changes session →
      response.status = 404 →
      session.valueUpon response = .error (.status 404 response.text)) := by
  intro one all
  have oneIs : one = single α response.fetched := rfl
  have allIs : all = list α response.fetched := rfl
  refine ⟨?_, ?_, ?_, ?_, ?_, ?_, ?_, ?_⟩
  · intro missing
    rw [oneIs, allIs, Response.fetched_of_missing missing]
    exact ⟨rfl, rfl⟩
  · intro fails present
    rw [oneIs, allIs, Response.fetched_of_failed fails present]
    exact ⟨rfl, rfl⟩
  · intro succeeds bodiless
    rw [oneIs, allIs, Response.fetched_of_bodiless succeeds bodiless]
    exact ⟨rfl, rfl⟩
  · intro succeeds bodied noJson
    rw [oneIs, allIs, Response.fetched_of_malformed succeeds bodied noJson]
    exact ⟨rfl, rfl⟩
  · intro json succeeds bodied parsed
    rw [oneIs, allIs, Response.fetched_of_body succeeds bodied parsed]
    exact ⟨rfl, rfl⟩
  · rw [oneIs, single_eq_none_iff, Response.fetched_absent_iff]
  · rw [allIs, list_eq_nil_iff, Response.fetched_absent_iff]
  · intro β session changes missing
    rw [changes.valueUpon_of_failed (Response.not_succeeds_of_missing missing), missing]

end Client

/-! ## A drive that is asked for -/

namespace ResponseExamples

open Config.EndpointExamples (client)

/-- What comes of asking for a drive. -/
def drive (response : Response) : Outcome (Option DriveInfo) :=
  (client.getOne DriveInfo "drives/d1/").valueUpon response

/-- What comes of asking for all drives. -/
def drives (response : Response) : Outcome (List DriveInfo) :=
  (client.getList DriveInfo "drives/detail/").valueUpon response

/-- The text of a record with a size that is no number. -/
def misfit : String := "\x7b\"size\":\"10G\"\x7d"

end ResponseExamples

open Config.EndpointExamples (client)
open ResponseExamples in
/-- A drive that is missing, that cannot be had, that has no body, that is no JSON and that has
a size that is none; and one that is to be deleted and is missing. -/
theorem Client.retrieval_outcome_drives :
    drive ⟨404, "\x7b"⟩ = .ok none ∧
      drive ⟨503, "down"⟩ = .error (.status 503 "down") ∧
      drives ⟨200, " \n"⟩ = .ok [] ∧
      drives ⟨200, "\x7b"⟩ = .error (.decode .notJson) ∧
      drive ⟨200, misfit⟩ = .error (.decode (.magnitude "10G")) ∧
      drive ⟨200, misfit⟩ ≠ .ok none ∧
      (client.deleteDrive "d1").valueUpon ⟨404, ""⟩ = .error (.status 404 "") := by
  have outcome (response : Response) :=
    Client.retrieval_outcome DriveInfo client "drives/d1/" response
  have outcomes (response : Response) :=
    Client.retrieval_outcome DriveInfo client "drives/detail/" response
  have fault : drive ⟨200, misfit⟩ = .error (.decode (.magnitude "10G")) := by
    have record : Json.parse? misfit = some (.object [("size", .string "10G")]) := by
      decide +kernel
    have decoded : unwrapSingle DriveInfo (some (.object [("size", .string "10G")])) =
        .error (.magnitude "10G") := rfl
    have same := ((outcome ⟨200, misfit⟩).2.2.2.2.1 _ (by decide) (by decide) record).1
    rw [decoded] at same
    exact same
  refine ⟨?_, ?_, ?_, ?_, fault, ?_, ?_⟩
  · exact ((outcome ⟨404, "\x7b"⟩).1 rfl).1
  · exact ((outcome ⟨503, "down"⟩).2.1 (by decide) (by decide)).1
  · exact ((outcomes ⟨200, " \n"⟩).2.2.1 (by decide) (by decide)).2
  · exact ((outcomes ⟨200, "\x7b"⟩).2.2.2.1 (by decide) (by decide) (by decide +kernel)).2
  · rw [fault]
    nofun
  · exact (outcome ⟨404, ""⟩).2.2.2.2.2.2.2 (.command .delete _) rfl

end CloudInventory
