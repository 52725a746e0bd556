import CloudInventory.Proofs.Client.Responses

/-!
# Commands

A command has no result: it was carried out, or the response says why not. Its response is read
like any other, so that a success counts only if it has no body or one that is JSON; what the
JSON says does not matter. A success with any other text is reported as a body that cannot be
decoded.

Results:
1. `Client.command_outcome`: what comes of a command, for every response.
2. `Client.accepted_command_fails`: a command that is carried out and reported as a failure.
-/

namespace CloudInventory

/-! ## Responses -/

namespace Response

variable {response : Response}

/-- The response has no body, or one that is JSON. -/
def Readable (response : Response) : Prop :=
  response.Bodiless ∨ (Json.parse? response.text).isSome = true

instance (response : Response) : Decidable response.Readable :=
  inferInstanceAs (Decidable (_ ∨ _))

/-- What a command makes of what a response means. -/
def acknowledged (response : Response) : Outcome Unit :=
  (Delivery.payload (.ok response)).map fun _ => ()

theorem acknowledged_of_failed (fails : ¬ response.Succeeds) :
    response.acknowledged = .error (.status response.status response.text) := by
  rw [acknowledged, payload_eq_iff.2 (.failed fails)]
  rfl

theorem acknowledged_of_readable (succeeds : response.Succeeds) (readable : response.Readable) :
    response.acknowledged = .ok () := by
  by_cases bodiless : response.Bodiless
  · rw [acknowledged, payload_eq_iff.2 (.bodiless succeeds bodiless)]
    rfl
  · obtain ⟨json, parsed⟩ := Option.isSome_iff_exists.1 (readable.resolve_left bodiless)
    rw [acknowledged, payload_eq_iff.2 (.body succeeds bodiless parsed)]
    rfl

theorem acknowledged_of_not_readable (succeeds : response.Succeeds)
    (unreadable : ¬ response.Readable) : response.acknowledged = .error (.decode .notJson) := by
  obtain ⟨bodied, noJson⟩ := not_or.1 unreadable
  rw [Bool.not_eq_true, Option.isSome_eq_false_iff, Option.isNone_iff_eq_none] at noJson
  rw [acknowledged, payload_eq_iff.2 (.malformed succeeds bodied noJson)]
  rfl

end Response

/-! ## Commands -/

namespace Client

/-- The commands on a resource: those that delete it, and those that start or stop it. -/
def commands (client : Client) (id : String) : List (Session (Outcome Unit)) := [
  client.deleteServer id,
  client.deleteDrive id,
  client.deleteFirewallPolicy id,
  client.deleteTag id,
  client.startServer id,
  client.stopServer id]

variable {client : Client} {id : String} {command : Session (Outcome Unit)} {response : Response}

/-- A command yields what the response acknowledges. -/
theorem valueUpon_of_mem_commands (listed : command ∈ client.commands id)
    (response : Response) : command.valueUpon response = response.acknowledged := by
  simp only [commands, List.mem_cons, List.not_mem_nil, or_false] at listed
  rcases listed with rfl | rfl | rfl | rfl | rfl | rfl <;> rfl

/-- A command succeeds exactly if the status reports success and the response has no body or
one that is JSON, whatever the JSON says. A status that is no success is reported with the
text, and nothing else is reported as such. Any other text of a success is reported as a body
that cannot be decoded. -/
theorem command_outcome (listed : command ∈ client.commands id) (response : Response) :
    let outcome := command.valueUpon response
    (outcome = .ok () ↔ response.Succeeds ∧ response.Readable) ∧
    (∀ code text, outcome = .error (.status code text) ↔
      ¬ response.Succeeds ∧ code = response.status ∧ text = response.text) ∧
    (outcome = .error (.decode .notJson) ↔ response.Succeeds ∧ ¬ response.Readable) ∧
    (outcome = .ok () ∨ outcome = .error (.status response.status response.text) ∨
      outcome = .error (.decode .notJson)) := by
  intro outcome
  have outcomeIs : outcome = response.acknowledged := valueUpon_of_mem_commands listed response
  rw [outcomeIs]
  by_cases succeeds : response.Succeeds
  · by_cases readable : response.Readable
    · rw [Response.acknowledged_of_readable succeeds readable]
      simp [succeeds, readable]
    · rw [Response.acknowledged_of_not_readable succeeds readable]
      simp [succeeds, readable]
  · rw [Response.acknowledged_of_failed succeeds]
    simp [succeeds, eq_comm]

end Client

/-! ## Deletions and starts -/

open Config.EndpointExamples (client)

/-- A drive is deleted without a word, a server is started with a record of the action, and a
tag that is missing is not deleted. -/
theorem Client.command_outcome_deletions :
    (client.deleteDrive "d1").valueUpon ⟨204, ""⟩ = .ok () ∧
      (client.startServer "s1").valueUpon ⟨202, "\x7b\"result\":\"success\"\x7d"⟩ = .ok () ∧
      (client.deleteTag "t1").valueUpon ⟨404, "no tag"⟩ = .error (.status 404 "no tag") := by
  have drive : client.deleteDrive "d1" ∈ client.commands "d1" := by simp [Client.commands]
  have server : client.startServer "s1" ∈ client.commands "s1" := by simp [Client.commands]
  have tag : client.deleteTag "t1" ∈ client.commands "t1" := by simp [Client.commands]
  refine ⟨?_, ?_, ?_⟩
  · exact (Client.command_outcome drive _).1.2 (by decide)
  · exact (Client.command_outcome server _).1.2 (by decide +kernel)
  · exact ((Client.command_outcome tag _).2.1 _ _).2 (by decide)

/-- A deletion that the status reports as a success is no success, since its text is no JSON. -/
theorem Client.accepted_command_fails :
    ¬ ((client.deleteServer "s1").valueUpon ⟨200, "deleted"⟩ = .ok () ↔
      Response.Succeeds ⟨200, "deleted"⟩) := by
  have outcome : (client.deleteServer "s1").valueUpon ⟨200, "deleted"⟩ =
      .error (.decode .notJson) :=
    Response.acknowledged_of_not_readable (by decide) (by decide +kernel)
  rw [outcome]
  exact fun claimed => nomatch claimed.2 (by decide)

end CloudInventory
