import CloudInventory.Inventory
import CloudInventory.Proofs.Client.Endpoints

/-!
# The policies that an inventory takes

A run resolves a reference once and keeps what came of it under the uuid, or under the
empty text if there is none. So what it takes for an interface is what the first
reference with that key was resolved to, on whatever interface of whatever server it
stood.

Results:
1. `Run.Memoizes.after_reference`: one reference, taken from the memo and kept in it.
2. `Run.memoizes_arrive`: what a run keeps when it arrives at an interface.
3. `Run.policyTaken_arrive_iff`: the policy taken for an interface is that of its own
   reference exactly if the first reference with the same key resolves alike.
4. `Run.policyTaken_arrive_of_bare`: which it does where all references with the key
   are bare.
5. `Run.anonymous_policies_mixed_up`: which it does not for policies without uuid.
-/

namespace CloudInventory

open Run

/-! ## Definitions -/

/-- What a resolution comes to; a failure counts as no policy. -/
def settled : Outcome (Option FirewallPolicy) → Option FirewallPolicy
  | .ok policy => policy
  | .error _ => none

/-- The policy that a reference resolves to at a peer. -/
def Client.resolvedFrom (client : Client) (peer : Request → Delivery)
    (reference : FirewallPolicy) : Option FirewallPolicy :=
  settled ((client.resolveFirewallPolicy reference).valueFrom peer)

/-- The references of the interfaces of a server, in order. -/
def ServerInfo.policyReferences (server : ServerInfo) : List FirewallPolicy :=
  server.nics.filterMap Nic.firewallPolicy

namespace Run

/-- Whether a reference has the key of another. -/
def hasKeyOf (reference other : FirewallPolicy) : Bool :=
  policyKey other == policyKey reference

/-- The policy that a run takes for a reference. -/
def policyTaken (client : Client) (peer : Request → Delivery) (run : Run)
    (reference : FirewallPolicy) : Option FirewallPolicy :=
  ((policyOf client run reference).valueFrom peer).1

/-- A run over the given number of servers that has not visited one. -/
def begun (count : Nat) : Run :=
  ({} : Run).write .info ("Found " ++ Text.numeralText count ++ " server(s)")

/-- The run after the node of a server, before the interfaces. -/
def enter (client : Client) (eviction : EvictionPolicy) (run : Run) (server : ServerInfo) :
    Session Run := do
  let (node, cache) ← ComputeAdapter.node client.driveLookup eviction run.cache server
  pure (addNode { run with cache } server node)

/-- The run when it arrives at an interface: after the servers before and the
interfaces of the server that were visited. -/
def arrive (client : Client) (eviction : EvictionPolicy) (count : Nat)
    (before : List ServerInfo) (server : ServerInfo) (visited : List Nic) : Session Run := do
  let run ← before.foldlM (visitServer client eviction) (begun count)
  let run ← enter client eviction run server
  visited.foldlM (visitNic client server) run

/-- The references that a run has come across when it arrives at an interface. -/
def referencesBefore (before : List ServerInfo) (visited : List Nic) : List FirewallPolicy :=
  before.flatMap ServerInfo.policyReferences ++ visited.filterMap Nic.firewallPolicy

/-- The run keeps under each key what the first reference with the key resolves to,
of those that it has come across. -/
def Memoizes (client : Client) (peer : Request → Delivery) (run : Run)
    (seen : List FirewallPolicy) : Prop :=
  ∀ key, run.policies.lookup key =
    (seen.find? fun reference => policyKey reference == key).map (client.resolvedFrom peer)

variable {client : Client} {eviction : EvictionPolicy} {peer : Request → Delivery}

/-! ## One reference -/

/-- What came of a resolution is taken, and kept in front of what was kept before. -/
theorem keepPolicy_eq (run : Run) (reference : FirewallPolicy)
    (resolved : Outcome (Option FirewallPolicy)) :
    (run.keepPolicy reference resolved).1 = settled resolved ∧
      (run.keepPolicy reference resolved).2.policies =
        (policyKey reference, settled resolved) :: run.policies := by
  cases resolved with
  | ok policy => exact ⟨rfl, rfl⟩
  | error e => exact ⟨rfl, rfl⟩

theorem policyOf_of_kept {run : Run} {reference : FirewallPolicy} {policy : Option FirewallPolicy}
    (kept : run.policies.lookup (policyKey reference) = some policy) :
    (policyOf client run reference).valueFrom peer = (policy, run) := by
  rw [policyOf, kept]
  rfl

theorem policyOf_of_not_kept {run : Run} {reference : FirewallPolicy}
    (missing : run.policies.lookup (policyKey reference) = none) :
    (policyOf client run reference).valueFrom peer =
      run.keepPolicy reference ((client.resolveFirewallPolicy reference).valueFrom peer) := by
  rw [policyOf, missing]
  exact Session.valueFrom_bind peer (client.resolveFirewallPolicy reference) _

/-- The policy taken for a reference is that of the first reference with its key, and
the run remembers it. -/
theorem Memoizes.after_reference {run : Run} {seen : List FirewallPolicy}
    (memo : run.Memoizes client peer seen) (reference : FirewallPolicy) :
    policyTaken client peer run reference =
        client.resolvedFrom peer ((seen.find? (hasKeyOf reference)).getD reference) ∧
      ((policyOf client run reference).valueFrom peer).2.Memoizes client peer
        (seen ++ [reference]) := by
  have kept : run.policies.lookup (policyKey reference) =
      (seen.find? (hasKeyOf reference)).map (client.resolvedFrom peer) := memo _
  unfold policyTaken
  cases earlier : seen.find? (hasKeyOf reference) with
  | some first =>
    rw [earlier] at kept
    rw [policyOf_of_kept kept]
    refine ⟨rfl, fun key => ?_⟩
    rw [memo key, List.find?_append]
    by_cases same : policyKey reference = key
    · subst same
      have found : (seen.find? fun other => policyKey other == policyKey reference) = some first :=
        earlier
      rw [found, Option.some_or]
    · rw [List.find?_cons_of_neg (by simpa using same), List.find?_nil, Option.or_none]
  | none =>
    rw [earlier] at kept
    obtain ⟨taken, policies⟩ := keepPolicy_eq run reference
      ((client.resolveFirewallPolicy reference).valueFrom peer)
    rw [policyOf_of_not_kept kept]
    refine ⟨taken, fun key => ?_⟩
    rw [policies, List.lookup_cons, List.find?_append]
    by_cases same : policyKey reference = key
    · subst same
      have absent : (seen.find? fun other => policyKey other == policyKey reference) = none :=
        earlier
      have own : [reference].find? (fun other => policyKey other == policyKey reference) =
          some reference := List.find?_cons_of_pos (beq_self_eq_true _)
      rw [absent, beq_self_eq_true, Option.none_or, own]
      rfl
    · rw [beq_false_of_ne (Ne.symm same), List.find?_cons_of_neg (by simpa using same),
        List.find?_nil, Option.or_none]
      exact memo key

/-! ## Interfaces and servers -/

/-- What is kept depends on the policies of a run alone. -/
theorem Memoizes.of_policies_eq {run other : Run} {seen : List FirewallPolicy}
    (memo : run.Memoizes client peer seen) (same : other.policies = run.policies) :
    other.Memoizes client peer seen := by
  intro key
  rw [same]
  exact memo key

theorem policies_reportPolicy (run : Run) (server : ServerInfo) (policy : Option FirewallPolicy) :
    (run.reportPolicy server policy).policies = run.policies := by
  cases policy <;> rfl

theorem policies_addNode (run : Run) (server : ServerInfo) (node : Outcome ComputeNode) :
    (run.addNode server node).policies = run.policies := by
  cases node <;> rfl

theorem Memoizes.after_nic {run : Run} {seen : List FirewallPolicy}
    (memo : run.Memoizes client peer seen) (server : ServerInfo) (nic : Nic) :
    ((visitNic client server run nic).valueFrom peer).Memoizes client peer
      (seen ++ nic.firewallPolicy.toList) := by
  unfold Run.visitNic
  cases bound : nic.firewallPolicy with
  | none =>
    rw [Option.toList_none, List.append_nil]
    exact memo
  | some reference =>
    have after := (memo.after_reference reference).2
    rw [Session.valueFrom_bind]
    exact after.of_policies_eq (policies_reportPolicy _ server _)

theorem Memoizes.after_nics {run : Run} {seen : List FirewallPolicy}
    (memo : run.Memoizes client peer seen) (server : ServerInfo) (nics : List Nic) :
    ((nics.foldlM (visitNic client server) run).valueFrom peer).Memoizes client peer
      (seen ++ nics.filterMap Nic.firewallPolicy) := by
  induction nics generalizing run seen with
  | nil =>
    rw [List.filterMap_nil, List.append_nil]
    exact memo
  | cons nic rest ih =>
    have after := ih (memo.after_nic server nic)
    rw [List.foldlM_cons, Session.valueFrom_bind]
    rw [List.append_assoc] at after
    cases bound : nic.firewallPolicy with
    | none =>
      rw [List.filterMap_cons_none bound]
      rw [bound] at after
      exact after
    | some reference =>
      rw [List.filterMap_cons_some bound]
      rw [bound] at after
      exact after

variable (eviction) in
theorem Memoizes.after_enter {run : Run} {seen : List FirewallPolicy}
    (memo : run.Memoizes client peer seen) (server : ServerInfo) :
    ((enter client eviction run server).valueFrom peer).Memoizes client peer seen := by
  unfold Run.enter
  rw [Session.valueFrom_bind]
  exact memo.of_policies_eq (policies_addNode _ server _)

/-- A visit of a server is its node and then its interfaces. -/
theorem visitServer_eq (run : Run) (server : ServerInfo) :
    visitServer client eviction run server =
      enter client eviction run server >>= server.nics.foldlM (visitNic client server) := by
  rw [enter, bind_assoc]
  rfl

variable (eviction) in
theorem Memoizes.after_servers {run : Run} {seen : List FirewallPolicy}
    (memo : run.Memoizes client peer seen) (servers : List ServerInfo) :
    ((servers.foldlM (visitServer client eviction) run).valueFrom peer).Memoizes client peer
      (seen ++ servers.flatMap ServerInfo.policyReferences) := by
  induction servers generalizing run seen with
  | nil =>
    rw [List.flatMap_nil, List.append_nil]
    exact memo
  | cons server rest ih =>
    have entered := memo.after_enter eviction server
    rw [List.foldlM_cons, Session.valueFrom_bind, visitServer_eq, Session.valueFrom_bind,
      List.flatMap_cons, ← List.append_assoc]
    exact ih (entered.after_nics server server.nics)

/-- What a run keeps when it arrives at an interface. -/
theorem memoizes_arrive (count : Nat) (before : List ServerInfo) (server : ServerInfo)
    (visited : List Nic) :
    ((arrive client eviction count before server visited).valueFrom peer).Memoizes client peer
      (referencesBefore before visited) := by
  have start : (begun count).Memoizes client peer [] := fun _ => rfl
  have servers := start.after_servers eviction before
  rw [List.nil_append] at servers
  rw [arrive, Session.valueFrom_bind, Session.valueFrom_bind]
  exact (servers.after_enter eviction server).after_nics server visited

/-- The visit of an interface with a reference reports the policy that is taken. -/
theorem visitNic_of_reference (run : Run) (server : ServerInfo) {nic : Nic}
    {reference : FirewallPolicy} (bound : nic.firewallPolicy = some reference) :
    (visitNic client server run nic).valueFrom peer =
      ((policyOf client run reference).valueFrom peer).2.reportPolicy server
        (policyTaken client peer run reference) := by
  rw [visitNic, bound]
  exact Session.valueFrom_bind peer (policyOf client run reference) _

/-- A run passes every interface of every server: it arrives there, visits it, and
goes on with the interfaces and the servers after it. -/
theorem visitServers_through (before after : List ServerInfo) {server : ServerInfo}
    {visited rest : List Nic} {nic : Nic} (nics : server.nics = visited ++ nic :: rest) :
    visitServers client eviction (before ++ server :: after) = (do
      let run ← arrive client eviction (before ++ server :: after).length before server visited
      let run ← visitNic client server run nic
      let run ← rest.foldlM (visitNic client server) run
      after.foldlM (visitServer client eviction) run) := by
  have start : visitServers client eviction (before ++ server :: after) =
      (before ++ server :: after).foldlM (visitServer client eviction)
        (begun (before ++ server :: after).length) := rfl
  rw [start, arrive]
  simp only [List.foldlM_append, List.foldlM_cons, visitServer_eq, nics, bind_assoc]

/-! ## The policy of an interface -/

/-- The policy taken for a reference at an interface is that of the first reference
with its key that the run has come across, or else its own. -/
theorem policyTaken_arrive (count : Nat) (before : List ServerInfo) (server : ServerInfo)
    (visited : List Nic) (reference : FirewallPolicy) :
    policyTaken client peer
        ((arrive client eviction count before server visited).valueFrom peer) reference =
      client.resolvedFrom peer
        (((referencesBefore before visited).find? (hasKeyOf reference)).getD reference) :=
  ((memoizes_arrive count before server visited).after_reference reference).1

/-- Bare references with one uuid resolve alike: the service is asked for the same. -/
theorem resolvedFrom_of_bare {first reference : FirewallPolicy} {uuid : String}
    (firstUuid : first.uuid = some uuid) (firstBare : first.rules = [])
    (referenceUuid : reference.uuid = some uuid) (referenceBare : reference.rules = []) :
    client.resolvedFrom peer first = client.resolvedFrom peer reference := by
  simp only [Client.resolvedFrom, Client.resolveFirewallPolicy, firstUuid, firstBare,
    referenceUuid, referenceBare, List.isEmpty_nil, if_true]

/-- Where all references with its key are bare and have a uuid, the policy taken for a
reference is its own. -/
theorem policyTaken_arrive_of_bare (count : Nat) (before : List ServerInfo) (server : ServerInfo)
    (visited : List Nic) (reference : FirewallPolicy)
    (bare : ∀ other ∈ reference :: referencesBefore before visited,
      hasKeyOf reference other = true → other.uuid.isSome = true ∧ other.rules = []) :
    policyTaken client peer
        ((arrive client eviction count before server visited).valueFrom peer) reference =
      client.resolvedFrom peer reference := by
  rw [policyTaken_arrive]
  cases earlier : (referencesBefore before visited).find? (hasKeyOf reference) with
  | none => rfl
  | some first =>
    have sameKey : hasKeyOf reference first = true := List.find?_some earlier
    obtain ⟨named, firstBare⟩ :=
      bare first (List.mem_cons_of_mem _ (List.mem_of_find?_eq_some earlier)) sameKey
    obtain ⟨ownNamed, ownBare⟩ := bare reference List.mem_cons_self (beq_self_eq_true _)
    obtain ⟨uuid, isUuid⟩ := Option.isSome_iff_exists.1 named
    obtain ⟨own, isOwn⟩ := Option.isSome_iff_exists.1 ownNamed
    -- Both have a uuid, so their keys are their uuids.
    have same : uuid = own := by
      simpa [hasKeyOf, policyKey, isUuid, isOwn] using sameKey
    exact resolvedFrom_of_bare isUuid firstBare (same ▸ isOwn) ownBare

/-- The inventory of any servers, at any interface with a reference: the run arrives
there and reports the policy that it takes; that is the policy of the first reference
with the same key, and so that of the reference itself exactly if no earlier reference
has the key or the first of them resolves alike. -/
theorem policyTaken_arrive_iff (client : Client) (eviction : EvictionPolicy)
    (peer : Request → Delivery) {servers before after : List ServerInfo} {server : ServerInfo}
    {visited rest : List Nic} {nic : Nic} {reference : FirewallPolicy}
    (place : servers = before ++ server :: after) (nics : server.nics = visited ++ nic :: rest)
    (bound : nic.firewallPolicy = some reference) :
    let run := (arrive client eviction servers.length before server visited).valueFrom peer
    let kept := ((policyOf client run reference).valueFrom peer).2
    let seen := referencesBefore before visited
    (visitServers client eviction servers).valueFrom peer =
        (rest.foldlM (visitNic client server)
          (kept.reportPolicy server (policyTaken client peer run reference)) >>=
            after.foldlM (visitServer client eviction)).valueFrom peer ∧
      policyTaken client peer run reference =
        client.resolvedFrom peer ((seen.find? (hasKeyOf reference)).getD reference) ∧
      (policyTaken client peer run reference = client.resolvedFrom peer reference ↔
        ∀ first, seen.find? (hasKeyOf reference) = some first →
          client.resolvedFrom peer first = client.resolvedFrom peer reference) := by
  intro run kept seen
  have taken : policyTaken client peer run reference =
      client.resolvedFrom peer ((seen.find? (hasKeyOf reference)).getD reference) :=
    policyTaken_arrive servers.length before server visited reference
  refine ⟨?_, taken, ?_⟩
  · subst place
    rw [visitServers_through before after nics, Session.valueFrom_bind, Session.valueFrom_bind,
      visitNic_of_reference _ server bound]
  · rw [taken]
    cases earlier : seen.find? (hasKeyOf reference) with
    | none => exact ⟨nofun, fun _ => rfl⟩
    | some first =>
      constructor
      · rintro alike _ ⟨⟩
        exact alike
      · intro alike
        exact alike first rfl

end Run

/-! ## Policies without a uuid -/

namespace PolicyMemoExamples

/-- A peer that cannot be reached; policies that are embedded need none. -/
def peer : Request → Delivery :=
  Session.unreachable "no route"

/-- A policy that opens one protocol. -/
def web : FirewallPolicy :=
  { name := some "web", rules := [.acceptInbound .tcp] }

/-- A policy that opens nothing. -/
def closed : FirewallPolicy :=
  { name := some "closed" }

/-- A server with an interface for each of the policies. -/
def server : ServerInfo :=
  { nics := [{ firewallPolicy := some web }, { firewallPolicy := some closed }] }

/-- The body of a listing with that server. -/
def listing : Json :=
  .object [("objects", .array [.object [("nics", .array [
    .object [("firewall_policy", .object [("name", .string "web"), ("rules", .array [
      .object [("action", .string "accept"), ("direction", .string "in"),
        ("ip_proto", .string "tcp")]])])],
    .object [("firewall_policy", .object [("name", .string "closed")])]])]])]

end PolicyMemoExamples

open Config.EndpointExamples (client)
open PolicyMemoExamples

/-- The policy taken at the first interface is that of its reference, and the one taken
at the second interface is not. -/
theorem Run.policyTaken_arrive_iff_both :
    policyTaken client peer ((arrive client .newest 1 [] server []).valueFrom peer) web =
        client.resolvedFrom peer web ∧
      policyTaken client peer
          ((arrive client .newest 1 [] server [{ firewallPolicy := some web }]).valueFrom peer)
          closed ≠ client.resolvedFrom peer closed := by
  have place : [server] = [] ++ server :: [] := rfl
  have atWeb : server.nics = [] ++ { firewallPolicy := some web } ::
      [{ firewallPolicy := some closed }] := rfl
  have atClosed : server.nics = [{ firewallPolicy := some web }] ++
      { firewallPolicy := some closed } :: [] := rfl
  have first := Run.policyTaken_arrive_iff client .newest peer place atWeb rfl
  have second := Run.policyTaken_arrive_iff client .newest peer place atClosed rfl
  refine ⟨first.2.2.2 nofun, fun agrees => ?_⟩
  have alike : some web = some closed := second.2.2.1 agrees web rfl
  exact absurd alike (by decide)

/-- A server as the service lists it, with two policies that have no uuid: at the
second interface the policy of the first one is taken. -/
theorem Run.anonymous_policies_mixed_up :
    (unwrapList ServerInfo (some listing)).toOption = some [server] ∧
      client.resolvedFrom peer closed = some closed ∧
      policyTaken client peer
          ((arrive client .newest 1 [] server [{ firewallPolicy := some web }]).valueFrom peer)
          closed = some web ∧
      web ≠ closed := by
  refine ⟨by decide +kernel, rfl, ?_, by decide⟩
  rw [policyTaken_arrive]
  rfl

end CloudInventory
