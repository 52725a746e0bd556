import CloudInventory.Proofs.Client.Segments
import CloudInventory.Proofs.Compute.NodeText
import CloudInventory.Proofs.Compute.SharedCache
import CloudInventory.Proofs.Inventory.PolicyMemo
import CloudInventory.Proofs.Json.OneLine

/-!
# What an inventory prints and what it asks for

The cache of a run agrees with the service and what its memo holds is known, so a
server contributes the line that it would have alone, and a policy is asked for when
the first reference with its uuid is bare, and never again.

Results:
1. `Run.Faithful.after_server` and `Run.Faithful.after_servers`: the nodes of a run are
   those of the servers that it has visited, as they are without a cache.
2. `Run.count_policyOf` and `Run.count_visitServers`: how often a run asks for a policy.
3. `Client.lineFrom_eq_none_iff` and `Client.prints_lineFrom`: which servers have a line, and
   what it says.
4. `Client.lineFrom_congr`: the line of a server depends on its boot drive alone.
5. `Client.inventory_outcome`: what a run prints, and that no policy is asked for twice.
-/

namespace CloudInventory

open Run

/-! ## Definitions -/

/-- The lines that a report prints on the standard output. -/
def Report.output (report : Report) : List String :=
  report.nodes.map ComputeNode.line

namespace Client

section

variable (client : Client)

/-- The request for the list of servers. -/
def serversRequest : Request :=
  client.pathRequest (listPath "servers/detail/")

/-- The request for the details of a drive. -/
def driveRequest (uuid : String) : Request :=
  client.pathRequest (itemPath "drives/" uuid)

/-- The request for a firewall policy. -/
def policyRequest (uuid : String) : Request :=
  client.pathRequest (itemPath "fwpolicies/" uuid)

end

variable (client : Client) (peer : Request → Delivery)

/-- The servers that a peer lists. -/
def serversFrom : Outcome (List ServerInfo) :=
  client.listServersDetail.valueFrom peer

/-- What a peer says of a drive. -/
def driveFrom (uuid : String) : Outcome (Option DriveInfo) :=
  (client.getDrive uuid).valueFrom peer

/-- The node of a server whose boot drive is looked up without a cache. -/
def nodeFrom (server : ServerInfo) : Outcome ComputeNode :=
  (ComputeAdapter.directImage (client.driveFrom peer) server).map (ComputeAdapter.nodeWith server)

/-- The line of a server; `none` if its boot drive cannot be looked up. -/
def lineFrom (server : ServerInfo) : Option String :=
  (client.nodeFrom peer server).toOption.map ComputeNode.line

/-- The text is read as the node that describes a server with the details of its boot drive,
as the peer gives them without a cache. -/
def Prints (server : ServerInfo) (text : String) : Prop :=
  ∃ (image : Option DriveInfo) (node : ComputeNode),
    ComputeAdapter.directImage (client.driveFrom peer) server = .ok image ∧
    node.Describes server image ∧ Json.parse? text = some (.object node.members)

end Client

/-- The service is asked for the policy of the reference. -/
def FirewallPolicy.isBare (x : FirewallPolicy) : Bool :=
  x.uuid.isSome && x.rules.isEmpty

/-- How often a run asks for the policy with a uuid that has come across references:
once if the first of them with the uuid is bare. -/
def Run.timesAsked (seen : List FirewallPolicy) (uuid : String) : Nat :=
  if (seen.find? fun reference => policyKey reference == uuid).any FirewallPolicy.isBare then 1
  else 0

/-- The run has the nodes of the servers that it has visited, and a cache that agrees
with the service. -/
structure Run.Faithful (client : Client) (peer : Request → Delivery) (run : Run)
    (visited : List ServerInfo) : Prop where
  cache : run.cache.Agrees (client.driveFrom peer)
  nodes : run.nodes = visited.filterMap fun server => (client.nodeFrom peer server).toOption

section

variable {client : Client} {eviction : EvictionPolicy} {peer : Request → Delivery}

/-! ## Boot drives -/

namespace ComputeAdapter

variable (eviction) in
/-- A cache that agrees with the service answers for it, and goes on to agree. -/
theorem driveInfo_from {cache : DriveCache} (agrees : cache.Agrees (client.driveFrom peer))
    (uuid : String) :
    let result := (driveInfo client.driveLookup eviction cache uuid).valueFrom peer
    result.1 = client.driveFrom peer uuid ∧ result.2.Agrees (client.driveFrom peer) := by
  unfold driveInfo
  cases found : cache.get? uuid with
  | some drive => exact ⟨(agrees.lookup_eq found).symm, agrees⟩
  | none => exact ⟨rfl, agrees.learn eviction uuid⟩

theorem requestsTo_driveInfo (cache : DriveCache) (uuid : String) :
    ∀ request ∈ (driveInfo client.driveLookup eviction cache uuid).requestsTo peer,
      request = client.driveRequest uuid := by
  unfold driveInfo
  cases cache.get? uuid with
  | some drive => exact fun request member => absurd member List.not_mem_nil
  | none => exact fun request member => List.mem_singleton.1 member

variable (eviction) in
/-- The node of a server is the one without a cache, and the cache goes on to agree. -/
theorem node_from {cache : DriveCache} (agrees : cache.Agrees (client.driveFrom peer))
    (server : ServerInfo) :
    let result := (node client.driveLookup eviction cache server).valueFrom peer
    result.1 = client.nodeFrom peer server ∧ result.2.Agrees (client.driveFrom peer) := by
  simp only [node, bootImage, Session.valueFrom_bind, Client.nodeFrom, directImage]
  cases server.bootDriveUuid with
  | none => exact ⟨rfl, agrees⟩
  | some uuid =>
    obtain ⟨image, after⟩ := driveInfo_from eviction agrees uuid
    exact ⟨congrArg (Except.map (nodeWith server)) image, after⟩

theorem requestsTo_node (cache : DriveCache) (server : ServerInfo) :
    ∀ request ∈ (node client.driveLookup eviction cache server).requestsTo peer,
      ∃ uuid, request = client.driveRequest uuid := by
  intro request member
  simp only [node, bootImage, Session.requestsTo_bind] at member
  rcases List.mem_append.1 member with asked | none
  · cases boots : server.bootDriveUuid with
    | none =>
      rw [boots] at asked
      exact absurd asked List.not_mem_nil
    | some uuid =>
      rw [boots] at asked
      exact ⟨uuid, requestsTo_driveInfo cache uuid request asked⟩
  · exact absurd none List.not_mem_nil

end ComputeAdapter

/-! ## The nodes of a run -/

namespace Run

theorem keepPolicy_keeps (run : Run) (reference : FirewallPolicy)
    (resolved : Outcome (Option FirewallPolicy)) :
    (run.keepPolicy reference resolved).2.nodes = run.nodes ∧
      (run.keepPolicy reference resolved).2.cache = run.cache := by
  cases resolved <;> exact ⟨rfl, rfl⟩

theorem reportPolicy_keeps (run : Run) (server : ServerInfo) (policy : Option FirewallPolicy) :
    (run.reportPolicy server policy).nodes = run.nodes ∧
      (run.reportPolicy server policy).cache = run.cache := by
  cases policy <;> exact ⟨rfl, rfl⟩

variable (client peer) in
theorem policyOf_keeps (run : Run) (reference : FirewallPolicy) :
    ((policyOf client run reference).valueFrom peer).2.nodes = run.nodes ∧
      ((policyOf client run reference).valueFrom peer).2.cache = run.cache := by
  cases kept : run.policies.lookup (policyKey reference) with
  | some policy =>
    rw [policyOf_of_kept kept]
    exact ⟨rfl, rfl⟩
  | none =>
    rw [policyOf_of_not_kept kept]
    exact keepPolicy_keeps run reference _

/-- An interface, whatever comes of its policy, leaves nodes and cache as they are. -/
theorem visitNic_keeps (run : Run) (server : ServerInfo) (nic : Nic) :
    ((visitNic client server run nic).valueFrom peer).nodes = run.nodes ∧
      ((visitNic client server run nic).valueFrom peer).cache = run.cache := by
  cases bound : nic.firewallPolicy with
  | none =>
    rw [visitNic, bound]
    exact ⟨rfl, rfl⟩
  | some reference =>
    rw [visitNic_of_reference run server bound]
    obtain ⟨nodes, cache⟩ := policyOf_keeps client peer run reference
    obtain ⟨nodesToo, cacheToo⟩ := reportPolicy_keeps
      ((policyOf client run reference).valueFrom peer).2 server
      (policyTaken client peer run reference)
    exact ⟨nodesToo.trans nodes, cacheToo.trans cache⟩

theorem Faithful.of_keeps {run other : Run} {visited : List ServerInfo}
    (faithful : run.Faithful client peer visited)
    (kept : other.nodes = run.nodes ∧ other.cache = run.cache) :
    other.Faithful client peer visited where
  cache := kept.2 ▸ faithful.cache
  nodes := kept.1.trans faithful.nodes

theorem Faithful.after_nics {run : Run} {visited : List ServerInfo}
    (faithful : run.Faithful client peer visited) (server : ServerInfo) (nics : List Nic) :
    ((nics.foldlM (visitNic client server) run).valueFrom peer).Faithful client peer visited := by
  induction nics generalizing run with
  | nil => exact faithful
  | cons nic rest ih =>
    rw [List.foldlM_cons, Session.valueFrom_bind]
    exact ih (faithful.of_keeps (visitNic_keeps run server nic))

theorem addNode_keeps (run : Run) (server : ServerInfo) (node : Outcome ComputeNode) :
    (run.addNode server node).nodes = run.nodes ++ node.toOption.toList ∧
      (run.addNode server node).cache = run.cache := by
  cases node with
  | ok node => exact ⟨rfl, rfl⟩
  | error e => exact ⟨(List.append_nil _).symm, rfl⟩

/-- A server adds its node, if it has one. -/
theorem Faithful.after_enter {run : Run} {visited : List ServerInfo}
    (faithful : run.Faithful client peer visited) (server : ServerInfo) :
    ((enter client eviction run server).valueFrom peer).Faithful client peer
      (visited ++ [server]) := by
  obtain ⟨node, agrees⟩ := ComputeAdapter.node_from eviction faithful.cache server
  rw [enter, Session.valueFrom_bind]
  obtain ⟨nodes, cache⟩ := addNode_keeps
    { run with cache :=
        ((ComputeAdapter.node client.driveLookup eviction run.cache server).valueFrom peer).2 }
    server ((ComputeAdapter.node client.driveLookup eviction run.cache server).valueFrom peer).1
  refine ⟨?_, nodes.trans ?_⟩
  · exact cache ▸ agrees
  · rw [node, faithful.nodes, List.filterMap_append, List.filterMap_cons, List.filterMap_nil]
    cases (client.nodeFrom peer server).toOption <;> rfl

theorem Faithful.after_server {run : Run} {visited : List ServerInfo}
    (faithful : run.Faithful client peer visited) (server : ServerInfo) :
    ((visitServer client eviction run server).valueFrom peer).Faithful client peer
      (visited ++ [server]) := by
  rw [visitServer_eq, Session.valueFrom_bind]
  exact (faithful.after_enter server).after_nics server server.nics

variable (eviction) in
theorem Faithful.after_servers {run : Run} {visited : List ServerInfo}
    (faithful : run.Faithful client peer visited) (servers : List ServerInfo) :
    ((servers.foldlM (visitServer client eviction) run).valueFrom peer).Faithful client peer
      (visited ++ servers) := by
  induction servers generalizing run visited with
  | nil =>
    rw [List.append_nil]
    exact faithful
  | cons server rest ih =>
    rw [List.foldlM_cons, Session.valueFrom_bind, List.append_cons]
    exact ih (faithful.after_server server)

variable (client peer) in
theorem faithful_begun (count : Nat) : (begun count).Faithful client peer [] where
  cache _ member := absurd member List.not_mem_nil
  nodes := rfl

/-! ## The requests of a run -/

theorem requestsTo_resolve (reference : FirewallPolicy) :
    (client.resolveFirewallPolicy reference).requestsTo peer =
      if reference.isBare then [client.policyRequest (policyKey reference)] else [] := by
  unfold Client.resolveFirewallPolicy FirewallPolicy.isBare policyKey
  cases reference.uuid with
  | none => rfl
  | some uuid => cases reference.rules.isEmpty <;> rfl

theorem policyRequest_inj {uuid other : String} :
    client.policyRequest uuid = client.policyRequest other ↔ uuid = other :=
  client.itemRequest_inj (by decide)

theorem driveRequest_ne_policyRequest (uuid other : String) :
    client.driveRequest uuid ≠ client.policyRequest other := by
  have drives : Config.IsRelative "drives/" := by decide
  have policies : Config.IsRelative "fwpolicies/" := by decide
  apply client.pathRequest_ne (Client.isRelative_itemPath drives uuid)
    (Client.isRelative_itemPath policies other)
  rw [Client.head?_itemPath drives, Client.head?_itemPath policies]
  decide

theorem serversRequest_ne_policyRequest (uuid : String) :
    client.serversRequest ≠ client.policyRequest uuid := by
  have servers : Config.IsRelative (Client.listPath "servers/detail/") := by decide
  have policies : Config.IsRelative "fwpolicies/" := by decide
  apply client.pathRequest_ne servers (Client.isRelative_itemPath policies uuid)
  rw [Client.head?_itemPath policies]
  decide

/-- What a resolution adds to the requests for a policy. -/
theorem count_resolve (reference : FirewallPolicy) (uuid : String) :
    ((client.resolveFirewallPolicy reference).requestsTo peer).count (client.policyRequest uuid) =
      if policyKey reference = uuid ∧ reference.isBare = true then 1 else 0 := by
  rw [requestsTo_resolve]
  cases reference.isBare with
  | false => simp
  | true => simp [List.count_singleton, policyRequest_inj]

/-- A reference counts if it is bare and the first with its key. -/
theorem timesAsked_concat (seen : List FirewallPolicy) (reference : FirewallPolicy)
    (uuid : String) :
    timesAsked (seen ++ [reference]) uuid = timesAsked seen uuid +
      match seen.find? (hasKeyOf reference) with
      | some _ => 0
      | none => if policyKey reference = uuid ∧ reference.isBare = true then 1 else 0 := by
  unfold timesAsked
  rw [List.find?_append]
  by_cases same : policyKey reference = uuid
  · subst same
    have own : [reference].find? (fun other => policyKey other == policyKey reference) =
        some reference := List.find?_cons_of_pos (beq_self_eq_true _)
    have sameTest : (fun other => policyKey other == policyKey reference) =
        hasKeyOf reference := rfl
    rw [own, sameTest]
    cases seen.find? (hasKeyOf reference) with
    | some first => rfl
    | none => simp
  · have other : [reference].find? (fun other => policyKey other == uuid) = none :=
      List.find?_cons_of_neg (by simpa using same)
    rw [other, Option.or_none]
    cases seen.find? (hasKeyOf reference) with
    | some first => rfl
    | none => simp [same]

/-- What a reference adds to the requests for a policy. -/
theorem count_policyOf {run : Run} {seen : List FirewallPolicy}
    (memo : run.Memoizes client peer seen) (reference : FirewallPolicy) (uuid : String) :
    timesAsked (seen ++ [reference]) uuid = timesAsked seen uuid +
      ((policyOf client run reference).requestsTo peer).count (client.policyRequest uuid) := by
  have kept : run.policies.lookup (policyKey reference) =
      (seen.find? (hasKeyOf reference)).map (client.resolvedFrom peer) := memo _
  rw [timesAsked_concat, policyOf, kept]
  cases seen.find? (hasKeyOf reference) with
  | some first => rfl
  | none =>
    show _ = _ + ((client.resolveFirewallPolicy reference >>= _).requestsTo peer).count _
    rw [Session.requestsTo_bind, List.count_append, count_resolve]
    rfl

theorem count_visitNic {run : Run} {seen : List FirewallPolicy}
    (memo : run.Memoizes client peer seen) (server : ServerInfo) (nic : Nic) (uuid : String) :
    timesAsked (seen ++ nic.firewallPolicy.toList) uuid = timesAsked seen uuid +
      ((visitNic client server run nic).requestsTo peer).count (client.policyRequest uuid) := by
  unfold visitNic
  cases nic.firewallPolicy with
  | none =>
    rw [Option.toList_none, List.append_nil]
    rfl
  | some reference =>
    show _ = _ + ((policyOf client run reference >>= _).requestsTo peer).count _
    rw [Session.requestsTo_bind, List.count_append, ← Nat.add_assoc, ← count_policyOf memo]
    rfl

theorem count_visitNics {run : Run} {seen : List FirewallPolicy}
    (memo : run.Memoizes client peer seen) (server : ServerInfo) (nics : List Nic)
    (uuid : String) :
    timesAsked (seen ++ nics.filterMap Nic.firewallPolicy) uuid = timesAsked seen uuid +
      ((nics.foldlM (visitNic client server) run).requestsTo peer).count
        (client.policyRequest uuid) := by
  induction nics generalizing run seen with
  | nil =>
    rw [List.filterMap_nil, List.append_nil]
    rfl
  | cons nic rest ih =>
    have split : (nic :: rest).filterMap Nic.firewallPolicy =
        nic.firewallPolicy.toList ++ rest.filterMap Nic.firewallPolicy := by
      rw [List.filterMap_cons]
      cases nic.firewallPolicy <;> rfl
    rw [List.foldlM_cons, Session.requestsTo_bind, List.count_append, ← Nat.add_assoc,
      ← count_visitNic memo, split, ← List.append_assoc]
    exact ih (memo.after_nic server nic)

/-- The node of a server adds no request for a policy. -/
theorem count_enter (run : Run) (server : ServerInfo) (uuid : String) :
    ((enter client eviction run server).requestsTo peer).count (client.policyRequest uuid) = 0 := by
  rw [List.count_eq_zero, enter, Session.requestsTo_bind]
  intro member
  rcases List.mem_append.1 member with asked | none
  · obtain ⟨drive, same⟩ := ComputeAdapter.requestsTo_node run.cache server _ asked
    exact driveRequest_ne_policyRequest drive uuid same.symm
  · exact absurd none List.not_mem_nil

variable (eviction) in
/-- A run asks for a policy as often as the references that it comes across say. -/
theorem count_visitServers {run : Run} {seen : List FirewallPolicy}
    (memo : run.Memoizes client peer seen) (servers : List ServerInfo) (uuid : String) :
    timesAsked (seen ++ servers.flatMap ServerInfo.policyReferences) uuid =
      timesAsked seen uuid +
        ((servers.foldlM (visitServer client eviction) run).requestsTo peer).count
          (client.policyRequest uuid) := by
  induction servers generalizing run seen with
  | nil =>
    rw [List.flatMap_nil, List.append_nil]
    rfl
  | cons server rest ih =>
    have entered := memo.after_enter eviction server
    rw [List.foldlM_cons, Session.requestsTo_bind, List.count_append, visitServer_eq,
      Session.requestsTo_bind, List.count_append, count_enter, Nat.zero_add, ← Nat.add_assoc,
      ← count_visitNics entered, Session.valueFrom_bind, List.flatMap_cons, ← List.append_assoc]
    exact ih (entered.after_nics server server.nics)

theorem timesAsked_le_one (seen : List FirewallPolicy) (uuid : String) :
    timesAsked seen uuid ≤ 1 := by
  unfold timesAsked
  split <;> decide

end Run

end

/-! ## The inventory -/

namespace Client

variable (client : Client) (eviction : EvictionPolicy) (peer : Request → Delivery)

/-- A run whose servers cannot be listed ends at once. -/
theorem inventory_of_error {e : ServiceError} (failed : client.serversFrom peer = .error e) :
    (client.inventory eviction).valueFrom peer = .failed "Failed to list servers" e := by
  rw [inventory, Session.valueFrom_bind]
  rw [serversFrom] at failed
  rw [failed]
  rfl

theorem inventory_of_servers {servers : List ServerInfo}
    (listed : client.serversFrom peer = .ok servers) :
    (client.inventory eviction).valueFrom peer =
      ((visitServers client eviction servers).valueFrom peer).finish := by
  rw [inventory, Session.valueFrom_bind]
  rw [serversFrom] at listed
  rw [listed]
  exact Session.valueFrom_bind peer (visitServers client eviction servers) _

/-- The lines of a run are those of its servers, each as it is without the others. -/
theorem output_of_servers {servers : List ServerInfo}
    (listed : client.serversFrom peer = .ok servers) :
    ((client.inventory eviction).valueFrom peer).output =
      servers.filterMap (client.lineFrom peer) := by
  have faithful := (faithful_begun client peer servers.length).after_servers eviction servers
  rw [inventory_of_servers client eviction peer listed]
  show List.map ComputeNode.line
    ((servers.foldlM (visitServer client eviction) (begun servers.length)).valueFrom peer).nodes = _
  rw [faithful.nodes, List.nil_append, List.map_filterMap]
  rfl

theorem serversFrom_eq :
    client.serversFrom peer =
      list ServerInfo (absentIfNotFound (peer client.serversRequest).payload) :=
  rfl

theorem driveFrom_eq (uuid : String) :
    client.driveFrom peer uuid =
      single DriveInfo (absentIfNotFound (peer (client.driveRequest uuid)).payload) :=
  rfl

/-- A server has no line if its boot drive cannot be looked up, and only then. -/
theorem lineFrom_eq_none_iff (server : ServerInfo) :
    client.lineFrom peer server = none ↔
      ∃ e, ComputeAdapter.directImage (client.driveFrom peer) server = .error e := by
  rw [lineFrom, nodeFrom]
  cases ComputeAdapter.directImage (client.driveFrom peer) server with
  | ok image => exact ⟨fun noLine => (nomatch noLine), fun ⟨_, fails⟩ => nomatch fails⟩
  | error e => exact ⟨fun _ => ⟨e, rfl⟩, fun _ => rfl⟩

/-- The line of a server says what there is to say of it. -/
theorem prints_lineFrom (server : ServerInfo) :
    ∀ line ∈ client.lineFrom peer server, client.Prints peer server line := by
  intro line member
  rw [lineFrom, nodeFrom] at member
  cases found : ComputeAdapter.directImage (client.driveFrom peer) server with
  | ok image =>
    rw [found] at member
    obtain rfl := Option.some.inj member
    exact ⟨image, _, found, ComputeNode.describes_nodeWith server image,
      ComputeNode.parse?_line _⟩
  | error e =>
    rw [found] at member
    exact nomatch member

/-- The line of a server depends on what is said of its boot drive, and on nothing else. -/
theorem lineFrom_congr {other : Request → Delivery} {server : ServerInfo}
    (same : ∀ uuid, server.bootDriveUuid = some uuid →
      other (client.driveRequest uuid) = peer (client.driveRequest uuid)) :
    client.lineFrom other server = client.lineFrom peer server := by
  have image : ComputeAdapter.directImage (client.driveFrom other) server =
      ComputeAdapter.directImage (client.driveFrom peer) server := by
    unfold ComputeAdapter.directImage
    split
    next uuid boots =>
      rw [driveFrom_eq, driveFrom_eq, same uuid boots]
    next => rfl
  rw [lineFrom, nodeFrom, image]
  rfl

/-- How often a run over servers asks for a policy. -/
theorem count_visitServers_begun (servers : List ServerInfo) (uuid : String) :
    ((visitServers client eviction servers).requestsTo peer).count (client.policyRequest uuid) =
      timesAsked (servers.flatMap ServerInfo.policyReferences) uuid := by
  have start : (begun servers.length).Memoizes client peer [] := fun _ => rfl
  have asked := count_visitServers eviction start servers uuid
  rw [List.nil_append, show timesAsked [] uuid = 0 from rfl, Nat.zero_add] at asked
  exact asked.symm

theorem requestsTo_inventory :
    (client.inventory eviction).requestsTo peer = client.serversRequest ::
      match client.serversFrom peer with
      | .error _ => []
      | .ok servers => (visitServers client eviction servers).requestsTo peer := by
  rw [inventory, Session.requestsTo_bind]
  show client.serversRequest :: Session.requestsTo peer (match client.serversFrom peer with
    | .error e => pure _
    | .ok servers => visitServers client eviction servers >>= _) = _
  cases client.serversFrom peer with
  | error e => rfl
  | ok servers =>
    refine congrArg _ ((Session.requestsTo_bind peer _ _).trans ?_)
    exact List.append_nil _

/-- No policy is asked for twice, whatever comes of the first request. -/
theorem count_policyRequest_le_one (uuid : String) :
    ((client.inventory eviction).requestsTo peer).count (client.policyRequest uuid) ≤ 1 := by
  rw [requestsTo_inventory, List.count_cons_of_ne (serversRequest_ne_policyRequest uuid)]
  cases client.serversFrom peer with
  | error e => exact Nat.zero_le 1
  | ok servers =>
    show ((visitServers client eviction servers).requestsTo peer).count _ ≤ 1
    rw [count_visitServers_begun]
    exact timesAsked_le_one _ _

theorem filterMap_around {α β : Type} (f : α → Option β) (before after : List α) (item : α) :
    (before ++ item :: after).filterMap f =
      before.filterMap f ++ (f item).toList ++ after.filterMap f := by
  rw [List.filterMap_append, List.filterMap_cons, List.append_assoc]
  cases f item <;> rfl

/-- Every run of an inventory, at any peer that answers a request always alike: if the
servers cannot be listed, it fails and prints nothing; otherwise it prints the lines of
the servers whose boot drive can be looked up, in order. A line is read as the node of its
server, made without a cache. What is said of policies and of the boot drives of other
servers neither removes nor changes it, and no policy is asked for twice. -/
theorem inventory_outcome (client : Client) (eviction : EvictionPolicy)
    (peer : Request → Delivery) :
    let session := client.inventory eviction
    let report := session.valueFrom peer
    (∀ e, client.serversFrom peer = .error e →
      report.failure = some ⟨"Failed to list servers", e⟩ ∧ report.exitCode = 1 ∧
        report.output = []) ∧
    (∀ servers, client.serversFrom peer = .ok servers →
      report.failure = none ∧ report.exitCode = 0 ∧
        report.output = servers.filterMap (client.lineFrom peer)) ∧
    (∀ server,
      (client.lineFrom peer server = none ↔
        ∃ e, ComputeAdapter.directImage (client.driveFrom peer) server = .error e) ∧
      ∀ line ∈ client.lineFrom peer server, client.Prints peer server line) ∧
    (∀ line ∈ report.output, '\n' ∉ line.toList) ∧
    (∀ (other : Request → Delivery) (before after : List ServerInfo) (server : ServerInfo),
      client.serversFrom peer = .ok (before ++ server :: after) →
      client.serversFrom other = .ok (before ++ server :: after) →
      (∀ uuid, server.bootDriveUuid = some uuid →
        other (client.driveRequest uuid) = peer (client.driveRequest uuid)) →
      report.output = before.filterMap (client.lineFrom peer) ++
        (client.lineFrom peer server).toList ++ after.filterMap (client.lineFrom peer) ∧
      (session.valueFrom other).output = before.filterMap (client.lineFrom other) ++
        (client.lineFrom peer server).toList ++ after.filterMap (client.lineFrom other)) ∧
    (∀ uuid, (session.requestsTo peer).count (client.policyRequest uuid) ≤ 1) := by
  intro session report
  refine ⟨?_, ?_, ?_, ?_, ?_, ?_⟩
  · intro e failed
    have ends : report = .failed "Failed to list servers" e :=
      inventory_of_error client eviction peer failed
    rw [ends]
    exact ⟨rfl, rfl, rfl⟩
  · intro servers listed
    have ends : report.failure = none := by
      show Report.failure (Session.valueFrom peer (client.inventory eviction)) = none
      rw [inventory_of_servers client eviction peer listed]
      rfl
    refine ⟨ends, ?_, output_of_servers client eviction peer listed⟩
    rw [Report.exitCode, ends]
    rfl
  · exact fun server =>
      ⟨lineFrom_eq_none_iff client peer server, prints_lineFrom client peer server⟩
  · intro line member
    obtain ⟨node, -, rfl⟩ := List.mem_map.1 member
    exact Json.newline_notMem_compact _
  · intro other before after server listed listedToo same
    constructor
    · rw [← filterMap_around]
      exact output_of_servers client eviction peer listed
    · rw [← lineFrom_congr client peer same, ← filterMap_around]
      exact output_of_servers client eviction other listedToo
  · exact count_policyRequest_le_one client eviction peer

end Client

/-! ## Two servers with one policy -/

namespace RunOutcomeExamples

open Config.EndpointExamples (client)

/-- The body of a listing of two servers with one policy. -/
def listing : String :=
  "[\x7b\"drives\":[\x7b\"boot_order\":1,\"drive\":\"d1\"\x7d]," ++
      "\"nics\":[\x7b\"firewall_policy\":\"p\"\x7d]\x7d," ++
    "\x7b\"drives\":[\x7b\"boot_order\":1,\"drive\":\"d2\"\x7d]," ++
      "\"nics\":[\x7b\"firewall_policy\":\"p\"\x7d]\x7d]"

/-- The listing can be had, and the drive of the second server; all else is answered
alike. -/
def peer (rest : Delivery) (request : Request) : Delivery :=
  if request = client.serversRequest then .ok ⟨200, listing⟩
  else if request = client.driveRequest "d2" then .ok ⟨200, "\x7b\"name\": \"Ubuntu\"\x7d"⟩
  else rest

/-- Nothing else can be had. -/
def failing : Request → Delivery :=
  peer (.error "no route")

/-- Nothing else exists. -/
def missing : Request → Delivery :=
  peer (.ok ⟨404, ""⟩)

/-- A listed server that boots from a drive. -/
def booting (drive : String) : ServerInfo :=
  { drives := [{ bootOrder := 1, driveUuid := some drive, drive := some { uuid := some drive } }]
    nics := [{ firewallPolicy := some { uuid := some "p" } }] }

/-- The line of a listed server with an image. -/
def lineOf (drive image : String) : String :=
  "\x7b\"id\":null,\"name\":null,\"status\":\"unrecognized\",\"cpu_mhz\":null," ++
    "\"cores\":null,\"memory\":null,\"public_addresses\":[],\"private_addresses\":[]," ++
    "\"boot_drive\":\"" ++ drive ++ "\",\"image\":" ++ image ++ ",\"tags\":[]\x7d"

end RunOutcomeExamples

open Config.EndpointExamples (client)
open RunOutcomeExamples

/-- The first server is skipped where its boot drive cannot be looked up; the second has
the same line in either case, and the policy is asked for once. -/
theorem Client.inventory_outcome_skipped :
    ((client.inventory .newest).valueFrom failing).output = [lineOf "d2" "\"Ubuntu\""] ∧
      ((client.inventory .newest).valueFrom missing).output =
        [lineOf "d1" "null", lineOf "d2" "\"Ubuntu\""] ∧
      client.Prints failing (booting "d2") (lineOf "d2" "\"Ubuntu\"") ∧
      ((client.inventory .newest).requestsTo failing).count (client.policyRequest "p") ≤ 1 := by
  have parsed : (Client.list ServerInfo (absentIfNotFound
      (Delivery.payload (.ok ⟨200, listing⟩)))).toOption =
        some [booting "d1", booting "d2"] := by decide +kernel
  have lists (rest : Delivery) :
      client.serversFrom (peer rest) = .ok ([booting "d1"] ++ booting "d2" :: []) := by
    rw [Client.serversFrom_eq, peer, if_pos rfl]
    generalize Client.list ServerInfo _ = outcome at parsed ⊢
    cases outcome with
    | ok servers => exact congrArg Except.ok (Option.some.inj parsed)
    | error e => exact nomatch parsed
  have told (rest : Delivery) :
      peer rest (client.driveRequest "d2") = .ok ⟨200, "\x7b\"name\": \"Ubuntu\"\x7d"⟩ := by
    rw [peer, if_neg (by decide +kernel), if_pos rfl]
  have skipped : client.lineFrom failing (booting "d1") = none := by decide +kernel
  have absent : client.lineFrom missing (booting "d1") = some (lineOf "d1" "null") := by
    decide +kernel
  have named : client.lineFrom failing (booting "d2") = some (lineOf "d2" "\"Ubuntu\"") := by
    decide +kernel
  obtain ⟨-, -, lines, -, others, once⟩ := Client.inventory_outcome client .newest failing
  obtain ⟨first, second⟩ := others missing [booting "d1"] [] (booting "d2")
    (lists _) (lists _) (by
      rintro uuid ⟨⟩
      exact (told _).trans (told _).symm)
  rw [List.filterMap_cons_none skipped, named] at first
  rw [List.filterMap_cons_some absent, named] at second
  exact ⟨first, second, (lines _).2 _ named, once "p"⟩

end CloudInventory
