import CloudInventory.Client.Operations
import CloudInventory.Compute.Ingress

/-!
# The inventory

Lists the servers of an account as compute nodes, one line each, and logs how many
permissions the firewall policies of their interfaces grant. A server whose boot
drive cannot be looked up is skipped, and so is a policy that cannot be resolved;
only a failure before the first server ends the run. A policy is resolved at most
once: what came of it is kept under its uuid.
-/

namespace CloudInventory

/-! ## Reports -/

inductive LogLevel where
  | info
  | warn
  deriving DecidableEq, Repr

def LogLevel.text : LogLevel → String
  | info => "INFO"
  | warn => "WARN"

/-- A line of the log. -/
structure LogEntry where
  level : LogLevel
  message : String
  deriving DecidableEq, Repr

/-- Why a run ends early. -/
structure RunFailure where
  /-- What was to be done. -/
  context : String
  cause : ServiceError
  deriving DecidableEq

/-- The lines that say why a run ends early. -/
def RunFailure.lines (x : RunFailure) : List String :=
  ["Error: " ++ x.context, "", "Caused by:"] ++
    (x.cause.message.splitOn "\n").map ("    " ++ ·)

/-- What a run leaves. -/
structure Report where
  nodes : List ComputeNode := []
  log : List LogEntry := []
  failure : Option RunFailure := none

namespace Report

/-- The report of a run that ends before the first server. -/
def failed (context : String) (cause : ServiceError) : Report :=
  { failure := some ⟨context, cause⟩ }

/-- The exit code of the program. -/
def exitCode (x : Report) : UInt32 :=
  if x.failure.isSome then 1 else 0

end Report

/-! ## Runs -/

/-- A run in progress. -/
structure Run where
  cache : DriveCache := .empty DriveCache.defaultCapacity
  /-- What came of resolving policies, by uuid. -/
  policies : List (String × Option FirewallPolicy) := []
  nodes : List ComputeNode := []
  log : List LogEntry := []

namespace Run

/-- The run with one more line in its log. -/
def write (run : Run) (level : LogLevel) (message : String) : Run :=
  { run with log := run.log ++ [⟨level, message⟩] }

/-- The run after the node of a server has been asked for. -/
def addNode (run : Run) (server : ServerInfo) : Outcome ComputeNode → Run
  | .ok node => { run with nodes := run.nodes ++ [node] }
  | .error e =>
    run.write .warn ("Skipping server " ++ Text.quotedOption server.uuid ++ ": " ++ e.message)

/-- The key under which the policy of a reference is kept. -/
def policyKey (reference : FirewallPolicy) : String :=
  reference.uuid.getD ""

/-- The run after a reference has been resolved, and the policy. -/
def keepPolicy (run : Run) (reference : FirewallPolicy) :
    Outcome (Option FirewallPolicy) → Option FirewallPolicy × Run
  | .ok policy => (policy, { run with policies := (policyKey reference, policy) :: run.policies })
  | .error e =>
    let run := run.write .warn
      ("Failed to resolve firewall policy " ++ Text.quotedOption reference.uuid ++ ": " ++
        e.message)
    (none, { run with policies := (policyKey reference, none) :: run.policies })

/-- The policy of a reference, resolved unless that has been tried before. -/
def policyOf (client : Client) (run : Run) (reference : FirewallPolicy) :
    Session (Option FirewallPolicy × Run) :=
  match run.policies.lookup (policyKey reference) with
  | some policy => pure (policy, run)
  | none => do
    let resolved ← client.resolveFirewallPolicy reference
    pure (run.keepPolicy reference resolved)

/-- The run after it has been logged what a policy grants to a server. -/
def reportPolicy (run : Run) (server : ServerInfo) : Option FirewallPolicy → Run
  | some policy =>
    run.write .info
      ("Server " ++ Text.quotedOption server.name ++ " policy " ++
        Text.quotedOption policy.name ++ ": " ++
        Text.numeralText policy.ingressPermissions.length ++ " ingress permission(s)")
  | none => run

/-- The run after an interface of a server. -/
def visitNic (client : Client) (server : ServerInfo) (run : Run) (nic : Nic) : Session Run :=
  match nic.firewallPolicy with
  | some reference => do
    let (policy, run) ← policyOf client run reference
    pure (run.reportPolicy server policy)
  | none => pure run

/-- The run after a server. -/
def visitServer (client : Client) (eviction : EvictionPolicy) (run : Run) (server : ServerInfo) :
    Session Run := do
  let (node, cache) ← ComputeAdapter.node client.driveLookup eviction run.cache server
  let run := addNode { run with cache } server node
  server.nics.foldlM (visitNic client server) run

/-- The run over a list of servers. -/
def visitServers (client : Client) (eviction : EvictionPolicy) (servers : List ServerInfo) :
    Session Run :=
  let start : Run := {}
  servers.foldlM (visitServer client eviction)
    (start.write .info ("Found " ++ Text.numeralText servers.length ++ " server(s)"))

/-- The report of a run that has come to its end. -/
def finish (run : Run) : Report :=
  let run := run.write .info
    ("Drive cache holds " ++ Text.numeralText run.cache.size ++ " entr(ies)")
  { nodes := run.nodes, log := run.log }

end Run

/-! ## The program -/

/-- The inventory of the account of a client. -/
def Client.inventory (client : Client) (eviction : EvictionPolicy) : Session Report := do
  match ← client.listServersDetail with
  | .error e => pure (.failed "Failed to list servers" e)
  | .ok servers =>
    let run ← Run.visitServers client eviction servers
    pure run.finish

/-- The inventory of the account that environment variables describe. -/
def inventory (eviction : EvictionPolicy) (lookup : String → Option String) : Session Report :=
  match Config.fromEnvironment lookup with
  | .error e =>
    pure (.failed
      "CloudSigma credentials missing. Set CLOUDSIGMA_USERNAME and CLOUDSIGMA_PASSWORD" e)
  | .ok config =>
    match Client.connect config with
    | .error e => pure (.failed "Failed to create CloudSigma client" e)
    | .ok client => client.inventory eviction

end CloudInventory
