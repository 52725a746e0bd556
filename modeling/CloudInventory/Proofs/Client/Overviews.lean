import CloudInventory.Proofs.Client.ItemRequests

/-!
# Requests without an argument

An operation that takes nothing asks for all resources of a type, or for the only one that an
account has, and is one request for a path of its own. What it asks for tells it from all
others that take nothing, and from those on a resource, whatever the identifier is: only the
servers with the tag `..` are all servers.

Results:
1. `Client.Overview.retrieves_session`: what every operation asks for and how it is read.
2. `Client.Overview.target_request`: where it is asked for.
3. `Client.Overview.target_inj` and `Client.Overview.target_eq_iff`: what is asked for by
   other operations.
4. `Client.overview_requests`: where the requests of an operation go.
-/

namespace CloudInventory.Client

open Url

/-! ## Operations -/

/-- The operations that take nothing. -/
inductive Overview where
  | servers
  | serversDetail
  | drivesDetail
  | libraryDrives
  | firewallPoliciesDetail
  | vlansDetail
  | ipsDetail
  | tagsDetail
  | subscriptions
  | pricing
  | discounts
  | transactions
  | licenses
  | balance
  | currentUsage
  | profile
  deriving DecidableEq, Repr

namespace Overview

/-- What the operation yields. -/
def Result : Overview → Type
  | servers => List Server
  | serversDetail => List ServerInfo
  | drivesDetail => List DriveInfo
  | libraryDrives => List LibraryDrive
  | firewallPoliciesDetail => List FirewallPolicy
  | vlansDetail => List VlanInfo
  | ipsDetail => List IpInfo
  | tagsDetail => List Tag
  | subscriptions => List Subscription
  | pricing => List Pricing
  | discounts => List Discount
  | transactions => List Transaction
  | licenses => List License
  | balance => Option Balance
  | currentUsage => Option AccountUsage
  | profile => Option ProfileInfo

def session (client : Client) : (x : Overview) → Session (Outcome x.Result)
  | servers => client.listServers
  | serversDetail => client.listServersDetail
  | drivesDetail => client.listDrivesDetail
  | libraryDrives => client.listLibraryDrives
  | firewallPoliciesDetail => client.listFirewallPoliciesDetail
  | vlansDetail => client.listVlansDetail
  | ipsDetail => client.listIpsDetail
  | tagsDetail => client.listTagsDetail
  | subscriptions => client.listSubscriptions
  | pricing => client.listPricing
  | discounts => client.listDiscounts
  | transactions => client.listTransactions
  | licenses => client.listLicenses
  | balance => client.balance
  | currentUsage => client.currentUsage
  | profile => client.profile

/-- The names of the path. -/
def names : Overview → List (List Char)
  | servers => ["servers".toList]
  | serversDetail => ["servers".toList, "detail".toList]
  | drivesDetail => ["drives".toList, "detail".toList]
  | libraryDrives => ["libdrives".toList]
  | firewallPoliciesDetail => ["fwpolicies".toList, "detail".toList]
  | vlansDetail => ["vlans".toList, "detail".toList]
  | ipsDetail => ["ips".toList, "detail".toList]
  | tagsDetail => ["tags".toList, "detail".toList]
  | subscriptions => ["subscriptions".toList]
  | pricing => ["pricing".toList]
  | discounts => ["discount".toList]
  | transactions => ["ledger".toList]
  | licenses => ["licenses".toList]
  | balance => ["balance".toList]
  | currentUsage => ["currentusage".toList]
  | profile => ["profile".toList]

/-- The query; there is none where nothing is paginated. -/
def query : Overview → String
  | discounts | balance | currentUsage | profile => ""
  | _ => allItems

def path (x : Overview) : String :=
  String.ofList (folder x.names) ++ x.query

/-- The request of the operation. -/
def request (x : Overview) (client : Client) : Request :=
  client.request .get x.path none

end Overview

/-- All resources of a type are asked for at a path, or the only one. -/
inductive Retrieves (client : Client) (path : String) :
    {β : Type} → Session (Outcome β) → Prop where
  | one (α : Type) [Resource α] : Retrieves client path (client.getOne α path)
  | all (α : Type) [Resource α] : Retrieves client path (client.getList α path)

theorem Retrieves.of_eq {client : Client} {path other : String} {β : Type}
    {session : Session (Outcome β)} (retrieves : client.Retrieves path session)
    (same : path = other) : client.Retrieves other session :=
  same ▸ retrieves

/-- Whoever retrieves something sends one request, whatever becomes of it. -/
theorem Retrieves.requestsTo_eq {client : Client} {path : String} {β : Type}
    {session : Session (Outcome β)} (retrieves : client.Retrieves path session)
    (peer : Request → Delivery) :
    session.requestsTo peer = [client.request .get path none] := by
  cases retrieves <;> rfl

namespace Overview

/-- What an operation is for: all but three of them are for a list. -/
theorem retrieves_session (x : Overview) (client : Client) :
    client.Retrieves x.path (x.session client) := by
  cases x with
  | balance | currentUsage | profile => exact (Retrieves.one _).of_eq (by decide)
  | _ => exact (Retrieves.all _).of_eq (by decide)

/-! ## Paths -/

variable (x : Overview)

theorem path_toList : x.path.toList = folder x.names ++ x.query.toList := by
  rw [path, String.toList_append, String.toList_ofList]

theorem isRelative_path : Config.IsRelative x.path := by
  cases x <;> decide

theorem isSegmentChar_of_mem_names : ∀ name ∈ x.names, ∀ c ∈ name, IsSegmentChar c := by
  cases x <;> decide

theorem isProper_of_mem_names : ∀ name ∈ x.names, IsProper name := by
  cases x <;> decide

theorem isQuery : Config.IsQuery x.query.toList := by
  cases x <;> exact ⟨by decide, by decide, by decide⟩

/-- An operation is known from the names of its path. -/
theorem names_inj {x other : Overview} (same : x.names = other.names) : x = other := by
  revert same
  cases x <;> cases other <;> decide

theorem length_names_le : x.names.length ≤ 2 := by
  cases x <;> decide

/-- What is not paginated is no collection of resources. -/
theorem names_of_query_eq_empty (noQuery : x.query = "") :
    ∃ name, x.names = [name] ∧ ∀ collection : Collection, collection.name.toList ≠ name := by
  cases x with
  | discounts | balance | currentUsage | profile =>
    exact ⟨_, rfl, fun collection => by cases collection <;> decide⟩
  | _ => exact absurd noQuery (by decide)

/-- A path with an identifier leaves other names, unless it is for the servers with the tag
`..`. -/
theorem eq_serversDetail_of_names {x : Overview} {call : Call} {id : String}
    (names : call.addressed id = x.names) (query : call.part.query = x.query) :
    call.part = .servers ∧ id = ".." ∧ x = .serversDetail := by
  rw [Call.addressed] at names
  cases part : call.part with
  | whole =>
    -- Such an operation has one name, but no collection is called so.
    rw [part] at query
    obtain ⟨name, single, other⟩ := x.names_of_query_eq_empty query.symm
    rw [part, Part.names, List.append_nil, single, Collection.addressed] at names
    split at names
    next => exact absurd (List.cons.inj names).1 (other call.collection)
    next => split at names <;> cases names
  | start | stop | clone =>
    rw [part] at query
    cases x <;> exact absurd query (by decide)
  | servers =>
    -- There is no place for a name in front of the two that are there.
    have short := x.length_names_le
    rw [← names, part, List.length_append] at short
    have none : call.collection.addressed id = [] := by
      rw [← List.length_eq_zero_iff]
      exact Nat.le_zero.1 (Nat.le_of_add_le_add_right short)
    rw [none, part] at names
    exact ⟨rfl, Collection.addressed_eq_nil_iff.1 none, names_inj names.symm⟩

end Overview

/-! ## What is asked for -/

section

variable {client : Client} (hosted : client.config.Hosted) (bare : client.config.IsBare)

include hosted bare

namespace Overview

theorem target_toList (x : Overview) :
    (x.request client).target.toList =
      client.root.toList ++ (folder x.names ++ x.query.toList) := by
  have text : x.path.toList.dropWhile Config.isSlash = folder x.names ++ x.query.toList := by
    rw [x.isRelative_path.dropWhile_eq, path_toList]
  exact target_of_names hosted bare text x.isSegmentChar_of_mem_names
    x.isSegmentChar_of_mem_names (foldl_enter_of_proper x.isProper_of_mem_names) x.isQuery _ _

/-- The path of the operation stands behind that of the endpoint. -/
theorem target_request (x : Overview) :
    (x.request client).target = client.root ++ x.path := by
  rw [← String.toList_inj, target_toList hosted bare, String.toList_append, path_toList]

/-- An operation is known from what is asked for with it. -/
theorem target_inj {x other : Overview}
    (same : (x.request client).target = (other.request client).target) : x = other := by
  have chars := congrArg String.toList same
  rw [target_toList hosted bare, target_toList hosted bare] at chars
  exact names_inj (folder_query_inj x.isSegmentChar_of_mem_names other.isSegmentChar_of_mem_names
    x.isQuery other.isQuery (List.append_cancel_left chars)).1

/-- What is asked for with an identifier is something else, unless it is for all servers. -/
theorem target_eq_iff (x : Overview) (call : Call) (id : String) :
    (call.request client id).target = (x.request client).target ↔
      call.part = .servers ∧ id = ".." ∧ x = .serversDetail := by
  constructor
  · intro same
    have chars := congrArg String.toList same
    rw [Call.target_request hosted bare, target_toList hosted bare] at chars
    obtain ⟨names, query⟩ := folder_query_inj (call.isSegmentChar_of_mem_addressed id)
      x.isSegmentChar_of_mem_names call.part.isQuery x.isQuery (List.append_cancel_left chars)
    exact eq_serversDetail_of_names names (String.toList_inj.1 query)
  · rintro ⟨part, rfl, rfl⟩
    rw [Call.target_parent hosted bare, part, target_request hosted bare]
    exact congrArg (client.root ++ ·) (by decide)

end Overview

end

/-! ## Where requests go -/

/-- Where an operation without an argument goes if the endpoint has a host and neither a query
nor a fragment. It sends one request without a body to the host of the endpoint, whatever the
peer answers, and retrieves what it is for. What it asks for is the path of the endpoint with
its own behind it, which tells it from all others without an argument. It is asked for with
no identifier, by any operation, except that the servers with the tag `..` are all servers. -/
theorem overview_requests {client : Client} (hosted : client.config.Hosted)
    (bare : client.config.IsBare) (overview : Overview) :
    let request := overview.request client
    client.Retrieves overview.path (overview.session client) ∧
    (∀ peer, (overview.session client).requestsTo peer = [request]) ∧
    authorityChars request.url.toList = authorityChars client.config.endpoint.toList ∧
    request.target = client.root ++ overview.path ∧
    (∀ other : Overview, (other.request client).target = request.target → other = overview) ∧
    (∀ (operation : ItemOperation) (id : String),
      (operation.call.request client id).target = request.target ↔
        operation = .listTaggedServers ∧ id = ".." ∧ overview = .serversDetail) := by
  intro request
  have accepted : client.config.Accepted := .validated client.valid
  obtain ⟨scheme, base, n, parts⟩ := accepted.exists_parts
  have retrieves := overview.retrieves_session client
  refine ⟨retrieves, retrieves.requestsTo_eq, Config.authorityChars_url parts hosted _,
    overview.target_request hosted bare, fun _ same => Overview.target_inj hosted bare same,
    fun operation id => ?_⟩
  have tagged : operation.call.part = .servers ↔ operation = .listTaggedServers := by
    cases operation <;> simp [ItemOperation.call]
  rw [overview.target_eq_iff hosted bare, tagged]

end CloudInventory.Client
