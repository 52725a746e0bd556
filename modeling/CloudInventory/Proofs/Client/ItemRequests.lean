import CloudInventory.Client.Operations
import CloudInventory.Proofs.Client.Endpoints
import CloudInventory.Proofs.Client.PathResolution
import CloudInventory.Proofs.Client.Segments

/-!
# Requests for a resource

An operation on a resource asks for the path of the endpoint, the collection, the identifier
as one segment, and what the operation has behind it. Whatever the identifier is made of, it
stays in its segment, so that nothing else is ever asked for, except for two of them: `.` and
`..` need no escape, but are not names. With the one an operation addresses the collection
instead of a resource, with the other what the collection stands in.

Results:
1. `Client.ItemOperation.requestsTo_eq`: the one request of every operation.
2. `Config.target_url`: what is asked for with the URL of a path.
3. `Client.target_of_names` and `Client.Call.target_request`: what is asked for with the names
   of a path, and with an identifier.
4. `Client.Call.target_inj`: identifiers are told apart by what is asked for.
5. `Client.item_requests`: where the requests of an operation go, for every identifier.
-/

namespace CloudInventory

namespace Client

/-! ## Operations -/

/-- The collections with resources that can be asked for. -/
inductive Collection where
  | servers
  | drives
  | libraryDrives
  | firewallPolicies
  | vlans
  | ips
  | tags
  | subscriptions
  deriving DecidableEq, Repr

namespace Collection

def name : Collection → String
  | servers => "servers"
  | drives => "drives"
  | libraryDrives => "libdrives"
  | firewallPolicies => "fwpolicies"
  | vlans => "vlans"
  | ips => "ips"
  | tags => "tags"
  | subscriptions => "subscriptions"

def path : Collection → String
  | servers => "servers/"
  | drives => "drives/"
  | libraryDrives => "libdrives/"
  | firewallPolicies => "fwpolicies/"
  | vlans => "vlans/"
  | ips => "ips/"
  | tags => "tags/"
  | subscriptions => "subscriptions/"

end Collection

/-- What an operation has behind the path of a resource. -/
inductive Part where
  | whole
  | start
  | stop
  | clone
  | servers
  deriving DecidableEq, Repr

namespace Part

/-- The path of a part of a resource. -/
def pathIn (collection id : String) : Part → String
  | whole => itemPath collection id
  | start => actionPath collection id "start"
  | stop => actionPath collection id "stop"
  | clone => actionPath collection id "clone"
  | servers => listPath (itemPath collection id ++ "servers/detail/")

/-- The names behind the identifier. -/
def names : Part → List (List Char)
  | whole => []
  | start | stop | clone => ["action".toList]
  | servers => ["servers".toList, "detail".toList]

def query : Part → String
  | whole => ""
  | start => "?do=start"
  | stop => "?do=stop"
  | clone => "?do=clone"
  | servers => "?limit=0"

/-- The text behind the identifier. -/
def suffix : Part → String
  | whole => ""
  | start => "action/?do=start"
  | stop => "action/?do=stop"
  | clone => "action/?do=clone"
  | servers => "servers/detail/?limit=0"

end Part

/-- A request as far as it is the same for all resources of a collection. -/
structure Call where
  method : Method
  collection : Collection
  part : Part
  body : Option Json

namespace Call

/-- The request for a resource. -/
def request (x : Call) (client : Client) (id : String) : Request :=
  client.request x.method (x.part.pathIn x.collection.path id) x.body

end Call

/-- The operations that take the identifier of a resource, with what else they take. -/
inductive ItemOperation where
  | getServer
  | editServer (server : ServerInfo)
  | deleteServer
  | startServer
  | stopServer
  | getDrive
  | editDrive (drive : DriveInfo)
  | deleteDrive
  | cloneDrive (clone : CloneRequest)
  | getLibraryDrive
  | getFirewallPolicy
  | editFirewallPolicy (policy : FirewallPolicy)
  | deleteFirewallPolicy
  | getVlan
  | editVlan (vlan : VlanInfo)
  | getIp
  | editIp (ip : IpInfo)
  | getTag
  | editTag (tag : Tag)
  | deleteTag
  | listTaggedServers
  | getSubscription

namespace ItemOperation

/-- The requests that a peer gets when the operation is carried out. -/
def requestsTo (client : Client) (id : String) (peer : Request → Delivery) :
    ItemOperation → List Request
  | getServer => (client.getServer id).requestsTo peer
  | editServer server => (client.editServer id server).requestsTo peer
  | deleteServer => (client.deleteServer id).requestsTo peer
  | startServer => (client.startServer id).requestsTo peer
  | stopServer => (client.stopServer id).requestsTo peer
  | getDrive => (client.getDrive id).requestsTo peer
  | editDrive drive => (client.editDrive id drive).requestsTo peer
  | deleteDrive => (client.deleteDrive id).requestsTo peer
  | cloneDrive clone => (client.cloneDrive id clone).requestsTo peer
  | getLibraryDrive => (client.getLibraryDrive id).requestsTo peer
  | getFirewallPolicy => (client.getFirewallPolicy id).requestsTo peer
  | editFirewallPolicy policy => (client.editFirewallPolicy id policy).requestsTo peer
  | deleteFirewallPolicy => (client.deleteFirewallPolicy id).requestsTo peer
  | getVlan => (client.getVlan id).requestsTo peer
  | editVlan vlan => (client.editVlan id vlan).requestsTo peer
  | getIp => (client.getIp id).requestsTo peer
  | editIp ip => (client.editIp id ip).requestsTo peer
  | getTag => (client.getTag id).requestsTo peer
  | editTag tag => (client.editTag id tag).requestsTo peer
  | deleteTag => (client.deleteTag id).requestsTo peer
  | listTaggedServers => (client.listTaggedServers id).requestsTo peer
  | getSubscription => (client.getSubscription id).requestsTo peer

/-- What the operation sends. -/
def call : ItemOperation → Call
  | getServer => ⟨.get, .servers, .whole, none⟩
  | editServer server => ⟨.put, .servers, .whole, some (Sendable.requestBody server)⟩
  | deleteServer => ⟨.delete, .servers, .whole, none⟩
  | startServer => ⟨.post, .servers, .start, none⟩
  | stopServer => ⟨.post, .servers, .stop, none⟩
  | getDrive => ⟨.get, .drives, .whole, none⟩
  | editDrive drive => ⟨.put, .drives, .whole, some (Sendable.requestBody drive)⟩
  | deleteDrive => ⟨.delete, .drives, .whole, none⟩
  | cloneDrive clone => ⟨.post, .drives, .clone, some (Sendable.requestBody clone)⟩
  | getLibraryDrive => ⟨.get, .libraryDrives, .whole, none⟩
  | getFirewallPolicy => ⟨.get, .firewallPolicies, .whole, none⟩
  | editFirewallPolicy policy =>
    ⟨.put, .firewallPolicies, .whole, some (Sendable.requestBody policy)⟩
  | deleteFirewallPolicy => ⟨.delete, .firewallPolicies, .whole, none⟩
  | getVlan => ⟨.get, .vlans, .whole, none⟩
  | editVlan vlan => ⟨.put, .vlans, .whole, some (Sendable.requestBody vlan)⟩
  | getIp => ⟨.get, .ips, .whole, none⟩
  | editIp ip => ⟨.put, .ips, .whole, some (Sendable.requestBody ip)⟩
  | getTag => ⟨.get, .tags, .whole, none⟩
  | editTag tag => ⟨.put, .tags, .whole, some (Sendable.requestBody tag)⟩
  | deleteTag => ⟨.delete, .tags, .whole, none⟩
  | listTaggedServers => ⟨.get, .tags, .servers, none⟩
  | getSubscription => ⟨.get, .subscriptions, .whole, none⟩

/-- An operation sends one request, whatever becomes of it. -/
theorem requestsTo_eq (operation : ItemOperation) (client : Client) (id : String)
    (peer : Request → Delivery) :
    operation.requestsTo client id peer = [operation.call.request client id] := by
  cases operation <;> rfl

end ItemOperation

/-! ## The names of a path -/

open Url

namespace Collection

theorem path_toList (collection : Collection) :
    collection.path.toList = folder [collection.name.toList] := by
  cases collection <;> decide

theorem isSegmentChar_of_mem_name (collection : Collection) :
    ∀ c ∈ collection.name.toList, IsSegmentChar c := by
  cases collection <;> decide

theorem isProper_name (collection : Collection) : IsProper collection.name.toList := by
  cases collection <;> decide

theorem isRelative_path (collection : Collection) : Config.IsRelative collection.path := by
  cases collection <;> decide

end Collection

namespace Part

variable (part : Part)

theorem pathIn_eq (collection id : String) :
    part.pathIn collection id = itemPath collection id ++ part.suffix := by
  cases part with
  | whole => exact String.append_empty.symm
  | start | stop | clone => exact String.append_assoc
  | servers => exact String.append_assoc

theorem suffix_toList : part.suffix.toList = folder part.names ++ part.query.toList := by
  cases part <;> decide

theorem isSegmentChar_of_mem_names : ∀ name ∈ part.names, ∀ c ∈ name, IsSegmentChar c := by
  cases part <;> decide

theorem isProper_of_mem_names : ∀ name ∈ part.names, IsProper name := by
  cases part <;> decide

theorem query_inj {other : Part} (same : part.query = other.query) : part = other := by
  revert same
  cases part <;> cases other <;> decide

end Part

end Client

/-! ## What is asked for -/

namespace Config

variable {config : Config} {scheme base : String} {n : Nat}

/-- The endpoint has neither a query nor a fragment. -/
def IsBare (config : Config) : Prop :=
  ∀ c ∈ config.endpoint.toList, Url.endsPath c = false

instance (config : Config) : Decidable config.IsBare :=
  List.decidableBAll _ config.endpoint.toList

/-- The path of the endpoint, as it is written. -/
def basePath (config : Config) : List Char :=
  Url.afterAuthority (Url.readChars (trimSlashes config.endpoint.toList))

/-- The endpoint's path stands in front of every path, with a slash between the two. -/
theorem afterAuthority_url (parts : Parts config.endpoint scheme base n) (hosted : config.Hosted)
    (path : String) :
    Url.afterAuthority (Url.readChars (config.url path).toList) =
      config.basePath ++ '/' :: Url.readChars (path.toList.dropWhile isSlash) := by
  have other := parts.hosted_iff.1 hosted
  have filled : base ≠ "" := by
    rintro rfl
    obtain ⟨c, member, -⟩ := other
    cases member
  rw [Url.afterAuthority, afterScheme_url parts, Url.dropWhile_append_of_exists other,
    Url.dropWhile_append_cons rfl, basePath, parts.trimSlashes_of_base filled, Url.afterAuthority,
    afterScheme_scheme parts.listed]

theorem IsBare.of_mem_basePath (bare : config.IsBare) :
    ∀ c ∈ config.basePath, Url.endsPath c = false := by
  intro c member
  have behind : config.basePath.Sublist (Url.readChars (trimSlashes config.endpoint.toList)) :=
    (List.dropWhile_sublist _).trans ((List.dropWhile_sublist _).trans
      ((List.drop_sublist _ _).trans (List.dropWhile_sublist _)))
  have kept : c ∈ trimSlashes config.endpoint.toList :=
    (Url.mem_readChars.1 (behind.subset member)).1
  rw [trimSlashes, List.mem_reverse] at kept
  exact bare c (List.mem_reverse.1 ((List.dropWhile_sublist _).subset kept))

/-- A query that is asked for as it is written, if there is one. -/
structure IsQuery (query : List Char) : Prop where
  begins : query.head?.all Url.endsPath = true
  read : Url.readChars query = query
  kept : Url.queryChars query = query

namespace IsQuery

variable {query otherQuery path otherPath : List Char}

/-- The path ends where the query begins. -/
theorem split (isQuery : IsQuery query) (inPath : ∀ c ∈ path, Url.endsPath c = false) :
    (path ++ query).takeWhile (fun c => !Url.endsPath c) = path ∧
      (path ++ query).dropWhile (fun c => !Url.endsPath c) = query := by
  have goesOn : ∀ c ∈ path, (!Url.endsPath c) = true := fun c member => by
    rw [inPath c member]; rfl
  rw [List.takeWhile_append_of_pos goesOn, List.dropWhile_append_of_pos goesOn]
  cases query with
  | nil => exact ⟨List.append_nil _, rfl⟩
  | cons c query =>
    have ends : Url.endsPath c = true := isQuery.begins
    simp [ends]

theorem append_inj (isQuery : IsQuery query) (isOther : IsQuery otherQuery)
    (inPath : ∀ c ∈ path, Url.endsPath c = false)
    (inOther : ∀ c ∈ otherPath, Url.endsPath c = false)
    (same : path ++ query = otherPath ++ otherQuery) : path = otherPath ∧ query = otherQuery := by
  obtain ⟨front, back⟩ := isQuery.split inPath
  obtain ⟨frontOther, backOther⟩ := isOther.split inOther
  rw [same] at front back
  exact ⟨front.symm.trans frontOther, back.symm.trans backOther⟩

end IsQuery

/-- What is asked for with the URL of a path: the path of the endpoint with the path behind it,
resolved, and the query. -/
theorem target_url (parts : Parts config.endpoint scheme base n) (hosted : config.Hosted)
    (bare : config.IsBare) {path : String} {front query : List Char}
    (text : path.toList.dropWhile isSlash = front ++ query)
    (plain : ∀ c ∈ front, Url.isIgnored c = false ∧ Url.endsPath c = false)
    (isQuery : IsQuery query) :
    Url.target (config.url path) =
      String.ofList (Url.pathChars (config.basePath ++ '/' :: front) ++ query) := by
  have readFront : Url.readChars front = front :=
    List.filter_eq_self.2 fun c member => by rw [(plain c member).1]; rfl
  have behind : Url.afterAuthority (Url.readChars (config.url path).toList) =
      (config.basePath ++ '/' :: front) ++ query := by
    rw [afterAuthority_url parts hosted, text, Url.readChars_append, readFront, isQuery.read,
      List.append_assoc, List.cons_append]
  have inPath : ∀ c ∈ config.basePath ++ '/' :: front, Url.endsPath c = false :=
    List.forall_mem_append.2 ⟨bare.of_mem_basePath,
      List.forall_mem_cons.2 ⟨rfl, fun c member => (plain c member).2⟩⟩
  obtain ⟨front, back⟩ := isQuery.split inPath
  rw [Url.target, behind, front, back, isQuery.kept]

end Config

namespace Client

open Url

/-- What is asked for with the endpoint itself. -/
def root (client : Client) : String :=
  Url.target (client.config.url "")

/-- The names that are left of those of a resource in the collection. -/
def Collection.addressed (collection : Collection) (id : String) : List (List Char) :=
  if id = "." then [collection.name.toList]
  else if id = ".." then []
  else [collection.name.toList, segmentChars id.toList]

namespace Collection

variable {collection other : Collection} {id otherId : String}

/-- An identifier is left as it is exactly if it is neither of the two. -/
theorem addressed_eq_iff :
    collection.addressed id = [collection.name.toList, segmentChars id.toList] ↔
      id ≠ "." ∧ id ≠ ".." := by
  unfold addressed
  split
  next current => exact iff_of_false nofun fun named => named.1 current
  next current =>
    split
    next parent => exact iff_of_false nofun fun named => named.2 parent
    next parent => exact iff_of_true rfl ⟨current, parent⟩

theorem addressed_eq_nil_iff : collection.addressed id = [] ↔ id = ".." := by
  unfold addressed
  split
  next current => exact iff_of_false (List.cons_ne_nil _ _) (by rw [current]; decide)
  next =>
    split
    next parent => exact iff_of_true rfl parent
    next named => exact iff_of_false (List.cons_ne_nil _ _) named

/-- What an identifier leaves on a stack of names. -/
theorem enter_name_segment (done : List (List Char)) :
    enter (enter done collection.name.toList) (segmentChars id.toList) =
      (collection.addressed id).reverse ++ done := by
  rw [enter_of_proper collection.isProper_name, enter, addressed]
  by_cases parent : id = ".."
  · subst parent
    rfl
  · rw [if_neg (mt isParent_segmentChars.1 parent), if_neg parent]
    by_cases current : id = "."
    · subst current
      rfl
    · rw [if_neg (mt isCurrent_segmentChars.1 current), if_neg current]
      rfl

theorem isSegmentChar_of_mem_addressed :
    ∀ name ∈ collection.addressed id, ∀ c ∈ name, IsSegmentChar c := by
  have inName := collection.isSegmentChar_of_mem_name
  unfold addressed
  split
  next => exact List.forall_mem_singleton.2 inName
  next =>
    split
    next => exact List.forall_mem_nil _
    next => exact List.forall_mem_cons.2 ⟨inName, List.forall_mem_singleton.2 isSegmentChar_of_mem⟩

/-- An identifier is known from the names that it leaves: how many they are tells `.` and `..`
from the others, and each other. -/
theorem addressed_inj (same : collection.addressed id = other.addressed otherId) :
    id = otherId := by
  have count := congrArg List.length same
  unfold addressed at same count
  by_cases current : id = "." <;> by_cases currentOther : otherId = "."
  · exact current.trans currentOther.symm
  · rw [if_pos current, if_neg currentOther] at count
    split at count <;> cases count
  · rw [if_neg current, if_pos currentOther] at count
    split at count <;> cases count
  · rw [if_neg current, if_neg currentOther] at same count
    by_cases parent : id = ".." <;> by_cases parentOther : otherId = ".."
    · exact parent.trans parentOther.symm
    · rw [if_pos parent, if_neg parentOther] at count
      cases count
    · rw [if_neg parent, if_pos parentOther] at count
      cases count
    · rw [if_neg parent, if_neg parentOther] at same
      have segments := (List.cons.inj (List.cons.inj same).2).1
      exact segment_inj.1 (congrArg String.ofList segments)

end Collection

section

variable {names : List (List Char)} (segmentChars : ∀ name ∈ names, ∀ c ∈ name, IsSegmentChar c)

include segmentChars

theorem areSingle_of_segmentChars : AreSingle names :=
  fun name member c inside => (segmentChars name member c inside).stands.2.1

theorem arePlain_of_segmentChars : ArePlain names :=
  fun name member c inside => (segmentChars name member c inside).stands.1

theorem stands_of_mem_folder :
    ∀ c ∈ folder names, isIgnored c = false ∧ endsPath c = false := by
  intro c member
  obtain ⟨name, listed, inside⟩ := List.mem_flatMap.1 member
  rcases List.mem_append.1 inside with inName | slash
  · obtain ⟨-, -, noEnd, kept⟩ := (segmentChars name listed c inName).stands
    exact ⟨kept, noEnd⟩
  · rw [List.mem_singleton.1 slash]
    exact ⟨rfl, rfl⟩

/-- Names and a query behind them are known from the text. -/
theorem folder_query_inj {other : List (List Char)} {query otherQuery : List Char}
    (otherChars : ∀ name ∈ other, ∀ c ∈ name, IsSegmentChar c) (isQuery : Config.IsQuery query)
    (isOther : Config.IsQuery otherQuery)
    (same : folder names ++ query = folder other ++ otherQuery) :
    names = other ∧ query = otherQuery := by
  obtain ⟨folders, queries⟩ := isQuery.append_inj isOther
    (fun c member => (stands_of_mem_folder segmentChars c member).2)
    (fun c member => (stands_of_mem_folder otherChars c member).2) same
  exact ⟨folder_inj (areSingle_of_segmentChars segmentChars)
    (areSingle_of_segmentChars otherChars) folders, queries⟩

end

theorem Part.isQuery (part : Part) : Config.IsQuery part.query.toList := by
  cases part <;> exact ⟨by decide, by decide, by decide⟩

namespace Call

variable {client : Client} {x other : Call} {id otherId : String}

/-- The names that the operation asks for. -/
def names (x : Call) (id : String) : List (List Char) :=
  x.collection.name.toList :: segmentChars id.toList :: x.part.names

/-- The names that are left of them. -/
def addressed (x : Call) (id : String) : List (List Char) :=
  x.collection.addressed id ++ x.part.names

theorem isSegmentChar_of_mem_names (x : Call) (id : String) :
    ∀ name ∈ x.names id, ∀ c ∈ name, IsSegmentChar c :=
  List.forall_mem_cons.2 ⟨x.collection.isSegmentChar_of_mem_name,
    List.forall_mem_cons.2 ⟨isSegmentChar_of_mem, x.part.isSegmentChar_of_mem_names⟩⟩

theorem isSegmentChar_of_mem_addressed (x : Call) (id : String) :
    ∀ name ∈ x.addressed id, ∀ c ∈ name, IsSegmentChar c :=
  List.forall_mem_append.2 ⟨Collection.isSegmentChar_of_mem_addressed,
    x.part.isSegmentChar_of_mem_names⟩

theorem foldl_enter_names (done : List (List Char)) :
    (x.names id).foldl enter done = (x.addressed id).reverse ++ done := by
  rw [names, List.foldl_cons, List.foldl_cons, Collection.enter_name_segment,
    foldl_enter_of_proper x.part.isProper_of_mem_names, addressed, List.reverse_append,
    List.append_assoc]

theorem pathIn_toList :
    (x.part.pathIn x.collection.path id).toList = folder (x.names id) ++ x.part.query.toList := by
  have slash : "/".toList = ['/'] := rfl
  rw [Part.pathIn_eq, itemPath, String.toList_append, String.toList_append, String.toList_append,
    x.collection.path_toList, x.part.suffix_toList, Url.segment, String.toList_ofList, slash, names,
    folder_cons, folder_cons, folder_cons]
  simp [folder]

theorem dropWhile_pathIn :
    (x.part.pathIn x.collection.path id).toList.dropWhile Config.isSlash =
      folder (x.names id) ++ x.part.query.toList := by
  have relative := (isRelative_itemPath x.collection.isRelative_path id).append x.part.suffix
  rw [← Part.pathIn_eq] at relative
  rw [relative.dropWhile_eq, pathIn_toList]

end Call

section

variable {client : Client} (hosted : client.config.Hosted) (bare : client.config.IsBare)

include hosted bare

theorem root_toList :
    client.root.toList = pathChars (client.config.basePath ++ ['/']) := by
  have accepted : client.config.Accepted := .validated client.valid
  obtain ⟨scheme, base, n, parts⟩ := accepted.exists_parts
  have empty : "".toList.dropWhile Config.isSlash = [] ++ [] := rfl
  have noQuery : Config.IsQuery [] := ⟨rfl, rfl, rfl⟩
  rw [root, Config.target_url parts hosted bare empty (List.forall_mem_nil _) noQuery,
    String.toList_ofList, List.append_nil]

/-- What is asked for with the names of a path and a query: the names that are left of them stand
behind the path of the endpoint. -/
theorem target_of_names {path : String} {names left : List (List Char)} {query : List Char}
    (text : path.toList.dropWhile Config.isSlash = folder names ++ query)
    (inNames : ∀ name ∈ names, ∀ c ∈ name, IsSegmentChar c)
    (inLeft : ∀ name ∈ left, ∀ c ∈ name, IsSegmentChar c)
    (leaves : ∀ done, names.foldl enter done = left.reverse ++ done)
    (isQuery : Config.IsQuery query) (method : Method) (body : Option Json) :
    (client.request method path body).target.toList =
      client.root.toList ++ (folder left ++ query) := by
  have accepted : client.config.Accepted := .validated client.valid
  obtain ⟨scheme, base, n, parts⟩ := accepted.exists_parts
  have resolved := pathChars_of_left (areSingle_of_segmentChars inNames)
    (arePlain_of_segmentChars inLeft) (leaves (entered client.config.basePath))
  rw [Request.target, Client.request, Config.target_url parts hosted bare text
    (stands_of_mem_folder inNames) isQuery, String.toList_ofList, resolved,
    root_toList hosted bare, List.append_assoc]

namespace Call

variable {x other : Call} {id otherId : String}

/-- What is asked for with an identifier stands behind the path of the endpoint. -/
theorem target_request (x : Call) (id : String) :
    (x.request client id).target.toList =
      client.root.toList ++ (folder (x.addressed id) ++ x.part.query.toList) :=
  target_of_names hosted bare dropWhile_pathIn (x.isSegmentChar_of_mem_names id)
    (x.isSegmentChar_of_mem_addressed id) foldl_enter_names x.part.isQuery x.method x.body

/-- An identifier is known from what is asked for with it. -/
theorem target_inj {x other : Call} {id otherId : String}
    (same : (x.request client id).target = (other.request client otherId).target) :
    id = otherId := by
  have chars := congrArg String.toList same
  rw [target_request hosted bare, target_request hosted bare] at chars
  obtain ⟨names, queries⟩ := folder_query_inj (x.isSegmentChar_of_mem_addressed id)
    (other.isSegmentChar_of_mem_addressed otherId) x.part.isQuery other.part.isQuery
    (List.append_cancel_left chars)
  -- The query tells what the operations have behind the identifier.
  have parts := x.part.query_inj (String.toList_inj.1 queries)
  rw [addressed, addressed, parts] at names
  exact Collection.addressed_inj (List.append_cancel_right names)

/-- The identifier stays in its segment, and all of it is asked for, unless it is `.` or `..`. -/
theorem target_eq_iff (x : Call) (id : String) :
    (x.request client id).target =
        client.root ++ (itemPath x.collection.path id ++ x.part.suffix) ↔
      id ≠ "." ∧ id ≠ ".." := by
  have inNames := x.isSegmentChar_of_mem_names id
  have inAddressed := x.isSegmentChar_of_mem_addressed id
  have folders : folder (x.addressed id) = folder (x.names id) ↔ x.addressed id = x.names id :=
    ⟨folder_inj (areSingle_of_segmentChars inAddressed) (areSingle_of_segmentChars inNames),
      congrArg folder⟩
  have appended : x.names id =
      [x.collection.name.toList, segmentChars id.toList] ++ x.part.names := rfl
  rw [← Part.pathIn_eq, ← String.toList_inj, target_request hosted bare, String.toList_append,
    pathIn_toList, List.append_cancel_left_eq, List.append_cancel_right_eq, folders, addressed,
    appended, List.append_cancel_right_eq, Collection.addressed_eq_iff]

/-- With `.` the collection is addressed instead of a resource. -/
theorem target_current (x : Call) :
    (x.request client ".").target = client.root ++ (x.collection.path ++ x.part.suffix) := by
  have folders : folder (x.addressed ".") =
      folder [x.collection.name.toList] ++ folder x.part.names := folder_append ..
  rw [← String.toList_inj, target_request hosted bare, String.toList_append, String.toList_append,
    x.collection.path_toList, x.part.suffix_toList, folders, List.append_assoc (folder _)]

/-- With `..` neither of them is. -/
theorem target_parent (x : Call) :
    (x.request client "..").target = client.root ++ x.part.suffix := by
  rw [← String.toList_inj, target_request hosted bare, String.toList_append, x.part.suffix_toList]
  rfl

theorem target_ne_root (x : Call) (named : id ≠ "." ∧ id ≠ "..") :
    (x.request client id).target ≠ client.root := by
  intro same
  have chars := congrArg String.toList same
  rw [target_request hosted bare, addressed, Collection.addressed_eq_iff.2 named,
    List.append_right_eq_self, List.cons_append, folder_cons] at chars
  simp at chars

/-- What is asked for with any other identifier stands in the collection and nowhere else. -/
theorem name_of_isPrefix (x : Call) {id first : String} (named : id ≠ "." ∧ id ≠ "..")
    (single : ∀ c ∈ first.toList, isSeparator c = false)
    (begins : (client.root ++ first ++ "/").toList <+: (x.request client id).target.toList) :
    first = x.collection.name := by
  have slash : "/".toList = ['/'] := rfl
  have separator : isSeparator '/' = true := rfl
  have singleName := areSingle_of_segmentChars (x.isSegmentChar_of_mem_names id)
  rw [target_request hosted bare, addressed, Collection.addressed_eq_iff.2 named,
    String.toList_append, String.toList_append, List.append_assoc, List.prefix_append_right_inj,
    slash, List.cons_append, folder_cons] at begins
  obtain ⟨rest, same⟩ := begins
  rw [List.append_assoc, List.append_assoc, List.cons_append, List.cons_append] at same
  -- Both texts have their first segment before the slash.
  have heads := congrArg (fun cs => (segments cs).head?) same
  simp only [segments_append_separator separator, segments_of_single single,
    segments_of_single (singleName _ List.mem_cons_self), List.cons_append, List.head?_cons]
    at heads
  exact String.toList_inj.1 (Option.some.inj heads)

end Call

end

/-! ## Where requests go -/

/-- Where an operation goes if the endpoint has a host and neither a query nor a fragment. It
sends one request to the host of the endpoint. What it asks for is the path of the endpoint,
the collection, the identifier as a segment and what the operation has behind it, exactly if
the identifier is neither `.` nor `..`; with the one the segment is missing, with the other the
collection too. The segment is one segment whatever the identifier is, and is read back as the
identifier. What is asked for, by any operation, tells identifiers apart, and unless they are
one of the two it is neither the path of the endpoint nor in another collection. -/
theorem item_requests {client : Client} (hosted : client.config.Hosted)
    (bare : client.config.IsBare) (operation : ItemOperation) (id : String) :
    let call := operation.call
    let request := call.request client id
    (∀ peer, operation.requestsTo client id peer = [request]) ∧
    authorityChars request.url.toList = authorityChars client.config.endpoint.toList ∧
    (request.target = client.root ++ (itemPath call.collection.path id ++ call.part.suffix) ↔
      id ≠ "." ∧ id ≠ "..") ∧
    (id = "." → request.target = client.root ++ (call.collection.path ++ call.part.suffix)) ∧
    (id = ".." → request.target = client.root ++ call.part.suffix) ∧
    (segments (segment id).toList = [(segment id).toList] ∧
      unescapedBytes (segment id).toList = id.toList.flatMap String.utf8EncodeChar) ∧
    (∀ (other : ItemOperation) (otherId : String),
      (other.call.request client otherId).target = request.target → otherId = id) ∧
    (id ≠ "." ∧ id ≠ ".." → request.target ≠ client.root ∧
      ∀ first : String, (∀ c ∈ first.toList, isSeparator c = false) →
        (client.root ++ first ++ "/").toList <+: request.target.toList →
          first = call.collection.name) := by
  intro call request
  have accepted : client.config.Accepted := .validated client.valid
  obtain ⟨scheme, base, n, parts⟩ := accepted.exists_parts
  refine ⟨operation.requestsTo_eq client id, ?host, call.target_eq_iff hosted bare id, ?current,
    ?parent, ⟨?single, ?readBack⟩, fun _ _ same => Call.target_inj hosted bare same,
    fun named => ⟨call.target_ne_root hosted bare named,
      fun first single => call.name_of_isPrefix hosted bare named single⟩⟩
  case host => exact Config.authorityChars_url parts hosted _
  case current =>
    rintro rfl
    exact call.target_current hosted bare
  case parent =>
    rintro rfl
    exact call.target_parent hosted bare
  case single =>
    rw [Url.segment, String.toList_ofList]
    exact segments_of_single fun c member => (isSegmentChar_of_mem c member).stands.2.1
  case readBack =>
    rw [Url.segment, String.toList_ofList]
    exact unescapedBytes_segmentChars id.toList

/-! ## A name, and what is none -/

namespace ItemExamples

open Config.EndpointExamples (client)

theorem hosted : client.config.Hosted :=
  ⟨"https://", by decide, "zrh.cloudsigma.com/api/2.0", by decide, 'z', by decide, by decide⟩

theorem root_eq : client.root = "/api/2.0/" := by
  decide +kernel

end ItemExamples

open Config.EndpointExamples (client)
open ItemExamples in
/-- A server whose identifier looks like a path and a query is started, and nothing else. -/
theorem item_requests_escaped :
    (ItemOperation.startServer.call.request client "../a?b").target =
        "/api/2.0/servers/..%2Fa%3Fb/action/?do=start" ∧
      Url.authorityChars (ItemOperation.startServer.call.request client "../a?b").url.toList =
        "zrh.cloudsigma.com".toList ∧
      (ItemOperation.startServer.call.request client "../a?b").target ≠ client.root := by
  have named : "../a?b" ≠ "." ∧ "../a?b" ≠ ".." := by decide
  obtain ⟨-, host, target, -, -, -, -, elsewhere⟩ :=
    item_requests hosted (by decide) .startServer "../a?b"
  refine ⟨(target.2 named).trans ?_, host, (elsewhere named).1⟩
  rw [root_eq]
  decide +kernel

open ItemExamples in
/-- Whoever asks for the server with the identifier `..` asks for the path of the endpoint, and
whoever asks for the servers with the tag of this identifier asks for all servers. -/
theorem parent_is_no_name :
    (client.getServer "..").requestsTo (Session.unreachable "") =
        [client.request .get "servers/../" none] ∧
      (client.request .get "servers/../" none).target = client.root ∧
      (ItemOperation.listTaggedServers.call.request client "..").target =
        "/api/2.0/servers/detail/?limit=0" := by
  have sent : ItemOperation.getServer.call.request client ".." =
      client.request .get "servers/../" none := rfl
  refine ⟨rfl, ?_, ?_⟩
  · rw [← sent, Call.target_parent hosted (by decide)]
    exact String.append_empty
  · rw [Call.target_parent hosted (by decide), root_eq]
    decide +kernel

end Client

end CloudInventory
