import CloudInventory.Compute.Adapter

/-!
# Calls that share a cache

Several calls of one adapter may be under way at once. Each of them takes its steps
in order: it reads the cache, asks the lookup if the cache has nothing, and has the
cache learn what it was told. Between two steps of a call others may take theirs, new
calls may begin, and the cache may give up any entry. An interleaving is the list of
these events.
-/

namespace CloudInventory

/-! ## Calls -/

/-- What a call asks the adapter for. -/
inductive AdapterQuery where
  | bootImage
  | node
  deriving DecidableEq, Repr

/-- What a call is answered. -/
inductive AdapterAnswer where
  | bootImage (image : Outcome (Option DriveInfo))
  | node (node : Outcome ComputeNode)

/-- The answer to a query, once the image is known. -/
def AdapterQuery.answer (server : ServerInfo) (image : Outcome (Option DriveInfo)) :
    AdapterQuery → AdapterAnswer
  | bootImage => .bootImage image
  | node => .node (image.map (ComputeAdapter.nodeWith server))

/-- How far a call has come. -/
inductive AdapterPhase where
  /-- The cache is to be read. -/
  | begun
  /-- The cache has nothing, and the lookup is to be asked. -/
  | missed (uuid : String)
  /-- The lookup has answered, and the cache is to learn it. -/
  | told (uuid : String) (image : Outcome (Option DriveInfo))
  /-- The call is over. -/
  | done (image : Outcome (Option DriveInfo))

namespace AdapterPhase

/-- A call for a server after it has read the cache. -/
def read (cache : DriveCache) (server : ServerInfo) : AdapterPhase :=
  match server.bootDriveUuid with
  | none => done (.ok none)
  | some uuid =>
    match cache.get? uuid with
    | some drive => done (.ok (some drive))
    | none => missed uuid

/-- The cache and the call after the next step of a call for a server. -/
def next (lookup : String → Outcome (Option DriveInfo)) (policy : EvictionPolicy)
    (cache : DriveCache) (server : ServerInfo) : AdapterPhase → DriveCache × AdapterPhase
  | begun => (cache, read cache server)
  | missed uuid => (cache, told uuid (lookup uuid))
  | told uuid image => (cache.learn policy uuid image, done image)
  | done image => (cache, done image)

/-- The greatest number of steps that are left. -/
def remaining : AdapterPhase → Nat
  | begun => 3
  | missed _ => 2
  | told _ _ => 1
  | done _ => 0

/-- The image, once the call is over. -/
def image? : AdapterPhase → Option (Outcome (Option DriveInfo))
  | done image => some image
  | _ => none

end AdapterPhase

/-- A call of the adapter. -/
structure AdapterCall where
  query : AdapterQuery
  server : ServerInfo
  phase : AdapterPhase := .begun

/-- The answer, once the call is over. -/
def AdapterCall.answer? (call : AdapterCall) : Option AdapterAnswer :=
  call.phase.image?.map fun image => call.query.answer call.server image

/-! ## Interleavings -/

/-- What may happen next. -/
inductive AdapterEvent where
  /-- A call begins. -/
  | begin (query : AdapterQuery) (server : ServerInfo)
  /-- A call takes its next step; an insertion evicts by the given rule. -/
  | advance (index : Nat) (policy : EvictionPolicy)
  /-- The cache gives up an entry. -/
  | evict (uuid : String)

/-- Whether the event is a step of the call with the given index. -/
def AdapterEvent.advances (index : Nat) : AdapterEvent → Bool
  | advance other _ => other == index
  | _ => false

/-- An adapter with all calls that have begun, in order. -/
structure SharedAdapter where
  cache : DriveCache
  calls : List AdapterCall := []

namespace SharedAdapter

/-- An adapter that has not been called. -/
def fresh (capacity : Nat) : SharedAdapter where
  cache := .empty capacity

variable (lookup : String → Outcome (Option DriveInfo))

/-- The adapter after a step of one of its calls. -/
def advance (adapter : SharedAdapter) (index : Nat) (policy : EvictionPolicy) : SharedAdapter :=
  match adapter.calls[index]? with
  | none => adapter
  | some call =>
    let (cache, phase) := call.phase.next lookup policy adapter.cache call.server
    { cache, calls := adapter.calls.set index { call with phase } }

/-- The adapter after an event. -/
def step (adapter : SharedAdapter) : AdapterEvent → SharedAdapter
  | .begin query server =>
    { adapter with calls := adapter.calls ++ [{ query, server }] }
  | .advance index policy => adapter.advance lookup index policy
  | .evict uuid => { adapter with cache := adapter.cache.remove uuid }

/-- The adapter after the events of an interleaving. -/
def run (adapter : SharedAdapter) (events : List AdapterEvent) : SharedAdapter :=
  events.foldl (step lookup) adapter

/-- What the call with the given index has been answered. -/
def answerOf? (adapter : SharedAdapter) (index : Nat) : Option AdapterAnswer :=
  adapter.calls[index]?.bind AdapterCall.answer?

end SharedAdapter

/-! ## Without a cache -/

namespace ComputeAdapter

/-- The details of the drive that a server boots from, as the lookup gives them. -/
def directImage (lookup : String → Outcome (Option DriveInfo)) (server : ServerInfo) :
    Outcome (Option DriveInfo) :=
  match server.bootDriveUuid with
  | some uuid => lookup uuid
  | none => .ok none

end ComputeAdapter

end CloudInventory
