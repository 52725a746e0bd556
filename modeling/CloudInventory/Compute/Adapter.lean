import CloudInventory.Client.Error
import CloudInventory.Compute.DriveCache
import CloudInventory.Compute.Node

/-!
# The compute adapter

The node of a server names the image that the server boots from, which takes the
details of its boot drive. They come from a lookup, and what it finds is kept in a
cache. Neither a failure nor a drive that does not exist is kept, so the next
server that boots from it asks again.

A lookup may have effects of any kind `m`; the cache is passed on from step to step.
-/

namespace CloudInventory

/-- A source of drive details; a drive that does not exist yields `none`. -/
abbrev DriveLookup (m : Type → Type) : Type :=
  String → m (Outcome (Option DriveInfo))

/-- The cache after a lookup of a uuid: details that were found are kept. -/
def DriveCache.learn (policy : EvictionPolicy) (cache : DriveCache) (uuid : String) :
    Outcome (Option DriveInfo) → DriveCache
  | .ok (some drive) => cache.insert policy uuid drive
  | _ => cache

namespace ComputeAdapter

variable {m : Type → Type} [Monad m]

/-- The details of a drive, from the cache if it has them. -/
def driveInfo (lookup : DriveLookup m) (policy : EvictionPolicy) (cache : DriveCache)
    (uuid : String) : m (Outcome (Option DriveInfo) × DriveCache) :=
  match cache.get? uuid with
  | some drive => pure (.ok (some drive), cache)
  | none => do
    let found ← lookup uuid
    pure (found, cache.learn policy uuid found)

/-- The details of the drive that a server boots from; `none` if it boots from no
drive, or if the drive does not exist. -/
def bootImage (lookup : DriveLookup m) (policy : EvictionPolicy) (cache : DriveCache)
    (server : ServerInfo) : m (Outcome (Option DriveInfo) × DriveCache) :=
  match server.bootDriveUuid with
  | some uuid => driveInfo lookup policy cache uuid
  | none => pure (.ok none, cache)

/-- The node of a server with the details of its boot drive. -/
def nodeWith (server : ServerInfo) (image : Option DriveInfo) : ComputeNode :=
  .ofServer server server.bootDriveUuid (image.bind DriveInfo.name)

/-- The node of a server. -/
def node (lookup : DriveLookup m) (policy : EvictionPolicy) (cache : DriveCache)
    (server : ServerInfo) : m (Outcome ComputeNode × DriveCache) := do
  let (image, cache) ← bootImage lookup policy cache server
  pure (image.map (nodeWith server), cache)

end ComputeAdapter

end CloudInventory
