import CloudInventory.Resource.ServerInfo

/-!
# Boot drives

A server boots from the attached drive with the highest boot order; the first of
them in the order of attachment, if several have it. Without a boot order a drive
is never booted from.
-/

namespace CloudInventory

/-- The better of two attachments: the later one wins only with a higher boot order. -/
def ServerDrive.preferred (best : Option ServerDrive) (candidate : ServerDrive) :
    Option ServerDrive :=
  match best with
  | some current => if candidate.bootOrder ≤ current.bootOrder then some current else some candidate
  | none => some candidate

namespace ServerInfo

/-- The attachment of the drive that the server boots from. -/
def bootDrive (x : ServerInfo) : Option ServerDrive :=
  (x.drives.filter ServerDrive.hasBootOrder).foldl ServerDrive.preferred none

/-- The uuid of the drive that the server boots from, as far as it is known. -/
def bootDriveUuid (x : ServerInfo) : Option String :=
  x.bootDrive.bind ServerDrive.attachedUuid

end ServerInfo

end CloudInventory
