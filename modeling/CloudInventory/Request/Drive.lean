import CloudInventory.Request.Basic
import CloudInventory.Resource.DriveInfo

/-!
# Request bodies of drives

What is sent to create, change or clone a drive.
-/

namespace CloudInventory

instance : Sendable DriveInfo where
  requestBody x := .ofFields [
    ("name", Member.text x.name),
    ("size", Member.magnitude x.size),
    ("media", Member.token x.media),
    ("allow_multimount", Member.flag x.allowMultimount),
    ("storage_type", Member.text x.storageType),
    ("affinities", Member.texts x.affinities),
    ("meta", Member.metadata x.metadata),
    ("tags", Member.tags x.tags)]

/-- What the clone of a drive has of its own. -/
structure CloneRequest where
  name : Option String := none
  media : Option MediaType := none
  affinities : List String := []
  deriving DecidableEq, Inhabited

/-- The media of a clone is written as it is, also when it is not recognized. -/
instance : Sendable CloneRequest where
  requestBody x := .ofFields [
    ("name", Member.text x.name),
    ("media", x.media.map Token.toJson),
    ("affinities", Member.texts x.affinities)]

end CloudInventory
