import CloudInventory.Resource.Tag

/-!
# Drive details

Everything about a drive: its summary, its attributes and the software licenses
attached to it. A drive of the public library also says what is installed on it.
-/

namespace CloudInventory

/-- A metered software license. -/
structure License where
  burstable : Option Bool := none
  longName : Option String := none
  name : Option String := none
  resourceUri : Option String := none
  licenseType : Option String := none
  userMetric : Option String := none
  deriving DecidableEq, Repr, Inhabited

/-- A license attached to a drive, and who bought it. -/
structure DriveLicense where
  amount : Option Magnitude := none
  license : Option License := none
  user : Option Owner := none
  deriving DecidableEq, Repr, Inhabited

/-- A drive with all its attributes. -/
structure DriveInfo where
  drive : Drive := {}
  name : Option String := none
  size : Option Magnitude := none
  media : Option MediaType := none
  allowMultimount : Option Bool := none
  storageType : Option String := none
  affinities : List String := []
  licenses : List DriveLicense := []
  mountedOn : List Server := []
  tags : List Tag := []
  metadata : Meta := .empty
  deriving DecidableEq, Inhabited

/-- A drive of the public library. -/
structure LibraryDrive where
  info : DriveInfo := {}
  arch : Option String := none
  category : List String := []
  description : Option String := none
  favorite : Option Bool := none
  imageType : Option ImageType := none
  installNotes : Option String := none
  os : Option String := none
  paid : Option Bool := none
  url : Option String := none
  deriving DecidableEq, Inhabited

/-! ## Licenses -/

namespace License

def ofRecord (record : Json) : Except DecodeError License :=
  .ok {
    burstable := record.flagField "burstable"
    longName := record.textField "long_name"
    name := record.textField "name"
    resourceUri := record.textField "resource_uri"
    licenseType := record.textField "type"
    userMetric := record.textField "user_metric"
  }

def toJson (x : License) : Json :=
  .ofFields [
    ("burstable", Member.flag x.burstable),
    ("long_name", Member.text x.longName),
    ("name", Member.text x.name),
    ("resource_uri", Member.text x.resourceUri),
    ("license_type", Member.text x.licenseType),
    ("user_metric", Member.text x.userMetric)]

instance : Resource License where
  kind := .license
  ofRecord := ofRecord
  toJson := toJson

end License

namespace DriveLicense

def ofRecord (record : Json) : Except DecodeError DriveLicense := do
  let amount ← record.magnitudeField "amount"
  let license ← record.recordField License.ofRecord "license"
  let user ← record.recordField Owner.ofRecord "user"
  pure { amount, license, user }

def toJson (x : DriveLicense) : Json :=
  .ofFields [
    ("amount", x.amount.map Magnitude.toJson),
    ("license", x.license.map License.toJson),
    ("user", x.user.map Owner.toJson)]

instance : Resource DriveLicense where
  kind := .driveLicense
  ofRecord := ofRecord
  toJson := toJson

end DriveLicense

/-! ## Drives -/

namespace DriveInfo

def uuid (x : DriveInfo) : Option String :=
  x.drive.uuid

/-- Whether the drive is attached to a server. -/
def isMounted (x : DriveInfo) : Bool :=
  !x.mountedOn.isEmpty || x.drive.status == some .mounted

def ofRecord (record : Json) : Except DecodeError DriveInfo := do
  let drive ← Drive.ofRecord record
  let size ← record.magnitudeField "size"
  let licenses ← record.recordsField DriveLicense.ofRecord "licenses"
  let mountedOn ← record.recordsField Server.ofRecord "mounted_on"
  let tags ← record.recordsField Tag.ofRecord "tags"
  pure {
    drive
    name := record.textField "name"
    size
    media := record.tokenField "media"
    allowMultimount := record.flagField "allow_multimount"
    storageType := record.textField "storage_type"
    affinities := record.textsField "affinities"
    licenses
    mountedOn
    tags
    metadata := record.metaField "meta"
  }

def fields (x : DriveInfo) : List (String × Option Json) :=
  x.drive.fields ++ [
    ("name", Member.text x.name),
    ("size", x.size.map Magnitude.toJson),
    ("media", x.media.map Token.toJson),
    ("allow_multimount", Member.flag x.allowMultimount),
    ("storage_type", Member.text x.storageType),
    ("affinities", Member.texts x.affinities),
    ("licenses", Member.list DriveLicense.toJson x.licenses),
    ("mounted_on", Member.list Resource.toJson x.mountedOn),
    ("tags", Member.list Tag.toJson x.tags),
    ("meta", Member.metadata x.metadata)]

def toJson (x : DriveInfo) : Json :=
  .ofFields x.fields

instance : Resource DriveInfo where
  kind := .drive
  ofRecord := ofRecord
  toJson := toJson

end DriveInfo

namespace LibraryDrive

def ofRecord (record : Json) : Except DecodeError LibraryDrive := do
  let info ← DriveInfo.ofRecord record
  pure {
    info
    arch := record.textField "arch"
    category := record.textsField "category"
    description := record.textField "description"
    favorite := record.flagField "favorite"
    imageType := record.tokenField "image_type"
    installNotes := record.textField "install_notes"
    os := record.textField "os"
    paid := record.flagField "paid"
    url := record.textField "url"
  }

def toJson (x : LibraryDrive) : Json :=
  .ofFields (x.info.fields ++ [
    ("arch", Member.text x.arch),
    ("category", Member.texts x.category),
    ("description", Member.text x.description),
    ("favorite", Member.flag x.favorite),
    ("image_type", x.imageType.map Token.toJson),
    ("install_notes", Member.text x.installNotes),
    ("os", Member.text x.os),
    ("paid", Member.flag x.paid),
    ("url", Member.text x.url)])

instance : Resource LibraryDrive where
  kind := .drive
  ofRecord := ofRecord
  toJson := toJson

end LibraryDrive

end CloudInventory
