import CloudInventory.Resource.Server

/-!
# Account profiles

Name, address, contact and preferences of the account holder.
-/

namespace CloudInventory

/-- The profile of an account. -/
structure ProfileInfo where
  uuid : Option String := none
  resourceUri : Option String := none
  email : Option String := none
  firstName : Option String := none
  lastName : Option String := none
  nickname : Option String := none
  title : Option String := none
  company : Option String := none
  address : Option String := none
  town : Option String := none
  postcode : Option String := none
  state : Option String := none
  country : Option String := none
  phone : Option String := none
  vat : Option String := none
  bankReference : Option String := none
  currency : Option String := none
  language : Option String := none
  reseller : Option String := none
  myNotes : Option String := none
  apiHttpsOnly : Option Bool := none
  keyAuth : Option Bool := none
  mailingList : Option Bool := none
  autotopupAmount : Option String := none
  autotopupThreshold : Option String := none
  signupTime : Option Instant := none
  metadata : Meta := .empty
  deriving DecidableEq, Inhabited

namespace ProfileInfo

/-- The first and the last name, as far as they are set and not empty. -/
def displayName (x : ProfileInfo) : Option String :=
  match [x.firstName, x.lastName].filterMap fun name => name.filter (· != "") with
  | [] => none
  | names => some (" ".intercalate names)

def ofRecord (record : Json) : Except DecodeError ProfileInfo := do
  let signupTime ← record.instantField "signup_time"
  pure {
    uuid := record.textField "uuid"
    resourceUri := record.textField "resource_uri"
    email := record.textField "email"
    firstName := record.textField "first_name"
    lastName := record.textField "last_name"
    nickname := record.textField "nickname"
    title := record.textField "title"
    company := record.textField "company"
    address := record.textField "address"
    town := record.textField "town"
    postcode := record.textField "postcode"
    state := record.textField "state"
    country := record.textField "country"
    phone := record.textField "phone"
    vat := record.textField "vat"
    bankReference := record.textField "bank_reference"
    currency := record.textField "currency"
    language := record.textField "language"
    reseller := record.textField "reseller"
    myNotes := record.textField "my_notes"
    apiHttpsOnly := record.flagField "api_https_only"
    keyAuth := record.flagField "key_auth"
    mailingList := record.flagField "mailing_list"
    autotopupAmount := record.decimalField "autotopup_amount"
    autotopupThreshold := record.decimalField "autotopup_threshold"
    signupTime
    metadata := record.metaField "meta"
  }

def toJson (x : ProfileInfo) : Json :=
  .ofFields [
    ("uuid", Member.text x.uuid),
    ("resource_uri", Member.text x.resourceUri),
    ("email", Member.text x.email),
    ("first_name", Member.text x.firstName),
    ("last_name", Member.text x.lastName),
    ("nickname", Member.text x.nickname),
    ("title", Member.text x.title),
    ("company", Member.text x.company),
    ("address", Member.text x.address),
    ("town", Member.text x.town),
    ("postcode", Member.text x.postcode),
    ("state", Member.text x.state),
    ("country", Member.text x.country),
    ("phone", Member.text x.phone),
    ("vat", Member.text x.vat),
    ("bank_reference", Member.text x.bankReference),
    ("currency", Member.text x.currency),
    ("language", Member.text x.language),
    ("reseller", Member.text x.reseller),
    ("my_notes", Member.text x.myNotes),
    ("api_https_only", Member.flag x.apiHttpsOnly),
    ("key_auth", Member.flag x.keyAuth),
    ("mailing_list", Member.flag x.mailingList),
    ("autotopup_amount", Member.text x.autotopupAmount),
    ("autotopup_threshold", Member.text x.autotopupThreshold),
    ("signup_time", x.signupTime.map Instant.toJson),
    ("meta", Member.metadata x.metadata)]

instance : Resource ProfileInfo where
  kind := .profile
  ofRecord := ofRecord
  toJson := toJson

end ProfileInfo

end CloudInventory
