import CloudInventory.Resource.Allocation
import CloudInventory.Resource.Profile

/-!
# Request bodies

What is sent to create or change a resource. A body has a member exactly for what
is set, so a change never clears an attribute that the caller did not touch; a
nested resource is sent as its uuid, and an unrecognized value of a vocabulary is
not sent at all. Requests that create resources send a list of bodies under
`objects`.
-/

namespace CloudInventory

/-- A type of values that can be sent. -/
class Sendable (α : Type) where
  /-- The body that a value is sent as. -/
  requestBody : α → Json

/-- The list of bodies that a request for new resources sends. -/
def objectsBody (bodies : List Json) : Json :=
  .object [("objects", .array bodies)]

/-! ## Members of a body -/

namespace Member

/-- A value of a vocabulary; there is no member for an unrecognized one. -/
def token {α : Type} [Vocabulary α] [DecidableEq α] (value : Option α) : Option Json :=
  value.bind Token.toRequest?

/-- A size or an amount. -/
def magnitude (value : Option Magnitude) : Option Json :=
  value.map Magnitude.toRequest

/-- The uuids of tags; a tag without one is left out. -/
def tags (values : List Tag) : Option Json :=
  texts (values.filterMap Tag.uuid)

end Member

/-! ## Tags, VLANs and addresses -/

instance : Sendable Tag where
  requestBody x := .ofFields [
    ("name", Member.text x.name),
    ("meta", Member.metadata x.metadata),
    ("resources", Member.texts (x.resources.filterMap TagResource.uuid))]

instance : Sendable VlanInfo where
  requestBody x := .ofFields [
    ("meta", Member.metadata x.metadata),
    ("tags", Member.tags x.tags)]

instance : Sendable IpInfo where
  requestBody x := .ofFields [
    ("meta", Member.metadata x.metadata),
    ("tags", Member.tags x.tags)]

/-! ## Subscriptions and profiles -/

instance : Sendable Subscription where
  requestBody x := .ofFields [
    ("amount", Member.magnitude x.amount),
    ("period", Member.text x.period),
    ("resource", Member.token x.resource),
    ("auto_renew", Member.flag x.autoRenew)]

instance : Sendable ProfileInfo where
  requestBody x := .ofFields [
    ("first_name", Member.text x.firstName),
    ("last_name", Member.text x.lastName),
    ("nickname", Member.text x.nickname),
    ("title", Member.text x.title),
    ("company", Member.text x.company),
    ("address", Member.text x.address),
    ("town", Member.text x.town),
    ("postcode", Member.text x.postcode),
    ("state", Member.text x.state),
    ("country", Member.text x.country),
    ("phone", Member.text x.phone),
    ("vat", Member.text x.vat),
    ("bank_reference", Member.text x.bankReference),
    ("language", Member.text x.language),
    ("my_notes", Member.text x.myNotes),
    ("api_https_only", Member.flag x.apiHttpsOnly),
    ("key_auth", Member.flag x.keyAuth),
    ("mailing_list", Member.flag x.mailingList),
    ("autotopup_amount", Member.text x.autotopupAmount),
    ("autotopup_threshold", Member.text x.autotopupThreshold),
    ("meta", Member.metadata x.metadata)]

end CloudInventory
