import CloudInventory.Proofs.Request.ReadBack

/-!
# Reading back the bodies of single resources

The members of each body, what they read as, and what the decoder makes of them: for
tags, VLANs, addresses, subscriptions, profiles and drives.
-/

namespace CloudInventory

/-! ## Tags -/

namespace Tag

def canonicalFields (x : Tag) : List (String × Option Json) := [
  ("name", Member.text x.name),
  ("meta", Member.metadata x.metadata),
  ("resources", Member.records .tagResource (x.resources.filterMap TagResource.uuid))]

/-- A labelled resource loses its kind: its identifier does not tell it. -/
def asSent (x : Tag) : Tag where
  name := x.name
  resources := (x.resources.filterMap TagResource.uuid).map fun id =>
    .unrecognized { uuid := some id }
  metadata := x.metadata

theorem read_requestBody (x : Tag) :
    RecordKind.tag.read (Sendable.requestBody x) = .ok (.ofFields x.canonicalFields) := by
  refine RecordKind.read_ofFields ?_
  exact .cons (.intro rfl (.text _)) <|
    .cons (.intro rfl (.metadata _)) <|
    .cons (.intro rfl (.identifiers .tagResource _)) .nil

theorem ofRecord_eq (x : Tag) (record : Json) (found : record.HasFields x.canonicalFields) :
    ofRecord record = .ok x.asSent := by
  have uuid : record.textField "uuid" = none := Json.textField_of_text (found "uuid")
  have resourceUri : record.textField "resource_uri" = none :=
    Json.textField_of_text (found "resource_uri")
  have owner : record.recordField Owner.ofRecord "owner" = .ok none :=
    Json.recordField_of_absent (found "owner")
  have name : record.textField "name" = x.name := Json.textField_of_text (found "name")
  have resources : record.recordsField TagResource.ofRecord "resources" = .ok x.asSent.resources :=
    Json.recordsField_of_list (found "resources") TagResource.ofRecord_ofIdentifier
  have metadata : record.metaField "meta" = x.metadata := Json.metaField_of_metadata (found "meta")
  simp only [ofRecord, uuid, resourceUri, owner, name, resources, metadata]
  rfl

theorem requestBody_asSent (x : Tag) :
    Sendable.requestBody x.asSent = Sendable.requestBody x := by
  have uuids : x.asSent.resources.filterMap TagResource.uuid =
      x.resources.filterMap TagResource.uuid := by
    rw [asSent, List.filterMap_map]
    exact List.filterMap_some
  simp only [Sendable.requestBody, uuids]
  rfl

instance : ReadsBack Tag where
  canonicalFields := canonicalFields
  asSent := asSent
  distinct x := by simp [canonicalFields]
  read_requestBody := read_requestBody
  ofRecord_eq := ofRecord_eq
  requestBody_asSent := requestBody_asSent

end Tag

/-! ## Summaries of what a body does not tell -/

section

variable {record : Json} (uuid : record.member? "uuid" = none)
  (resourceUri : record.member? "resource_uri" = none) (owner : record.member? "owner" = none)

include uuid resourceUri owner

theorem Drive.ofRecord_of_absent (status : record.member? "status" = none) :
    Drive.ofRecord record = .ok {} := by
  have noOwner : record.recordField Owner.ofRecord "owner" = .ok none :=
    Json.recordField_of_absent owner
  simp only [ofRecord, noOwner, Json.textField, Json.tokenField, uuid, resourceUri, status]
  rfl

theorem Vlan.ofRecord_of_absent : Vlan.ofRecord record = .ok {} := by
  have noOwner : record.recordField Owner.ofRecord "owner" = .ok none :=
    Json.recordField_of_absent owner
  simp only [ofRecord, noOwner, Json.textField, uuid, resourceUri]
  rfl

theorem Ip.ofRecord_of_absent (server : record.member? "server" = none) :
    Ip.ofRecord record = .ok {} := by
  have noOwner : record.recordField Owner.ofRecord "owner" = .ok none :=
    Json.recordField_of_absent owner
  rw [ofRecord]
  simp only [noOwner, Json.child?_of_absent server, Json.textField, uuid, resourceUri]
  rfl

end

/-! ## VLANs and addresses -/

namespace VlanInfo

def canonicalFields (x : VlanInfo) : List (String × Option Json) := [
  ("meta", Member.metadata x.metadata),
  ("tags", Member.records .tag (x.tags.filterMap Tag.uuid))]

def asSent (x : VlanInfo) : VlanInfo where
  tags := Tag.ofIdentifiers (x.tags.filterMap Tag.uuid)
  metadata := x.metadata

theorem read_requestBody (x : VlanInfo) :
    RecordKind.vlan.read (Sendable.requestBody x) = .ok (.ofFields x.canonicalFields) := by
  refine RecordKind.read_ofFields ?_
  exact .cons (.intro rfl (.metadata _)) <|
    .cons (.intro rfl (.identifiers .tag _)) .nil

theorem ofRecord_eq (x : VlanInfo) (record : Json) (found : record.HasFields x.canonicalFields) :
    ofRecord record = .ok x.asSent := by
  have vlan : Vlan.ofRecord record = .ok {} :=
    Vlan.ofRecord_of_absent (found "uuid") (found "resource_uri") (found "owner")
  have servers : record.recordsField Server.ofRecord "servers" = .ok [] :=
    Json.recordsField_of_absent (found "servers")
  have subscription : record.recordField Subscription.ofRecord "subscription" = .ok none :=
    Json.recordField_of_absent (found "subscription")
  have tags : record.recordsField Tag.ofRecord "tags" = .ok x.asSent.tags :=
    Json.tagsField_of_tags (found "tags")
  have metadata : record.metaField "meta" = x.metadata := Json.metaField_of_metadata (found "meta")
  simp only [ofRecord, vlan, servers, subscription, tags, metadata]
  rfl

theorem requestBody_asSent (x : VlanInfo) :
    Sendable.requestBody x.asSent = Sendable.requestBody x := by
  simp only [Sendable.requestBody, asSent, Member.tags_ofIdentifiers]

instance : ReadsBack VlanInfo where
  canonicalFields := canonicalFields
  asSent := asSent
  distinct x := by simp [canonicalFields]
  read_requestBody := read_requestBody
  ofRecord_eq := ofRecord_eq
  requestBody_asSent := requestBody_asSent

end VlanInfo

namespace IpInfo

def canonicalFields (x : IpInfo) : List (String × Option Json) := [
  ("meta", Member.metadata x.metadata),
  ("tags", Member.records .tag (x.tags.filterMap Tag.uuid))]

def asSent (x : IpInfo) : IpInfo where
  tags := Tag.ofIdentifiers (x.tags.filterMap Tag.uuid)
  metadata := x.metadata

theorem read_requestBody (x : IpInfo) :
    RecordKind.ip.read (Sendable.requestBody x) = .ok (.ofFields x.canonicalFields) := by
  refine RecordKind.read_ofFields ?_
  exact .cons (.intro rfl (.metadata _)) <|
    .cons (.intro rfl (.identifiers .tag _)) .nil

theorem ofRecord_eq (x : IpInfo) (record : Json) (found : record.HasFields x.canonicalFields) :
    ofRecord record = .ok x.asSent := by
  have ip : Ip.ofRecord record = .ok {} :=
    Ip.ofRecord_of_absent (found "uuid") (found "resource_uri") (found "owner") (found "server")
  have netmask : record.boundedField UInt8 "netmask" = .ok none :=
    Json.boundedField_of_absent (found "netmask")
  have gateway : record.textField "gateway" = none := Json.textField_of_text (found "gateway")
  have nameservers : record.textsField "nameservers" = [] :=
    Json.textsField_of_texts (found "nameservers")
  have subscription : record.recordField Subscription.ofRecord "subscription" = .ok none :=
    Json.recordField_of_absent (found "subscription")
  have tags : record.recordsField Tag.ofRecord "tags" = .ok x.asSent.tags :=
    Json.tagsField_of_tags (found "tags")
  have metadata : record.metaField "meta" = x.metadata := Json.metaField_of_metadata (found "meta")
  simp only [ofRecord, ip, netmask, gateway, nameservers, subscription, tags, metadata]
  rfl

theorem requestBody_asSent (x : IpInfo) :
    Sendable.requestBody x.asSent = Sendable.requestBody x := by
  simp only [Sendable.requestBody, asSent, Member.tags_ofIdentifiers]

instance : ReadsBack IpInfo where
  canonicalFields := canonicalFields
  asSent := asSent
  distinct x := by simp [canonicalFields]
  read_requestBody := read_requestBody
  ofRecord_eq := ofRecord_eq
  requestBody_asSent := requestBody_asSent

end IpInfo

/-! ## Subscriptions -/

namespace Subscription

def canonicalFields (x : Subscription) : List (String × Option Json) := [
  ("amount", Member.magnitude x.amount),
  ("period", Member.text x.period),
  ("resource", Member.token x.resource),
  ("auto_renew", Member.flag x.autoRenew)]

def asSent (x : Subscription) : Subscription where
  amount := x.amount
  period := x.period
  resource := x.resource.filter Token.isRecognized
  autoRenew := x.autoRenew

theorem read_requestBody (x : Subscription) :
    RecordKind.subscription.read (Sendable.requestBody x) = .ok (.ofFields x.canonicalFields) := by
  refine RecordKind.read_ofFields ?_
  exact .cons (.intro rfl (.magnitude _)) <|
    .cons (.intro rfl (.text _)) <|
    .cons (.intro rfl (.token _)) <|
    .cons (.intro rfl (.flag _)) .nil

theorem ofRecord_eq (x : Subscription) (record : Json)
    (found : record.HasFields x.canonicalFields) : ofRecord record = .ok x.asSent := by
  have amount : record.magnitudeField "amount" = .ok x.amount :=
    Json.magnitudeField_of_magnitude (found "amount")
  have period : record.textField "period" = x.period := Json.textField_of_text (found "period")
  have resource : record.tokenField "resource" = x.resource.filter Token.isRecognized :=
    Json.tokenField_of_token (found "resource")
  have autoRenew : record.flagField "auto_renew" = x.autoRenew :=
    Json.flagField_of_flag (found "auto_renew")
  have id : record.decimalField "id" = none := Json.decimalField_of_text (found "id")
  have uuid : record.textField "uuid" = none := Json.textField_of_text (found "uuid")
  have resourceUri : record.textField "resource_uri" = none :=
    Json.textField_of_text (found "resource_uri")
  have descendants : record.children "descendants" = [] :=
    Json.children_of_absent (found "descendants")
  have discountAmount : record.decimalField "discount_amount" = none :=
    Json.decimalField_of_text (found "discount_amount")
  have discountPercent : record.decimalField "discount_percent" = none :=
    Json.decimalField_of_text (found "discount_percent")
  have startTime : record.instantField "start_time" = .ok none :=
    Json.instantField_of_absent (found "start_time")
  have endTime : record.instantField "end_time" = .ok none :=
    Json.instantField_of_absent (found "end_time")
  have lastNotification : record.instantField "last_notification" = .ok none :=
    Json.instantField_of_absent (found "last_notification")
  have price : record.decimalField "price" = none := Json.decimalField_of_text (found "price")
  have remaining : record.magnitudeField "remaining" = .ok none :=
    Json.magnitudeField_of_magnitude (found "remaining")
  have status : record.tokenField (α := SubscriptionStatus) "status" = none :=
    Json.tokenField_of_absent (found "status")
  have subscribedObject : record.textField "subscribed_object" = none :=
    Json.textField_of_text (found "subscribed_object")
  rw [ofRecord]
  simp only [amount, period, resource, autoRenew, id, uuid, resourceUri, descendants,
    discountAmount, discountPercent, startTime, endTime, lastNotification, price, remaining,
    status, subscribedObject]
  rfl

theorem requestBody_asSent (x : Subscription) :
    Sendable.requestBody x.asSent = Sendable.requestBody x := by
  simp only [Sendable.requestBody, asSent, Member.token_filter]

instance : ReadsBack Subscription where
  canonicalFields := canonicalFields
  asSent := asSent
  distinct x := by simp [canonicalFields]
  read_requestBody := read_requestBody
  ofRecord_eq := ofRecord_eq
  requestBody_asSent := requestBody_asSent

end Subscription

/-! ## Profiles -/

namespace ProfileInfo

def canonicalFields (x : ProfileInfo) : List (String × Option Json) := [
  ("first_name", Member.text x.firstName),
  ("last_name", Member.text x.lastName),
  ("nickname", Member.text x.nickname),
  ("title", Member.text x.title),
  ("company", Member.text x.company),
  ("address", Member.text x.address),
  ("town", Member.text x.town),
  ("postcode", Member.text x.postcode),
  ("state", Member.text x.state),
  ("country", Member.text x.country),
  ("phone", Member.text x.phone),
  ("vat", Member.text x.vat),
  ("bank_reference", Member.text x.bankReference),
  ("language", Member.text x.language),
  ("my_notes", Member.text x.myNotes),
  ("api_https_only", Member.flag x.apiHttpsOnly),
  ("key_auth", Member.flag x.keyAuth),
  ("mailing_list", Member.flag x.mailingList),
  ("autotopup_amount", Member.text x.autotopupAmount),
  ("autotopup_threshold", Member.text x.autotopupThreshold),
  ("meta", Member.metadata x.metadata)]

def asSent (x : ProfileInfo) : ProfileInfo where
  firstName := x.firstName
  lastName := x.lastName
  nickname := x.nickname
  title := x.title
  company := x.company
  address := x.address
  town := x.town
  postcode := x.postcode
  state := x.state
  country := x.country
  phone := x.phone
  vat := x.vat
  bankReference := x.bankReference
  language := x.language
  myNotes := x.myNotes
  apiHttpsOnly := x.apiHttpsOnly
  keyAuth := x.keyAuth
  mailingList := x.mailingList
  autotopupAmount := x.autotopupAmount
  autotopupThreshold := x.autotopupThreshold
  metadata := x.metadata

theorem read_requestBody (x : ProfileInfo) :
    RecordKind.profile.read (Sendable.requestBody x) = .ok (.ofFields x.canonicalFields) := by
  refine RecordKind.read_ofFields ?_
  exact .cons (.intro rfl (.text _)) <|
    .cons (.intro rfl (.text _)) <|
    .cons (.intro rfl (.text _)) <|
    .cons (.intro rfl (.text _)) <|
    .cons (.intro rfl (.text _)) <|
    .cons (.intro rfl (.text _)) <|
    .cons (.intro rfl (.text _)) <|
    .cons (.intro rfl (.text _)) <|
    .cons (.intro rfl (.text _)) <|
    .cons (.intro rfl (.text _)) <|
    .cons (.intro rfl (.text _)) <|
    .cons (.intro rfl (.text _)) <|
    .cons (.intro rfl (.text _)) <|
    .cons (.intro rfl (.text _)) <|
    .cons (.intro rfl (.text _)) <|
    .cons (.intro rfl (.flag _)) <|
    .cons (.intro rfl (.flag _)) <|
    .cons (.intro rfl (.flag _)) <|
    .cons (.intro rfl (.scalarText _)) <|
    .cons (.intro rfl (.scalarText _)) <|
    .cons (.intro rfl (.metadata _)) .nil

theorem ofRecord_eq (x : ProfileInfo) (record : Json)
    (found : record.HasFields x.canonicalFields) : ofRecord record = .ok x.asSent := by
  have uuid : record.textField "uuid" = none := Json.textField_of_text (found "uuid")
  have resourceUri : record.textField "resource_uri" = none :=
    Json.textField_of_text (found "resource_uri")
  have email : record.textField "email" = none := Json.textField_of_text (found "email")
  have firstName : record.textField "first_name" = x.firstName :=
    Json.textField_of_text (found "first_name")
  have lastName : record.textField "last_name" = x.lastName :=
    Json.textField_of_text (found "last_name")
  have nickname : record.textField "nickname" = x.nickname :=
    Json.textField_of_text (found "nickname")
  have title : record.textField "title" = x.title := Json.textField_of_text (found "title")
  have company : record.textField "company" = x.company := Json.textField_of_text (found "company")
  have address : record.textField "address" = x.address := Json.textField_of_text (found "address")
  have town : record.textField "town" = x.town := Json.textField_of_text (found "town")
  have postcode : record.textField "postcode" = x.postcode :=
    Json.textField_of_text (found "postcode")
  have state : record.textField "state" = x.state := Json.textField_of_text (found "state")
  have country : record.textField "country" = x.country := Json.textField_of_text (found "country")
  have phone : record.textField "phone" = x.phone := Json.textField_of_text (found "phone")
  have vat : record.textField "vat" = x.vat := Json.textField_of_text (found "vat")
  have bankReference : record.textField "bank_reference" = x.bankReference :=
    Json.textField_of_text (found "bank_reference")
  have language : record.textField "language" = x.language :=
    Json.textField_of_text (found "language")
  have myNotes : record.textField "my_notes" = x.myNotes :=
    Json.textField_of_text (found "my_notes")
  have apiHttpsOnly : record.flagField "api_https_only" = x.apiHttpsOnly :=
    Json.flagField_of_flag (found "api_https_only")
  have keyAuth : record.flagField "key_auth" = x.keyAuth :=
    Json.flagField_of_flag (found "key_auth")
  have mailingList : record.flagField "mailing_list" = x.mailingList :=
    Json.flagField_of_flag (found "mailing_list")
  have autotopupAmount : record.decimalField "autotopup_amount" = x.autotopupAmount :=
    Json.decimalField_of_text (found "autotopup_amount")
  have autotopupThreshold : record.decimalField "autotopup_threshold" = x.autotopupThreshold :=
    Json.decimalField_of_text (found "autotopup_threshold")
  have metadata : record.metaField "meta" = x.metadata := Json.metaField_of_metadata (found "meta")
  have currency : record.textField "currency" = none := Json.textField_of_text (found "currency")
  have reseller : record.textField "reseller" = none := Json.textField_of_text (found "reseller")
  have signupTime : record.instantField "signup_time" = .ok none :=
    Json.instantField_of_absent (found "signup_time")
  simp only [ofRecord, uuid, resourceUri, email, firstName, lastName, nickname, title, company,
    address, town, postcode, state, country, phone, vat, bankReference, language, myNotes,
    apiHttpsOnly, keyAuth, mailingList, autotopupAmount, autotopupThreshold, metadata, currency,
    reseller, signupTime]
  rfl

theorem requestBody_asSent (x : ProfileInfo) :
    Sendable.requestBody x.asSent = Sendable.requestBody x := rfl

instance : ReadsBack ProfileInfo where
  canonicalFields := canonicalFields
  asSent := asSent
  distinct x := by simp [canonicalFields]
  read_requestBody := read_requestBody
  ofRecord_eq := ofRecord_eq
  requestBody_asSent := requestBody_asSent

end ProfileInfo

/-! ## Drives -/

namespace DriveInfo

def canonicalFields (x : DriveInfo) : List (String × Option Json) := [
  ("name", Member.text x.name),
  ("size", Member.magnitude x.size),
  ("media", Member.token x.media),
  ("allow_multimount", Member.flag x.allowMultimount),
  ("storage_type", Member.text x.storageType),
  ("affinities", Member.texts x.affinities),
  ("meta", Member.metadata x.metadata),
  ("tags", Member.records .tag (x.tags.filterMap Tag.uuid))]

def asSent (x : DriveInfo) : DriveInfo where
  name := x.name
  size := x.size
  media := x.media.filter Token.isRecognized
  allowMultimount := x.allowMultimount
  storageType := x.storageType
  affinities := x.affinities
  metadata := x.metadata
  tags := Tag.ofIdentifiers (x.tags.filterMap Tag.uuid)

theorem read_requestBody (x : DriveInfo) :
    RecordKind.drive.read (Sendable.requestBody x) = .ok (.ofFields x.canonicalFields) := by
  refine RecordKind.read_ofFields ?_
  exact .cons (.intro rfl (.text _)) <|
    .cons (.intro rfl (.magnitude _)) <|
    .cons (.intro rfl (.token _)) <|
    .cons (.intro rfl (.flag _)) <|
    .cons (.intro rfl (.text _)) <|
    .cons (.intro rfl (.texts _)) <|
    .cons (.intro rfl (.metadata _)) <|
    .cons (.intro rfl (.identifiers .tag _)) .nil

theorem ofRecord_eq (x : DriveInfo) (record : Json) (found : record.HasFields x.canonicalFields) :
    ofRecord record = .ok x.asSent := by
  have drive : Drive.ofRecord record = .ok {} :=
    Drive.ofRecord_of_absent (found "uuid") (found "resource_uri") (found "owner") (found "status")
  have name : record.textField "name" = x.name := Json.textField_of_text (found "name")
  have size : record.magnitudeField "size" = .ok x.size :=
    Json.magnitudeField_of_magnitude (found "size")
  have media : record.tokenField "media" = x.media.filter Token.isRecognized :=
    Json.tokenField_of_token (found "media")
  have allowMultimount : record.flagField "allow_multimount" = x.allowMultimount :=
    Json.flagField_of_flag (found "allow_multimount")
  have storageType : record.textField "storage_type" = x.storageType :=
    Json.textField_of_text (found "storage_type")
  have affinities : record.textsField "affinities" = x.affinities :=
    Json.textsField_of_texts (found "affinities")
  have licenses : record.recordsField DriveLicense.ofRecord "licenses" = .ok [] :=
    Json.recordsField_of_absent (found "licenses")
  have mountedOn : record.recordsField Server.ofRecord "mounted_on" = .ok [] :=
    Json.recordsField_of_absent (found "mounted_on")
  have tags : record.recordsField Tag.ofRecord "tags" = .ok x.asSent.tags :=
    Json.tagsField_of_tags (found "tags")
  have metadata : record.metaField "meta" = x.metadata := Json.metaField_of_metadata (found "meta")
  simp only [ofRecord, drive, name, size, media, allowMultimount, storageType, affinities,
    licenses, mountedOn, tags, metadata]
  rfl

theorem requestBody_asSent (x : DriveInfo) :
    Sendable.requestBody x.asSent = Sendable.requestBody x := by
  simp only [Sendable.requestBody, asSent, Member.token_filter, Member.tags_ofIdentifiers]

instance : ReadsBack DriveInfo where
  canonicalFields := canonicalFields
  asSent := asSent
  distinct x := by simp [canonicalFields]
  read_requestBody := read_requestBody
  ofRecord_eq := ofRecord_eq
  requestBody_asSent := requestBody_asSent

end DriveInfo

end CloudInventory
