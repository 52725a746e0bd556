import CloudInventory.Proofs.Client.ItemRequests
import CloudInventory.Proofs.Request.SetAttributes

/-!
# Tokens in requests

The value for tokens that are not known means nothing to the service, so it is not sent: in
every body each enumerated attribute has one of the tokens that the service knows, at any
depth, or it is missing. This is a matter of the bodies one by one, and one of them does not
keep to it: the body that clones a drive has the media as it is.

Results:
1. `Json.Recognized.ofFields`: what holds of the fields one by one holds of a body.
2. `Client.Upload.requestsTo_bodies`: the body of every operation.
3. `CloneRequest.recognized_iff`: when the body that clones a drive has only known tokens.
4. `Client.sent_tokens`: the enumerated attributes of all bodies that are sent.
-/

namespace CloudInventory

/-! ## Enumerated attributes -/

namespace Json

/-- The tokens of an attribute of requests, if it is an enumerated one. -/
def tokensOf? (key : String) : Option (List String) :=
  [("media", Token.all MediaType), ("device", Token.all DeviceEmulationType),
    ("model", Token.all NicModel), ("conf", Token.all IpConfigurationType),
    ("action", Token.all FirewallAction), ("direction", Token.all FirewallDirection),
    ("ip_proto", Token.all FirewallIpProtocol),
    ("resource", Token.all SubscriptionResource)].lookup key

/-- The value has the attribute at some depth. What metadata holds is no attribute: its keys are
those of the caller. -/
inductive Holds : Json → String → Json → Prop
  | member {members : List (String × Json)} {key : String} {value : Json}
    (listed : (key, value) ∈ members) : Holds (.object members) key value
  | inMember {members : List (String × Json)} {outer key : String} {inner value : Json}
    (listed : (outer, inner) ∈ members) (outside : outer ≠ "meta")
    (holds : Holds inner key value) : Holds (.object members) key value
  | inItem {items : List Json} {item : Json} {key : String} {value : Json}
    (listed : item ∈ items) (holds : Holds item key value) : Holds (.array items) key value

/-- At every depth, an enumerated attribute has one of its tokens. -/
def Recognized (json : Json) : Prop :=
  ∀ key tokens value, tokensOf? key = some tokens → json.Holds key value →
    ∃ token ∈ tokens, value = .string token

theorem holds_of_member? {json value : Json} {key : String}
    (found : json.member? key = some value) : json.Holds key value := by
  cases json with
  | object members =>
    obtain ⟨before, after, split, -⟩ := List.lookup_eq_some_iff.1 found
    exact .member (split ▸ List.mem_append_right _ List.mem_cons_self)
  | _ => cases found

end Json

open Json (tokensOf? Recognized)

/-- What is sent of an attribute: one of its tokens if it is an enumerated one, and no other
value of any enumerated attribute inside. -/
structure Sends (field : String × Option Json) : Prop where
  token : ∀ tokens, tokensOf? field.1 = some tokens → ∀ json, field.2 = some json →
    ∃ token ∈ tokens, json = .string token
  inside : field.1 ≠ "meta" → ∀ json, field.2 = some json → json.Recognized

/-- What all fields of a body send. -/
def AllSend (fields : List (String × Option Json)) : Prop :=
  ∀ field ∈ fields, Sends field

namespace AllSend

theorem nil : AllSend [] :=
  List.forall_mem_nil _

theorem cons {field : String × Option Json} {fields : List (String × Option Json)}
    (first : Sends field) (later : AllSend fields) : AllSend (field :: fields) :=
  List.forall_mem_cons.2 ⟨first, later⟩

end AllSend

namespace Json.Recognized

theorem bool (value : Bool) : (Json.bool value).Recognized :=
  fun _ _ _ _ holds => nomatch holds

theorem number (value : Number) : (Json.number value).Recognized :=
  fun _ _ _ _ holds => nomatch holds

theorem string (value : String) : (Json.string value).Recognized :=
  fun _ _ _ _ holds => nomatch holds

theorem array {items : List Json} (each : ∀ item ∈ items, item.Recognized) :
    (Json.array items).Recognized := by
  intro key tokens value enumerated holds
  cases holds with
  | inItem listed inside => exact each _ listed key tokens value enumerated inside

/-- A body of such attributes has only known tokens. -/
theorem ofFields {fields : List (String × Option Json)} (sends : AllSend fields) :
    (Json.ofFields fields).Recognized := by
  intro key tokens value enumerated holds
  cases holds with
  | member listed =>
    exact (sends _ (Json.mem_of_mem_ofFields listed)).token tokens enumerated value rfl
  | inMember listed outside inside =>
    exact (sends _ (Json.mem_of_mem_ofFields listed)).inside outside _ rfl key tokens value
      enumerated inside

end Json.Recognized

/-! ## Attributes of requests -/

namespace Sends

variable {key : String}

/-- The value of an attribute that is not enumerated. -/
theorem map {α : Type} {toJson : α → Json} (other : tokensOf? key = none)
    (each : ∀ x, (toJson x).Recognized) (value : Option α) : Sends (key, value.map toJson) where
  token tokens enumerated := by
    rw [other] at enumerated
    cases enumerated
  inside _ json found := by
    obtain ⟨x, -, rfl⟩ := Option.map_eq_some_iff.1 found
    exact each x

theorem text (other : tokensOf? key = none) (value : Option String) :
    Sends (key, Member.text value) :=
  map other .string value

theorem flag (other : tokensOf? key = none) (value : Option Bool) :
    Sends (key, Member.flag value) :=
  map other .bool value

theorem number {α : Type} (other : tokensOf? key = none) (toNumber : α → Number)
    (value : Option α) : Sends (key, Member.number toNumber value) :=
  map other (fun x => .number (toNumber x)) value

theorem magnitude (other : tokensOf? key = none) (value : Option Magnitude) :
    Sends (key, Member.magnitude value) := by
  refine map other (fun m => ?_) value
  rw [Magnitude.toRequest]
  cases Number.ofInt? m.value with
  | none => exact .string _
  | some n => exact .number n

theorem list {α : Type} {toJson : α → Json} (other : tokensOf? key = none)
    (each : ∀ x, (toJson x).Recognized) (values : List α) :
    Sends (key, Member.list toJson values) := by
  cases values with
  | nil => exact map other each none
  | cons x xs =>
    have items : Recognized (.array ((x :: xs).map toJson)) :=
      .array (List.forall_mem_map.2 fun x _ => each x)
    exact map other (fun _ : Unit => items) (some ())

theorem texts (other : tokensOf? key = none) (values : List String) :
    Sends (key, Member.texts values) :=
  list other .string values

theorem bootOrder (other : tokensOf? key = none) (value : Int32) :
    Sends (key, Member.bootOrder value) := by
  rw [Member.bootOrder]
  split
  next => exact text other none
  next => exact number other _ (some value)

/-- Whatever keys metadata has. -/
theorem metadata (value : Meta) : Sends ("meta", Member.metadata value) where
  token tokens enumerated := by
    have other : tokensOf? "meta" = none := by decide
    rw [other] at enumerated
    cases enumerated
  inside outside := absurd rfl outside

/-- A value of a vocabulary is sent as its token, or not at all. -/
theorem vocabulary {α : Type} [Vocabulary α] [DecidableEq α]
    (enumerated : tokensOf? key = some (Token.all α)) (value : Option α) :
    Sends (key, Member.token value) where
  token tokens listed json found := by
    obtain ⟨x, -, sent⟩ := Option.bind_eq_some_iff.1 found
    obtain ⟨token, known, rfl⟩ := Option.map_eq_some_iff.1 sent
    obtain ⟨before, after, table, -⟩ := List.lookup_eq_some_iff.1 known
    rw [enumerated] at listed
    cases listed
    refine ⟨token, List.mem_map.2 ⟨(x, token), ?_, rfl⟩, rfl⟩
    rw [table]
    exact List.mem_append_right _ List.mem_cons_self
  inside _ json found := by
    obtain ⟨x, -, sent⟩ := Option.bind_eq_some_iff.1 found
    obtain ⟨token, -, rfl⟩ := Option.map_eq_some_iff.1 sent
    exact .string token

end Sends

/-! ## Bodies -/

/-- The bodies of a type have only known tokens. -/
def RecognizedBodies (α : Type) [Sendable α] : Prop :=
  ∀ x : α, (Sendable.requestBody x).Recognized

theorem Tag.recognizedBodies : RecognizedBodies Tag := fun _ =>
  .ofFields <| .cons (.text rfl _) <| .cons (.metadata _) <| .cons (.texts rfl _) .nil

theorem VlanInfo.recognizedBodies : RecognizedBodies VlanInfo := fun _ =>
  .ofFields <| .cons (.metadata _) <| .cons (.texts rfl _) .nil

theorem IpInfo.recognizedBodies : RecognizedBodies IpInfo := fun _ =>
  .ofFields <| .cons (.metadata _) <| .cons (.texts rfl _) .nil

theorem DriveInfo.recognizedBodies : RecognizedBodies DriveInfo := fun _ =>
  .ofFields <| .cons (.text rfl _) <| .cons (.magnitude rfl _) <| .cons (.vocabulary rfl _) <|
    .cons (.flag rfl _) <| .cons (.text rfl _) <| .cons (.texts rfl _) <| .cons (.metadata _) <|
    .cons (.texts rfl _) .nil

theorem FirewallRule.recognizedBodies : RecognizedBodies FirewallRule := fun _ =>
  .ofFields <| .cons (.vocabulary rfl _) <| .cons (.text rfl _) <| .cons (.vocabulary rfl _) <|
    .cons (.vocabulary rfl _) <| .cons (.text rfl _) <| .cons (.text rfl _) <|
    .cons (.text rfl _) <| .cons (.text rfl _) .nil

theorem FirewallPolicy.recognizedBodies : RecognizedBodies FirewallPolicy := fun _ =>
  .ofFields <| .cons (.text rfl _) <| .cons (.metadata _) <|
    .cons (.list rfl FirewallRule.recognizedBodies _) <| .cons (.texts rfl _) .nil

theorem ServerDrive.recognizedBodies : RecognizedBodies ServerDrive := fun _ =>
  .ofFields <| .cons (.bootOrder rfl _) <| .cons (.text rfl _) <| .cons (.vocabulary rfl _) <|
    .cons (.text rfl _) .nil

theorem IpConfiguration.recognizedBodies : RecognizedBodies IpConfiguration := fun _ =>
  .ofFields <| .cons (.vocabulary rfl _) <| .cons (.text rfl _) .nil

theorem Nic.recognizedBodies : RecognizedBodies Nic := fun _ =>
  .ofFields <| .cons (.bootOrder rfl _) <| .cons (.text rfl _) <|
    .cons (.map rfl IpConfiguration.recognizedBodies _) <|
    .cons (.map rfl IpConfiguration.recognizedBodies _) <| .cons (.text rfl _) <|
    .cons (.vocabulary rfl _) <| .cons (.text rfl _) .nil

theorem ServerInfo.recognizedBodies : RecognizedBodies ServerInfo := fun _ =>
  .ofFields <| .cons (.text rfl _) <| .cons (.number rfl _ _) <| .cons (.number rfl _ _) <|
    .cons (.magnitude rfl _) <| .cons (.flag rfl _) <| .cons (.flag rfl _) <|
    .cons (.flag rfl _) <| .cons (.flag rfl _) <| .cons (.text rfl _) <|
    .cons (.list rfl ServerDrive.recognizedBodies _) <|
    .cons (.list rfl Nic.recognizedBodies _) <| .cons (.texts rfl _) <| .cons (.metadata _) <|
    .cons (.texts rfl _) .nil

theorem Subscription.recognizedBodies : RecognizedBodies Subscription := fun _ =>
  .ofFields <| .cons (.magnitude rfl _) <| .cons (.text rfl _) <| .cons (.vocabulary rfl _) <|
    .cons (.flag rfl _) .nil

theorem ProfileInfo.recognizedBodies : RecognizedBodies ProfileInfo := fun _ =>
  .ofFields <| .cons (.text rfl _) <| .cons (.text rfl _) <| .cons (.text rfl _) <|
    .cons (.text rfl _) <| .cons (.text rfl _) <| .cons (.text rfl _) <| .cons (.text rfl _) <|
    .cons (.text rfl _) <| .cons (.text rfl _) <| .cons (.text rfl _) <| .cons (.text rfl _) <|
    .cons (.text rfl _) <| .cons (.text rfl _) <| .cons (.text rfl _) <| .cons (.text rfl _) <|
    .cons (.flag rfl _) <| .cons (.flag rfl _) <| .cons (.flag rfl _) <| .cons (.text rfl _) <|
    .cons (.text rfl _) <| .cons (.metadata _) .nil

/-- A request for a new resource has the tokens of the resource. -/
theorem RecognizedBodies.objectsBody {α : Type} [Sendable α] (recognized : RecognizedBodies α)
    (x : α) : (objectsBody [Sendable.requestBody x]).Recognized := by
  have fields : CloudInventory.objectsBody [Sendable.requestBody x] =
      .ofFields [("objects", Member.list Sendable.requestBody [x])] := rfl
  rw [fields]
  exact .ofFields <| .cons (.list rfl recognized _) .nil

/-! ## The body that clones a drive -/

namespace CloneRequest

theorem member?_media (x : CloneRequest) :
    (Sendable.requestBody x).member? "media" = x.media.map Token.toJson :=
  Json.hasFields_ofFields (by simp) _

/-- A media that is known is written as in other bodies. -/
theorem map_toJson_media {media : Option MediaType} (known : media ≠ some .unrecognized) :
    media.map Token.toJson = Member.token media := by
  cases media with
  | none => rfl
  | some media =>
    cases media with
    | disk | cdrom => rfl
    | unrecognized => exact absurd rfl known

/-- The body has only known tokens exactly if the media is known, if there is one. -/
theorem recognized_iff (x : CloneRequest) :
    (Sendable.requestBody x).Recognized ↔ x.media ≠ some .unrecognized := by
  constructor
  · intro recognized unknown
    have written : (Sendable.requestBody x).member? "media" = some (.string "unrecognized") := by
      rw [member?_media, unknown]
      rfl
    obtain ⟨token, listed, same⟩ :=
      recognized "media" _ _ rfl (Json.holds_of_member? written)
    cases same
    exact absurd listed (by decide)
  · intro known
    have media : Sends ("media", x.media.map Token.toJson) :=
      map_toJson_media known ▸ .vocabulary rfl _
    exact .ofFields <| .cons (.text rfl _) <| .cons media <| .cons (.texts rfl _) .nil

end CloneRequest

/-! ## Operations -/

namespace Client

/-- The operations that have a body, and all operations on a resource. -/
inductive Upload where
  | onItem (operation : ItemOperation) (id : String)
  | createServer (server : ServerInfo)
  | createDrive (drive : DriveInfo)
  | createFirewallPolicy (policy : FirewallPolicy)
  | createTag (tag : Tag)
  | createSubscription (subscription : Subscription)
  | editProfile (profile : ProfileInfo)

namespace Upload

/-- The requests that a peer gets when the operation is carried out. -/
def requestsTo (client : Client) (peer : Request → Delivery) : Upload → List Request
  | onItem operation id => operation.requestsTo client id peer
  | createServer server => (client.createServer server).requestsTo peer
  | createDrive drive => (client.createDrive drive).requestsTo peer
  | createFirewallPolicy policy => (client.createFirewallPolicy policy).requestsTo peer
  | createTag tag => (client.createTag tag).requestsTo peer
  | createSubscription subscription => (client.createSubscription subscription).requestsTo peer
  | editProfile profile => (client.editProfile profile).requestsTo peer

def body : Upload → Option Json
  | onItem operation _ => operation.call.body
  | createServer server => some (objectsBody [Sendable.requestBody server])
  | createDrive drive => some (objectsBody [Sendable.requestBody drive])
  | createFirewallPolicy policy => some (objectsBody [Sendable.requestBody policy])
  | createTag tag => some (objectsBody [Sendable.requestBody tag])
  | createSubscription subscription => some (objectsBody [Sendable.requestBody subscription])
  | editProfile profile => some (Sendable.requestBody profile)

/-- An operation sends its body once, whatever becomes of it. -/
theorem requestsTo_bodies (upload : Upload) (client : Client) (peer : Request → Delivery) :
    (upload.requestsTo client peer).map Request.body = [upload.body] := by
  cases upload with
  | onItem operation id => rw [requestsTo, ItemOperation.requestsTo_eq]; rfl
  | _ => rfl

end Upload

/-- The body of an operation on a resource has only known tokens, unless a drive is cloned as a
media that is not known. -/
theorem ItemOperation.recognized_iff (operation : ItemOperation) :
    (∀ body ∈ operation.call.body, body.Recognized) ↔
      ∀ clone, operation = .cloneDrive clone → clone.media ≠ some .unrecognized := by
  cases operation with
  | cloneDrive clone => simpa [call] using clone.recognized_iff
  | editServer server => simpa [call] using ServerInfo.recognizedBodies server
  | editDrive drive => simpa [call] using DriveInfo.recognizedBodies drive
  | editFirewallPolicy policy => simpa [call] using FirewallPolicy.recognizedBodies policy
  | editVlan vlan => simpa [call] using VlanInfo.recognizedBodies vlan
  | editIp ip => simpa [call] using IpInfo.recognizedBodies ip
  | editTag tag => simpa [call] using Tag.recognizedBodies tag
  | _ => simp [call]

theorem Upload.recognized_iff (upload : Upload) :
    (∀ body ∈ upload.body, body.Recognized) ↔
      ∀ clone id, upload = .onItem (.cloneDrive clone) id → clone.media ≠ some .unrecognized := by
  cases upload with
  | onItem operation id => simpa [body] using operation.recognized_iff
  | createServer server => simpa [body] using ServerInfo.recognizedBodies.objectsBody server
  | createDrive drive => simpa [body] using DriveInfo.recognizedBodies.objectsBody drive
  | createFirewallPolicy policy =>
    simpa [body] using FirewallPolicy.recognizedBodies.objectsBody policy
  | createTag tag => simpa [body] using Tag.recognizedBodies.objectsBody tag
  | createSubscription subscription =>
    simpa [body] using Subscription.recognizedBodies.objectsBody subscription
  | editProfile profile => simpa [body] using ProfileInfo.recognizedBodies profile

end Client

/-! ## Sent tokens -/

/-- The attribute is sent as the token of its value; it is left out exactly if there is no value,
or one that is not known. -/
def SendsToken {α β : Type} [Vocabulary α] [DecidableEq α] [Sendable β] (key : String)
    (field : β → Option α) : Prop :=
  ∀ x : β, (Sendable.requestBody x).member? key = (field x).bind Token.toRequest? ∧
    ((Sendable.requestBody x).member? key = none ↔
      ∀ value ∈ field x, value = Vocabulary.unrecognized)

theorem SendsToken.of_member? {α β : Type} [Vocabulary α] [DecidableEq α] [ExactVocabulary α]
    [Sendable β] {key : String} {field : β → Option α}
    (sent : ∀ x, (Sendable.requestBody x).member? key = Member.token (field x)) :
    SendsToken key field := by
  intro x
  have absent : Member.token (field x) = none ↔
      ∀ value ∈ field x, value = Vocabulary.unrecognized := by
    cases field x with
    | none => simp [Member.token]
    | some value =>
      simp [Member.token, Token.toRequest?, ExactVocabulary.known?_eq_none]
  rw [sent]
  exact ⟨rfl, absent⟩

/-- The tokens that are sent. Every operation sends its body once, whatever the peer answers.
Each enumerated attribute in it has, at any depth, one of the tokens that the service knows,
exactly if no drive is cloned as a media that is not known. In all other bodies an enumerated
attribute is sent as the token of its value, and is left out if the value is not known; and
what lies in them is sent one by one. Only a clone has its media as it is. -/
theorem Client.sent_tokens (upload : Upload) (client : Client) (peer : Request → Delivery) :
    (upload.requestsTo client peer).map Request.body = [upload.body] ∧
    ((∀ body ∈ upload.body, body.Recognized) ↔
      ∀ clone id, upload = .onItem (.cloneDrive clone) id → clone.media ≠ some .unrecognized) ∧
    (SendsToken "media" DriveInfo.media ∧ SendsToken "device" ServerDrive.deviceEmulationType ∧
      SendsToken "model" Nic.model ∧ SendsToken "conf" IpConfiguration.configurationType ∧
      SendsToken "action" FirewallRule.action ∧ SendsToken "direction" FirewallRule.direction ∧
      SendsToken "ip_proto" FirewallRule.ipProtocol ∧
      SendsToken "resource" Subscription.resource) ∧
    (∀ x : ServerInfo,
      (Sendable.requestBody x).itemsOf "drives" = x.drives.map Sendable.requestBody ∧
      (Sendable.requestBody x).itemsOf "nics" = x.nics.map Sendable.requestBody) ∧
    (∀ x : Nic,
      (Sendable.requestBody x).member? "ip_v4_conf" =
        x.ipv4Configuration.map Sendable.requestBody ∧
      (Sendable.requestBody x).member? "ip_v6_conf" =
        x.ipv6Configuration.map Sendable.requestBody) ∧
    (∀ x : FirewallPolicy,
      (Sendable.requestBody x).itemsOf "rules" = x.rules.map Sendable.requestBody) ∧
    ∀ x : CloneRequest, (Sendable.requestBody x).member? "media" = x.media.map Token.toJson := by
  refine ⟨upload.requestsTo_bodies client peer, upload.recognized_iff,
    ⟨?media, ?device, ?model, ?conf, ?action, ?direction, ?protocol, ?resource⟩,
    fun x => ⟨?drives, ?nics⟩, fun x => ⟨?version4, ?version6⟩, fun x => ?rules,
    CloneRequest.member?_media⟩
  case drives | nics | rules => exact itemsOf_ofFields (by simp) rfl
  case version4 | version6 => exact Json.hasFields_ofFields (by simp) _
  all_goals exact .of_member? fun _ => Json.hasFields_ofFields (by simp) _

open Config.EndpointExamples (client) in
/-- A drive is cloned as a media that is not known, and the text for such values is sent. -/
theorem Client.unknown_media_sent :
    ((client.cloneDrive "d1" { media := some (Token.ofText "floppy") }).requestsTo
        (Session.unreachable "")).map Request.body =
          [some (.object [("media", .string "unrecognized")])] ∧
      ¬ (Json.object [("media", .string "unrecognized")]).Recognized := by
  refine ⟨by decide, fun recognized => ?_⟩
  obtain ⟨token, listed, same⟩ := recognized "media" _ _ rfl (.member List.mem_cons_self)
  cases same
  exact absurd listed (by decide)

end CloudInventory
