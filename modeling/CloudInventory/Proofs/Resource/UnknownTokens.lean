import CloudInventory.Proofs.Decode.Token
import CloudInventory.Proofs.Envelope.Records
import CloudInventory.Proofs.Resource.TokenChanges
import CloudInventory.Request.Basic

/-!
# Tokens that are not known

The service may send a token that the client does not know. It never makes a record
unreadable, and it touches nothing but the part that it is the token of: that part has the
value with exactly this token, or the value for tokens that are not known. A labelled
resource may become one of another kind, but it keeps its identity, and the same body is
sent for its tag.

Results:
1. `ResourceType.agree_decode` and `ResourceType.agree_decodeReference`: bodies that differ
   in a token have the same error, or resources that differ in the part of the token.
2. `Retold.requestBody_eq`: the body that is sent for a tag does not depend on tokens.
3. `unknown_tokens_contained`: the whole of it, with the vocabularies.
-/

namespace CloudInventory

/-! ## Bodies -/

namespace ResourceType

variable {s : String} {type : ResourceType} {place : Place} {a b : Json}

/-- Bodies that differ in a token have the same error, or resources that differ in the part
of the token. -/
theorem agree_decode (retokened : (Shape.record type.kind).Within (Shape.Retokened s) place a b) :
    Agree (Retold s type place) (Resource.decode a : Except DecodeError type.Value)
      (Resource.decode b) := by
  have read : Agree (Shape.Differ s (.record type.kind) place)
      ((Resource.kind type.Value).read a) ((Resource.kind type.Value).read b) :=
    Shape.agree_read retokened
  rw [Resource.decode, Resource.decode]
  generalize (Resource.kind type.Value).read a = first at read
  generalize (Resource.kind type.Value).read b = second at read
  cases read with
  | error fault => exact .error _
  | ok differ => exact (follows_of_differ differ).record type rfl

theorem agree_decodeReference
    (retokened : (Shape.reference type.kind).Within (Shape.Retokened s) place a b) :
    Agree (Retold s type place) (Resource.decodeReference a : Except DecodeError type.Value)
      (Resource.decodeReference b) := by
  have read : Agree (Shape.Differ s (.reference type.kind) place)
      ((Resource.kind type.Value).readReference a)
      ((Resource.kind type.Value).readReference b) :=
    Shape.agree_read retokened
  rw [Resource.decodeReference, Resource.decodeReference]
  generalize (Resource.kind type.Value).readReference a = first at read
  generalize (Resource.kind type.Value).readReference b = second at read
  cases read with
  | error fault => exact .error _
  | ok differ => exact (follows_of_differ differ).record type rfl

end ResourceType

/-! ## Labelled resources and tags -/

namespace Retold

variable {s : String} {place : Place}

/-- Another kind of a labelled resource leaves its identity as it is. -/
theorem eq_ofIdentity {x y : TagResource} (retold : Retold s .tagResource [.field "res_type"] x y)
    (derived : ResourceType.tagResource.Derived y) :
    y = .ofIdentity { uuid := x.uuid, resourceUri := x.resourceUri, owner := x.owner }
      (some (Token.ofText s)) := by
  have same := retold.agreeBut.1
  simp only [ResourceType.tagResourceFields, List.forall_mem_cons] at same
  obtain ⟨uuid, resourceUri, owner, -⟩ := same
  have kind : y.type = Token.ofText s := by
    have member : ⟨"res_type", .variant, TagResource.type⟩ ∈ ResourceType.tagResource.fields := by
      simp [ResourceType.tagResourceFields]
    cases retold with
    | unread absent => exact absurd rfl (absent _ member)
    | token changed => cases ResourceType.field_unique changed member rfl
    | variant changed _ after =>
      cases ResourceType.field_unique changed member rfl
      exact after
    | record _ _ _ _ inside => cases inside
  rw [derived, kind, uuid (by decide), resourceUri (by decide), owner (by decide)]

/-- The resources of a tag keep their uuids. -/
theorem uuids_eq {x y : Tag} (retold : Retold s .tag place x y) :
    x.resources.filterMap TagResource.uuid = y.resources.filterMap TagResource.uuid := by
  have member : ⟨"resources", .records .tagResource, Tag.resources⟩ ∈ ResourceType.tag.fields := by
    simp [ResourceType.tagFields]
  have others {key : String} (others : ResourceType.tag.AgreeBut key x y)
      (different : key ≠ "resources") :
      x.resources.filterMap TagResource.uuid = y.resources.filterMap TagResource.uuid :=
    congrArg (List.filterMap TagResource.uuid) (others.1 _ member (Ne.symm different))
  cases retold with
  | unread => rfl
  | token changed agree | variant changed agree | record changed agree | entry _ _ changed agree =>
    refine others agree ?_
    rintro rfl
    cases ResourceType.field_unique changed member rfl
  | @item _ _ key _ _ _ _ a b front back changed agree before after inside =>
    by_cases here : key = "resources"
    · subst here
      cases ResourceType.field_unique changed member rfl
      have uuid : TagResource.uuid a = TagResource.uuid b := inside.text_eq List.mem_cons_self
      rw [before, after, List.filterMap_append, List.filterMap_append, List.filterMap_cons,
        List.filterMap_cons, uuid]
    · exact others agree here

/-- The body that is sent for a tag does not depend on tokens. -/
theorem requestBody_eq {x y : Tag} (retold : Retold s .tag place x y) :
    Sendable.requestBody x = Sendable.requestBody y := by
  have name : (⟨"name", .text, Tag.name⟩ : Field Tag) ∈ ResourceType.tag.fields := by
    simp [ResourceType.tagFields]
  have metadata : (⟨"meta", .metadata, Tag.metadata⟩ : Field Tag) ∈ ResourceType.tag.fields := by
    simp [ResourceType.tagFields]
  have sameName : x.name = y.name := retold.text_eq name
  have sameMetadata : x.metadata = y.metadata := retold.value_eq metadata rfl
  simp only [Sendable.requestBody, sameName, sameMetadata, retold.uuids_eq]

end Retold

/-! ## Every token of every type -/

/-- Exactly the tokens of the vocabulary are known: a text is read as the value with this
very token, and as `unrecognized` if there is none. No other value is without a token. -/
def ExactTokens (α : Type) [Vocabulary α] [DecidableEq α] : Prop :=
  (∀ (text : String) (value : α), Token.ofText text = value ↔
    Token.known? value = some text ∨
      (value = Vocabulary.unrecognized ∧ ∀ other : α, Token.known? other ≠ some text)) ∧
  ∀ value : α, Token.known? value = none ↔ value = Vocabulary.unrecognized

theorem exactTokens (α : Type) [Vocabulary α] [DecidableEq α] [ExactVocabulary α] :
    ExactTokens α :=
  ⟨fun _ _ => Token.ofText_eq_iff, ExactVocabulary.known?_eq_none⟩

/-- All vocabularies are read exactly. For every type of resources and every token at any
depth of a body: with any other text in its place the body has the same error, or it is
decoded to the same resource but for the part of the token, which has the value of the
text. A labelled resource with another kind keeps its identity and has nothing else, and
the same body is sent for a tag. -/
theorem unknown_tokens_contained :
    (ExactTokens DriveStatus ∧ ExactTokens MediaType ∧ ExactTokens ServerStatus ∧
      ExactTokens DeviceEmulationType ∧ ExactTokens NicModel ∧ ExactTokens IpConfigurationType ∧
      ExactTokens InterfaceType ∧ ExactTokens FirewallAction ∧ ExactTokens FirewallDirection ∧
      ExactTokens FirewallIpProtocol ∧ ExactTokens TagResourceType ∧
      ExactTokens SubscriptionStatus ∧ ExactTokens SubscriptionResource ∧
      ExactTokens ImageType) ∧
    (∀ (type : ResourceType) (s : String) (place : Place) (a b : Json),
      ((Shape.record type.kind).Within (Shape.Retokened s) place a b →
        Agree (Retold s type place) (Resource.decode a : Except DecodeError type.Value)
          (Resource.decode b)) ∧
      ((Shape.reference type.kind).Within (Shape.Retokened s) place a b →
        Agree (Retold s type place) (Resource.decodeReference a : Except DecodeError type.Value)
          (Resource.decodeReference b))) ∧
    (∀ (s : String) (a b : Json) (x y : TagResource),
      (Shape.record .tagResource).Within (Shape.Retokened s) [.field "res_type"] a b →
      Resource.decode a = .ok x → Resource.decode b = .ok y →
      y = .ofIdentity { uuid := x.uuid, resourceUri := x.resourceUri, owner := x.owner }
        (some (Token.ofText s))) ∧
    (∀ (s : String) (place : Place) (a b : Json) (x y : Tag),
      (Shape.record .tag).Within (Shape.Retokened s) place a b →
      Resource.decode a = .ok x → Resource.decode b = .ok y →
      Sendable.requestBody x = Sendable.requestBody y) := by
  have retold {type : ResourceType} {s : String} {place : Place} {a b : Json} {x y : type.Value}
      (retokened : (Shape.record type.kind).Within (Shape.Retokened s) place a b)
      (decoded : Resource.decode a = .ok x) (decodedOther : Resource.decode b = .ok y) :
      Retold s type place x y := by
    have agree := ResourceType.agree_decode retokened
    rw [decoded, decodedOther] at agree
    cases agree with
    | ok retold => exact retold
  refine ⟨⟨exactTokens _, exactTokens _, exactTokens _, exactTokens _, exactTokens _,
    exactTokens _, exactTokens _, exactTokens _, exactTokens _, exactTokens _, exactTokens _,
    exactTokens _, exactTokens _, exactTokens _⟩, ?_, ?_, ?_⟩
  · exact fun type s place a b =>
      ⟨ResourceType.agree_decode, ResourceType.agree_decodeReference⟩
  · intro s a b x y retokened decoded decodedOther
    have derived : ResourceType.tagResource.Derived y := by
      obtain ⟨record, -, converted⟩ := Resource.decode_eq_ok_iff.1 decodedOther
      exact ResourceType.derived_of_convert converted
    have here : Retold s .tagResource _ x y := retold retokened decoded decodedOther
    exact here.eq_ofIdentity derived
  · intro s place a b x y retokened decoded decodedOther
    have here : Retold s .tag place x y := retold retokened decoded decodedOther
    exact here.requestBody_eq

/-! ## A tag and an attached drive -/

namespace TokenExamples

/-- A tag that labels one resource of the given kind. -/
def tag (kind : String) : Json :=
  .object [
    ("name", .string "web"),
    ("resources", .array [.object [("res_type", .string kind), ("uuid", .string "r")]])]

/-- What the tag is decoded to. -/
def labelled (resource : TagResource) : Tag :=
  { name := some "web", resources := [resource] }

/-- A server with a drive of the given state. -/
def server (status : String) : Json :=
  .object [("drives", .array [
    .object [("drive", .object [("status", .string status), ("uuid", .string "d")])]])]

end TokenExamples

open TokenExamples in
/-- The kind of a labelled resource is read as it is spelled, and the same body is sent for
the tag with a kind that is not known; a server with a drive in a state that is not known
differs from one with a mounted drive in that state only. -/
theorem unknown_tokens_contained_examples :
    Resource.decode (tag "drives") = .ok (labelled (.drive { uuid := some "r" })) ∧
      Resource.decode (tag "Drives") = .ok (labelled (.unrecognized { uuid := some "r" })) ∧
      Sendable.requestBody (labelled (.drive { uuid := some "r" })) =
        Sendable.requestBody (labelled (.unrecognized { uuid := some "r" })) ∧
      Agree (Retold "detached" .serverInfo
          [.field "drives", .item 0, .field "drive", .field "status"])
        (Resource.decode (server "mounted") : Except DecodeError ServerInfo)
        (Resource.decode (server "detached")) := by
  obtain ⟨-, agree, -, body⟩ := unknown_tokens_contained
  have kind : (Shape.record .tag).Within (Shape.Retokened "Drives")
      [.field "resources", .item 0, .field "res_type"] (tag "drives") (tag "Drives") :=
    .member [_] [] rfl rfl (by decide) <| .item [] [] <| .here <|
      .member [] _ rfl (by decide) (by decide)
  have status : (Shape.record .server).Within (Shape.Retokened "detached")
      [.field "drives", .item 0, .field "drive", .field "status"]
      (server "mounted") (server "detached") :=
    .member [] [] rfl rfl (by decide) <| .item [] [] <| .member [] [] rfl rfl (by decide) <|
      .here <| .member [] _ rfl (by decide) (by decide)
  have decoded : Resource.decode (tag "drives") =
      .ok (labelled (.drive { uuid := some "r" })) := rfl
  have decodedOther : Resource.decode (tag "Drives") =
      .ok (labelled (.unrecognized { uuid := some "r" })) := rfl
  exact ⟨decoded, decodedOther, body _ _ _ _ _ _ kind decoded decodedOther,
    (agree .serverInfo _ _ _ _).1 status⟩

end CloudInventory
