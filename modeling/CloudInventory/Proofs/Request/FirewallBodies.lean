import CloudInventory.Request.Firewall
import CloudInventory.Proofs.Compute.IngressCoverage
import CloudInventory.Proofs.Network.MatchText
import CloudInventory.Proofs.Request.ResourceBodies

/-!
# Reading back the bodies of firewall policies

A rule is sent with its addresses and ports as text, and each text is read as what it
was written for. The three tokens of a rule are sent only if they are recognized: a
rule comes back without the ones that are not.

Results:
1. `FirewallPolicy.unwrapSingle_of_known_tokens`: with known tokens the rules come
   back exactly.
2. `FirewallPolicy.ingressPermissions_of_read_back`: what a policy opens is opened by
   the policy that comes back; nothing more is opened exactly if no accepting inbound
   rule has an unrecognized protocol.
3. `unrecognized_protocol_opens_more`: such a rule opens nothing before it is sent and
   every known protocol after.
-/

namespace CloudInventory

/-! ## Rules -/

theorem AddressMatch.decode_text (value : Option AddressMatch) :
    decode (value.map text) = .ok value := by
  cases value with
  | none => rfl
  | some x => exact x.parse_text

theorem PortRange.decode_text (value : Option PortRange) :
    decode (value.map fun x => .text x.text) = .ok value := by
  cases value with
  | none => rfl
  | some x => exact x.parse_text

namespace FirewallRule

def canonicalFields (x : FirewallRule) : List (String × Option Json) := [
  ("action", Member.token x.action),
  ("comment", Member.text x.comment),
  ("direction", Member.token x.direction),
  ("ip_proto", Member.token x.ipProtocol),
  ("src_ip", Member.text (x.sourceIp.map AddressMatch.text)),
  ("src_port", Member.text (x.sourcePort.map PortRange.text)),
  ("dst_ip", Member.text (x.destinationIp.map AddressMatch.text)),
  ("dst_port", Member.text (x.destinationPort.map PortRange.text))]

def asSent (x : FirewallRule) : FirewallRule :=
  { x with
    action := x.action.filter Token.isRecognized
    direction := x.direction.filter Token.isRecognized
    ipProtocol := x.ipProtocol.filter Token.isRecognized }

theorem read_requestBody (x : FirewallRule) :
    RecordKind.firewallRule.read (Sendable.requestBody x) = .ok (.ofFields x.canonicalFields) := by
  refine RecordKind.read_ofFields ?_
  exact .cons (.intro rfl (.token _)) <|
    .cons (.intro rfl (.text _)) <|
    .cons (.intro rfl (.token _)) <|
    .cons (.intro rfl (.token _)) <|
    .cons (.intro rfl (.text _)) <|
    .cons (.intro rfl (.scalarText _)) <|
    .cons (.intro rfl (.text _)) <|
    .cons (.intro rfl (.scalarText _)) .nil

theorem ofRecord_eq (x : FirewallRule) (record : Json)
    (found : record.HasFields x.canonicalFields) : ofRecord record = .ok x.asSent := by
  have action : record.tokenField "action" = x.action.filter Token.isRecognized :=
    Json.tokenField_of_token (found "action")
  have comment : record.textField "comment" = x.comment := Json.textField_of_text (found "comment")
  have direction : record.tokenField "direction" = x.direction.filter Token.isRecognized :=
    Json.tokenField_of_token (found "direction")
  have ipProtocol : record.tokenField "ip_proto" = x.ipProtocol.filter Token.isRecognized :=
    Json.tokenField_of_token (found "ip_proto")
  have sourceIp : AddressMatch.decode (record.textField "src_ip") = .ok x.sourceIp := by
    rw [Json.textField_of_text (found "src_ip"), AddressMatch.decode_text]
  have sourcePort : PortRange.decode (record.scalarField "src_port") = .ok x.sourcePort := by
    rw [Json.scalarField_of_text (found "src_port"), Option.map_map]
    exact PortRange.decode_text x.sourcePort
  have destinationIp : AddressMatch.decode (record.textField "dst_ip") = .ok x.destinationIp := by
    rw [Json.textField_of_text (found "dst_ip"), AddressMatch.decode_text]
  have destinationPort :
      PortRange.decode (record.scalarField "dst_port") = .ok x.destinationPort := by
    rw [Json.scalarField_of_text (found "dst_port"), Option.map_map]
    exact PortRange.decode_text x.destinationPort
  simp only [ofRecord, action, comment, direction, ipProtocol, sourceIp, sourcePort,
    destinationIp, destinationPort]
  rfl

theorem requestBody_asSent (x : FirewallRule) :
    Sendable.requestBody x.asSent = Sendable.requestBody x := by
  simp only [Sendable.requestBody, asSent, Member.token_filter]

instance : ReadsBack FirewallRule where
  canonicalFields := canonicalFields
  asSent := asSent
  distinct x := by simp [canonicalFields]
  read_requestBody := read_requestBody
  ofRecord_eq := ofRecord_eq
  requestBody_asSent := requestBody_asSent

/-- Each token of the rule is unset or a known one. -/
def HasKnownTokens (x : FirewallRule) : Prop :=
  x.action.all Token.isRecognized = true ∧ x.direction.all Token.isRecognized = true ∧
    x.ipProtocol.all Token.isRecognized = true

instance (x : FirewallRule) : Decidable x.HasKnownTokens :=
  inferInstanceAs (Decidable (_ ∧ _ ∧ _))

/-- A rule with known tokens comes back as it is. -/
theorem asSent_of_known_tokens {x : FirewallRule} (known : x.HasKnownTokens) : x.asSent = x := by
  have kept {α : Type} {p : α → Bool} {value : Option α} (all : value.all p = true) :
      value.filter p = value := by
    cases value with
    | none => rfl
    | some y => exact Option.filter_some_pos all
  obtain ⟨action, direction, ipProtocol⟩ := known
  rw [asSent, kept action, kept direction, kept ipProtocol]

end FirewallRule

/-! ## Policies -/

namespace FirewallPolicy

def canonicalFields (x : FirewallPolicy) : List (String × Option Json) := [
  ("name", Member.text x.name),
  ("meta", Member.metadata x.metadata),
  ("rules", Member.list (fun rule => .ofFields rule.canonicalFields) x.rules),
  ("tags", Member.records .tag (x.tags.filterMap Tag.uuid))]

def asSent (x : FirewallPolicy) : FirewallPolicy where
  name := x.name
  rules := x.rules.map FirewallRule.asSent
  tags := Tag.ofIdentifiers (x.tags.filterMap Tag.uuid)
  metadata := x.metadata

theorem read_requestBody (x : FirewallPolicy) :
    RecordKind.firewallPolicy.read (Sendable.requestBody x) =
      .ok (.ofFields x.canonicalFields) := by
  refine RecordKind.read_ofFields ?_
  exact .cons (.intro rfl (.text _)) <|
    .cons (.intro rfl (.metadata _)) <|
    .cons (.intro rfl (.list FirewallRule.read_requestBody _)) <|
    .cons (.intro rfl (.identifiers .tag _)) .nil

theorem ofRecord_eq (x : FirewallPolicy) (record : Json)
    (found : record.HasFields x.canonicalFields) : ofRecord record = .ok x.asSent := by
  have uuid : record.textField "uuid" = none := Json.textField_of_text (found "uuid")
  have resourceUri : record.textField "resource_uri" = none :=
    Json.textField_of_text (found "resource_uri")
  have owner : record.recordField Owner.ofRecord "owner" = .ok none :=
    Json.recordField_of_absent (found "owner")
  have name : record.textField "name" = x.name := Json.textField_of_text (found "name")
  have rules : record.recordsField FirewallRule.ofRecord "rules" = .ok x.asSent.rules :=
    Json.recordsField_of_list (found "rules") ReadsBack.ofRecord_canonicalFields
  have servers : record.recordsField Server.ofRecord "servers" = .ok [] :=
    Json.recordsField_of_absent (found "servers")
  have tags : record.recordsField Tag.ofRecord "tags" = .ok x.asSent.tags :=
    Json.tagsField_of_tags (found "tags")
  have metadata : record.metaField "meta" = x.metadata := Json.metaField_of_metadata (found "meta")
  simp only [ofRecord, uuid, resourceUri, owner, name, rules, servers, tags, metadata]
  rfl

theorem requestBody_eq (x : FirewallPolicy) : Sendable.requestBody x = .ofFields [
    ("name", Member.text x.name),
    ("meta", Member.metadata x.metadata),
    ("rules", Member.list Sendable.requestBody x.rules),
    ("tags", Member.tags x.tags)] := rfl

theorem requestBody_asSent (x : FirewallPolicy) :
    Sendable.requestBody x.asSent = Sendable.requestBody x := by
  have rules : Member.list Sendable.requestBody x.asSent.rules =
      Member.list Sendable.requestBody x.rules := ReadsBack.list_requestBody_asSent _
  have tags : Member.tags x.asSent.tags = Member.tags x.tags := Member.tags_ofIdentifiers _
  rw [requestBody_eq, rules, tags]
  rfl

instance : ReadsBack FirewallPolicy where
  canonicalFields := canonicalFields
  asSent := asSent
  distinct x := by simp [canonicalFields]
  read_requestBody := read_requestBody
  ofRecord_eq := ofRecord_eq
  requestBody_asSent := requestBody_asSent

/-- A policy whose rules have known tokens comes back with its rules, name and metadata;
of a tag only the identifier comes back. -/
theorem unwrapSingle_of_known_tokens {policy : FirewallPolicy}
    (known : ∀ rule ∈ policy.rules, rule.HasKnownTokens) :
    unwrapSingle FirewallPolicy (some (objectsBody [Sendable.requestBody policy])) = .ok (some {
      name := policy.name
      rules := policy.rules
      tags := (policy.tags.filterMap Tag.uuid).map fun uuid => { uuid := some uuid }
      metadata := policy.metadata }) := by
  -- The rules alone depend on their tokens; the rest of the policy always comes back so.
  have rules : policy.rules.map FirewallRule.asSent = policy.rules.map id :=
    List.map_congr_left fun rule member => FirewallRule.asSent_of_known_tokens (known rule member)
  rw [List.map_id] at rules
  rw [ReadsBack.unwrapSingle_objectsBody policy]
  show Except.ok (some policy.asSent) = _
  rw [asSent, rules]
  rfl

end FirewallPolicy

namespace FirewallExamples

/-- A rule for UDP from outside `2001:db8::/32` to any port from 1024 on. -/
def outside : FirewallRule where
  action := some .accept
  direction := some .both
  ipProtocol := some .udp
  sourceIp := some
    ⟨⟨.v6 ⟨#v[0x2001, 0xDB8, 0, 0, 0, 0, 0, 0]⟩, some 32, by rintro _ ⟨⟩; decide⟩, true⟩
  destinationPort := some ⟨0, 1023, true, by decide⟩

/-- A rule without tokens for one mapped address and one source port. -/
def mapped : FirewallRule where
  comment := some "resolver"
  sourcePort := some (.single 53)
  destinationIp := some ⟨⟨.v6 ⟨#v[0, 0, 0, 0, 0, 0xFFFF, 0xC0A8, 1]⟩, none, nofun⟩, false⟩

def policy : FirewallPolicy where
  name := some "edge"
  rules := [outside, mapped]
  tags := [{ name := some "unnamed" }, { uuid := some "t-1" }]
  metadata := .ofList [("team", "network")]

end FirewallExamples

theorem unwrapSingle_of_known_tokens_edge :
    (∀ rule ∈ FirewallExamples.policy.rules, rule.HasKnownTokens) ∧
      unwrapSingle FirewallPolicy
        (some (objectsBody [Sendable.requestBody FirewallExamples.policy])) = .ok (some {
          name := some "edge"
          rules := [FirewallExamples.outside, FirewallExamples.mapped]
          tags := [{ uuid := some "t-1" }]
          metadata := .ofList [("team", "network")] }) := by
  have known : ∀ rule ∈ FirewallExamples.policy.rules, rule.HasKnownTokens := by decide
  exact ⟨known, FirewallPolicy.unwrapSingle_of_known_tokens known⟩

/-! ## What comes back opens -/

section

variable {α β : Type} {f g : α → List β} (grows : ∀ x, (f x).Sublist (g x))

include grows

theorem flatMap_sublist_flatMap (xs : List α) : (xs.flatMap f).Sublist (xs.flatMap g) := by
  induction xs with
  | nil => exact .slnil
  | cons x xs ih =>
    rw [List.flatMap_cons, List.flatMap_cons]
    exact (grows x).append ih

/-- If no item loses elements, nothing is gained exactly if no item gains any. -/
theorem flatMap_eq_flatMap_iff (xs : List α) :
    xs.flatMap g = xs.flatMap f ↔ ∀ x ∈ xs, g x = f x := by
  induction xs with
  | nil => exact ⟨nofun, fun _ => rfl⟩
  | cons x xs ih =>
    rw [List.flatMap_cons, List.flatMap_cons, List.forall_mem_cons, ← ih]
    constructor
    · intro same
      -- No part is shorter than before, so equal lengths of the whole make the parts equal.
      have lengths := congrArg List.length same
      rw [List.length_append, List.length_append] at lengths
      have first := (grows x).length_le
      have rest := (flatMap_sublist_flatMap grows xs).length_le
      have sameFirst : f x = g x := (grows x).eq_of_length (by omega)
      rw [← sameFirst] at same
      exact ⟨sameFirst.symm, List.append_cancel_left same⟩
    · rintro ⟨sameFirst, sameRest⟩
      rw [sameFirst, sameRest]

end

namespace FirewallRule

theorem appliesInbound_asSent (x : FirewallRule) : x.asSent.appliesInbound = x.appliesInbound := by
  unfold appliesInbound asSent
  rcases x.direction with _ | direction
  · rfl
  · cases direction <;> rfl

theorem acceptsInbound_asSent_iff (x : FirewallRule) :
    x.asSent.AcceptsInbound ↔ x.AcceptsInbound := by
  have accept (action : Option FirewallAction) :
      action.filter Token.isRecognized = some .accept ↔ action = some .accept := by
    rcases action with _ | action
    · decide
    · cases action <;> decide
  unfold AcceptsInbound
  rw [appliesInbound_asSent]
  exact and_congr_right fun _ => accept x.action

/-- Without its unrecognized protocol a rule names none, and stands for every known one. -/
theorem openedProtocols_asSent (x : FirewallRule) :
    x.asSent.openedProtocols =
      if x.ipProtocol = some .unrecognized then [.tcp, .udp] else x.openedProtocols := by
  unfold openedProtocols asSent
  rcases x.ipProtocol with _ | protocol
  · rfl
  · cases protocol <;> rfl

theorem opened_asSent (x : FirewallRule) :
    x.asSent.opened =
      if x.AcceptsInbound then
        x.asSent.openedProtocols.map fun protocol =>
          ⟨protocol, x.openedPorts.1, x.openedPorts.2, x.openedSource⟩
      else [] := by
  rw [opened, if_congr x.acceptsInbound_asSent_iff rfl rfl]
  rfl

theorem opened_sublist_opened_asSent (x : FirewallRule) : x.opened.Sublist x.asSent.opened := by
  rw [opened_asSent, opened]
  split
  next =>
    apply List.Sublist.map
    rw [openedProtocols_asSent]
    split
    next unknown =>
      rw [openedProtocols_of_unrecognized unknown]
      exact List.nil_sublist _
    next => exact List.Sublist.refl _
  next => exact .slnil

/-- A rule opens more when it comes back exactly if it accepts inbound traffic of an
unrecognized protocol. -/
theorem opened_asSent_eq_iff (x : FirewallRule) :
    x.asSent.opened = x.opened ↔ (x.AcceptsInbound → x.ipProtocol ≠ some .unrecognized) := by
  rw [opened_asSent, opened, openedProtocols_asSent]
  by_cases accepts : x.AcceptsInbound
  · rw [if_pos accepts, if_pos accepts]
    by_cases unknown : x.ipProtocol = some .unrecognized
    · rw [if_pos unknown, permissions, openedProtocols_of_unrecognized unknown]
      exact ⟨fun same => absurd same (List.cons_ne_nil _ _),
        fun recognized => absurd unknown (recognized accepts)⟩
    · rw [if_neg unknown]
      exact ⟨fun _ _ => unknown, fun _ => rfl⟩
  · rw [if_neg accepts, if_neg accepts]
    exact ⟨fun _ yes => absurd yes accepts, fun _ => rfl⟩

end FirewallRule

namespace FirewallPolicy

/-- A policy that is sent and read back opens all that it opened. It opens nothing more
exactly if no rule that accepts inbound traffic has an unrecognized protocol. -/
theorem ingressPermissions_of_read_back (policy : FirewallPolicy) :
    ∃ readBack : FirewallPolicy,
      unwrapSingle FirewallPolicy (some (objectsBody [Sendable.requestBody policy])) =
        .ok (some readBack) ∧
      policy.ingressPermissions.Sublist readBack.ingressPermissions ∧
      (readBack.ingressPermissions = policy.ingressPermissions ↔
        ∀ rule ∈ policy.rules, rule.AcceptsInbound → rule.ipProtocol ≠ some .unrecognized) := by
  refine ⟨policy.asSent, ReadsBack.unwrapSingle_objectsBody policy, ?_⟩
  -- Both sides collect what each rule opens, so the policies are compared rule by rule.
  have before := policy.ingressPermissions_eq
  have after : policy.asSent.ingressPermissions =
      policy.rules.flatMap fun rule => rule.asSent.opened := by
    rw [ingressPermissions_eq, asSent, List.flatMap_map]
  rw [before, after]
  constructor
  · exact flatMap_sublist_flatMap FirewallRule.opened_sublist_opened_asSent policy.rules
  · rw [flatMap_eq_flatMap_iff FirewallRule.opened_sublist_opened_asSent]
    exact forall₂_congr fun rule _ => rule.opened_asSent_eq_iff

end FirewallPolicy

/-- A rule for inbound traffic of an unrecognized protocol opens nothing. Sent and read
back it has no protocol, and opens every port to both known ones. -/
theorem unrecognized_protocol_opens_more :
    unwrapSingle FirewallPolicy (some (objectsBody [Sendable.requestBody
        ({ rules := [.acceptInbound .unrecognized] } : FirewallPolicy)])) =
      .ok (some { rules := [{ action := some .accept, direction := some .inbound }] }) ∧
    FirewallPolicy.ingressPermissions { rules := [.acceptInbound .unrecognized] } = [] ∧
    FirewallPolicy.ingressPermissions
        { rules := [{ action := some .accept, direction := some .inbound }] } =
      [⟨.tcp, 0, 65535, .unrestricted false⟩, ⟨.udp, 0, 65535, .unrestricted false⟩] :=
  ⟨ReadsBack.unwrapSingle_objectsBody _, rfl, rfl⟩

end CloudInventory
