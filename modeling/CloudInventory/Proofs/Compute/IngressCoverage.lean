import CloudInventory.Compute.Ingress
import CloudInventory.Proofs.Network.Membership

/-!
# What a translated policy admits

Packets give a meaning to both sides of the translation of a firewall policy into
the permissions of a security group: a rule matches packets, a permission admits
them. A permission knows neither source ports nor destination addresses nor
inverted matches, so a rule is first widened to what a permission can express.

Results:
1. `admitted_iff`: the packets that the permissions admit are those that some
   accepting rule matches once it is widened, less the IPv6 packets of the rules
   that name no source. An unset source is translated to `0.0.0.0/0` alone.
2. `FirewallRule.matches_widened`: widening loses no packet.
3. `admitted_iff_of_accepted`: an accepted packet is admitted exactly if it is an
   IPv4 packet or some widened rule that matches it names a source.
4. `accepted_ipv6_not_admitted`: the exception is real.
-/

namespace CloudInventory

/-! ## Definitions -/

/-- An inbound packet of a known transport protocol. -/
structure Packet where
  protocol : FirewallIpProtocol
  source : IpAddress
  sourcePort : UInt16
  destination : IpAddress
  destinationPort : UInt16
  recognized : Token.isRecognized protocol = true

namespace FirewallRule

/-- The rule is one that lets inbound traffic in. -/
def AcceptsInbound (rule : FirewallRule) : Prop :=
  rule.appliesInbound = true ∧ rule.action = some .accept

instance (rule : FirewallRule) : Decidable rule.AcceptsInbound :=
  inferInstanceAs (Decidable (_ ∧ _))

/-- The rule matches the packet: each field that is set selects its part of the
packet. An unrecognized protocol is that of no packet. -/
structure Matches (rule : FirewallRule) (packet : Packet) : Prop where
  protocol : ∀ protocol ∈ rule.ipProtocol, packet.protocol = protocol
  source : ∀ m ∈ rule.sourceIp, m.Matches packet.source
  sourcePort : ∀ range ∈ rule.sourcePort, range.Matches packet.sourcePort
  destination : ∀ m ∈ rule.destinationIp, m.Matches packet.destination
  destinationPort : ∀ range ∈ rule.destinationPort, range.Matches packet.destinationPort

/-- The rule without what a permission cannot express: source ports, destination
addresses and inverted ports are dropped, and an inverted source becomes its
family. -/
def widened (rule : FirewallRule) : FirewallRule :=
  { rule with
    sourceIp := rule.sourceIp.map fun m => ⟨m.collapsed, false⟩
    sourcePort := none
    destinationIp := none
    destinationPort := rule.destinationPort.filter fun range => !range.negated }

/-- The rule names a source, or the packet is one of IPv4. -/
def ReachesFamily (rule : FirewallRule) (packet : Packet) : Prop :=
  rule.sourceIp = none → packet.source.isIpv6 = false

end FirewallRule

/-- The permission lets the packet in. -/
structure IngressPermission.Admits (permission : IngressPermission) (packet : Packet) : Prop where
  protocol : permission.protocol = packet.protocol
  firstPort_le : permission.firstPort ≤ packet.destinationPort
  le_lastPort : packet.destinationPort ≤ permission.lastPort
  source : permission.source.Covers packet.source

namespace FirewallPolicy

/-- Some rule of the policy accepts the packet. -/
def Accepts (policy : FirewallPolicy) (packet : Packet) : Prop :=
  ∃ rule ∈ policy.rules, rule.AcceptsInbound ∧ rule.Matches packet

/-- Some permission that the policy translates to admits the packet. -/
def Admits (policy : FirewallPolicy) (packet : Packet) : Prop :=
  ∃ permission ∈ policy.ingressPermissions, permission.Admits packet

end FirewallPolicy

/-! ## One rule -/

namespace FirewallRule

/-- Widening loses no packet. -/
theorem matches_widened {rule : FirewallRule} {packet : Packet} (matched : rule.Matches packet) :
    rule.widened.Matches packet where
  protocol := matched.protocol
  source := by
    intro m member
    obtain ⟨source, isSource, rfl⟩ := Option.map_eq_some_iff.1 member
    exact AddressMatch.covers_collapsed_of_matches (matched.source source isSource)
  sourcePort := nofun
  destination := nofun
  destinationPort := by
    intro range member
    exact matched.destinationPort range (Option.filter_eq_some_iff.1 member).1

/-- A rule opens the protocol of a packet exactly if its protocol is unset or that
of the packet. -/
theorem mem_openedProtocols_iff {rule : FirewallRule} {packet : Packet} :
    packet.protocol ∈ rule.openedProtocols ↔
      ∀ protocol ∈ rule.ipProtocol, packet.protocol = protocol := by
  have recognized := packet.recognized
  unfold openedProtocols
  cases rule.ipProtocol with
  | none =>
    simp only [Option.not_mem_none, false_implies, implies_true, iff_true]
    -- A recognized protocol is one of the known ones.
    cases known : packet.protocol with
    | tcp => decide
    | udp => decide
    | unrecognized => rw [known] at recognized; exact absurd recognized (by decide)
  | some protocol =>
    simp only [Option.mem_some_iff, forall_eq']
    split
    next => exact List.mem_singleton
    next unknown =>
      constructor
      · intro member
        exact absurd member List.not_mem_nil
      · intro equal
        exact absurd (equal ▸ recognized) unknown

/-- A rule opens the port of a packet exactly if its widened form selects it. -/
theorem openedPorts_iff {rule : FirewallRule} {port : UInt16} :
    rule.openedPorts.1 ≤ port ∧ port ≤ rule.openedPorts.2 ↔
      ∀ range ∈ rule.widened.destinationPort, range.Matches port := by
  unfold openedPorts widened
  cases kept : rule.destinationPort.filter fun range => !range.negated with
  | none =>
    simp only [Option.not_mem_none, false_implies, implies_true, iff_true]
    have below : port.toNat < 65536 := port.toNat_lt
    exact ⟨UInt16.zero_le, UInt16.le_iff_toNat_le.2 (Nat.le_of_lt_succ below)⟩
  | some range =>
    have plain := (Option.filter_eq_some_iff.1 kept).2
    simp only [Option.mem_some_iff, forall_eq', PortRange.Matches, plain]
    exact PortRange.contains_iff.symm

/-- A rule opens its ports to a source exactly if its widened form selects the
source and the family of the source is reached. -/
theorem covers_openedSource_iff {rule : FirewallRule} {packet : Packet} :
    rule.openedSource.Covers packet.source ↔
      (∀ m ∈ rule.widened.sourceIp, m.Matches packet.source) ∧ rule.ReachesFamily packet := by
  unfold openedSource widened ReachesFamily
  cases rule.sourceIp with
  | none => simp [AddressBlock.covers_unrestricted]
  | some source => simp [AddressMatch.Matches]

theorem openedProtocols_of_unrecognized {x : FirewallRule}
    (unknown : x.ipProtocol = some .unrecognized) : x.openedProtocols = [] := by
  rw [openedProtocols, unknown]
  rfl

/-- The permissions that the rule contributes to those of its policy. -/
def opened (x : FirewallRule) : List IngressPermission :=
  if x.AcceptsInbound then x.permissions else []

/-- The permissions of a rule admit what its widened form matches, in the families
that it reaches. -/
theorem exists_permission_admits_iff {rule : FirewallRule} {packet : Packet} :
    (∃ permission ∈ rule.permissions, permission.Admits packet) ↔
      rule.widened.Matches packet ∧ rule.ReachesFamily packet := by
  constructor
  · rintro ⟨permission, member, admits⟩
    obtain ⟨protocol, opened, rfl⟩ := List.mem_map.1 member
    obtain ⟨source, family⟩ := covers_openedSource_iff.1 admits.source
    have known : packet.protocol ∈ rule.openedProtocols := admits.protocol ▸ opened
    exact ⟨{
      protocol := mem_openedProtocols_iff.1 known
      source := source
      sourcePort := nofun
      destination := nofun
      destinationPort := openedPorts_iff.1 ⟨admits.firstPort_le, admits.le_lastPort⟩ }, family⟩
  · rintro ⟨matched, family⟩
    have opened : packet.protocol ∈ rule.openedProtocols :=
      mem_openedProtocols_iff.2 matched.protocol
    obtain ⟨first, last⟩ := openedPorts_iff.2 matched.destinationPort
    exact ⟨_, List.mem_map_of_mem opened, {
      protocol := rfl
      firstPort_le := first
      le_lastPort := last
      source := covers_openedSource_iff.2 ⟨matched.source, family⟩ }⟩

end FirewallRule

/-! ## Policies -/

namespace FirewallPolicy

/-- The permissions of a policy are what its rules open, in rule order. -/
theorem ingressPermissions_eq (x : FirewallPolicy) :
    x.ingressPermissions = x.rules.flatMap FirewallRule.opened := by
  rw [ingressPermissions, inboundRules, List.filter_filter]
  induction x.rules with
  | nil => rfl
  | cons rule rules ih =>
    rw [List.flatMap_cons, ← ih, FirewallRule.opened, List.filter_cons]
    by_cases accepts : rule.AcceptsInbound
    · have kept : (rule.action == some .accept && rule.appliesInbound) = true := by
        rw [Bool.and_eq_true, beq_iff_eq]
        exact accepts.symm
      rw [if_pos accepts, if_pos kept, List.flatMap_cons]
    · have dropped : ¬ (rule.action == some .accept && rule.appliesInbound) = true := by
        rw [Bool.and_eq_true, beq_iff_eq]
        exact fun both => accepts both.symm
      rw [if_neg accepts, if_neg dropped, List.nil_append]

/-- The permissions of a policy are those of its accepting inbound rules. -/
theorem mem_ingressPermissions_iff {policy : FirewallPolicy} {permission : IngressPermission} :
    permission ∈ policy.ingressPermissions ↔
      ∃ rule ∈ policy.rules, rule.AcceptsInbound ∧ permission ∈ rule.permissions := by
  unfold ingressPermissions inboundRules FirewallRule.AcceptsInbound
  simp only [List.mem_flatMap, List.mem_filter, beq_iff_eq, and_assoc]

/-- The packets that the permissions of a policy admit. -/
theorem admitted_iff {policy : FirewallPolicy} {packet : Packet} :
    policy.Admits packet ↔
      ∃ rule ∈ policy.rules, rule.AcceptsInbound ∧ rule.widened.Matches packet ∧
        rule.ReachesFamily packet := by
  unfold Admits
  constructor
  · rintro ⟨permission, member, admits⟩
    obtain ⟨rule, inPolicy, accepts, ofRule⟩ := mem_ingressPermissions_iff.1 member
    exact ⟨rule, inPolicy, accepts,
      FirewallRule.exists_permission_admits_iff.1 ⟨permission, ofRule, admits⟩⟩
  · rintro ⟨rule, inPolicy, accepts, matched⟩
    obtain ⟨permission, ofRule, admits⟩ := FirewallRule.exists_permission_admits_iff.2 matched
    exact ⟨permission, mem_ingressPermissions_iff.2 ⟨rule, inPolicy, accepts, ofRule⟩, admits⟩

/-- A packet that a rule accepts is admitted, unless it is an IPv6 packet and no
widened rule that matches it names a source. -/
theorem admitted_iff_of_accepted {policy : FirewallPolicy} {packet : Packet}
    (accepted : policy.Accepts packet) :
    policy.Admits packet ↔
      (packet.source.isIpv6 = true →
        ∃ rule ∈ policy.rules, rule.AcceptsInbound ∧ rule.widened.Matches packet ∧
          rule.sourceIp ≠ none) := by
  rw [admitted_iff]
  constructor
  · rintro ⟨rule, inPolicy, accepts, matched, family⟩ ipv6
    refine ⟨rule, inPolicy, accepts, matched, ?_⟩
    intro unset
    rw [family unset] at ipv6
    exact Bool.noConfusion ipv6
  · intro named
    cases family : packet.source.isIpv6 with
    | false =>
      obtain ⟨rule, inPolicy, accepts, matched⟩ := accepted
      exact ⟨rule, inPolicy, accepts, FirewallRule.matches_widened matched, fun _ => family⟩
    | true =>
      obtain ⟨rule, inPolicy, accepts, matched, source⟩ := named family
      exact ⟨rule, inPolicy, accepts, matched, fun unset => absurd unset source⟩

end FirewallPolicy

/-! ## Packets of IPv6 -/

namespace IngressExamples

/-- A packet from `2001:db8::1` to port 443 of `2001:db8::2`. -/
def packet : Packet where
  protocol := .tcp
  source := .v6 ⟨#v[0x2001, 0xDB8, 0, 0, 0, 0, 0, 1]⟩
  sourcePort := 50000
  destination := .v6 ⟨#v[0x2001, 0xDB8, 0, 0, 0, 0, 0, 2]⟩
  destinationPort := 443
  recognized := by decide

/-- TCP from anywhere. -/
def anywhere : FirewallRule :=
  .acceptInbound .tcp

/-- TCP from anywhere but `2001:db8:ffff::/48`, to any port but 22. -/
def outside : FirewallRule :=
  { anywhere with
    sourceIp := some
      ⟨⟨.v6 ⟨#v[0x2001, 0xDB8, 0xFFFF, 0, 0, 0, 0, 0]⟩, some 48, by rintro _ ⟨⟩; decide⟩, true⟩
    destinationPort := some (PortRange.single 22).negate }

theorem anywhere_matches : anywhere.Matches packet where
  protocol := by rintro _ ⟨⟩; rfl
  source := nofun
  sourcePort := nofun
  destination := nofun
  destinationPort := nofun

theorem outside_matches : outside.Matches packet where
  protocol := by rintro _ ⟨⟩; rfl
  source := by rintro _ ⟨⟩; decide
  sourcePort := nofun
  destination := nofun
  destinationPort := by rintro _ ⟨⟩; decide

end IngressExamples

open IngressExamples

/-- The permissions of a policy with both rules admit the packet, because one of
them names a source. -/
theorem admitted_iff_of_accepted_ipv6 :
    FirewallPolicy.Accepts { rules := [anywhere, outside] } packet ∧
      FirewallPolicy.Admits { rules := [anywhere, outside] } packet := by
  have accepted : FirewallPolicy.Accepts { rules := [anywhere, outside] } packet :=
    ⟨anywhere, by simp, by decide, anywhere_matches⟩
  refine ⟨accepted, (FirewallPolicy.admitted_iff_of_accepted accepted).2 fun _ => ?_⟩
  exact ⟨outside, by simp, by decide, FirewallRule.matches_widened outside_matches, nofun⟩

/-- A rule without a source accepts the packet, and none of the permissions of its
policy admits it. -/
theorem accepted_ipv6_not_admitted :
    FirewallPolicy.Accepts { rules := [anywhere] } packet ∧
      ¬ FirewallPolicy.Admits { rules := [anywhere] } packet := by
  refine ⟨⟨anywhere, by simp, by decide, anywhere_matches⟩, ?_⟩
  rw [FirewallPolicy.admitted_iff]
  rintro ⟨rule, inPolicy, _, _, family⟩
  rw [List.mem_singleton.1 inPolicy] at family
  exact absurd (family rfl) (by decide)

end CloudInventory
