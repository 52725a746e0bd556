import CloudInventory.Proofs.Compute.IngressCoverage

/-!
# What a translated policy grants at most

A security group must not let in what no rule of the policy speaks of. What it lets in
beyond the rules is what a permission cannot say: inverted ports, source ports and
destination addresses are ignored, and of an inverted source only the family is left.
Nothing else is granted, and nothing at all by a rule that does not accept inbound
traffic of a known protocol.

Results:
1. `FirewallRule.widened_matches_iff`: what the widened form of a rule matches, said of
   the rule itself.
2. `FirewallRule.opened_eq_nil_iff`: the rules that open nothing.
3. `FirewallPolicy.admits_iff_accepts`: where permissions can say all that the rules say,
   the policy admits exactly what it accepts.
4. `FirewallPolicy.grants_within_widening`: the whole of it, with the order and the bounds
   of the permissions.
-/

namespace CloudInventory

namespace FirewallRule

/-! ## Definitions -/

/-- The rule accepts inbound traffic, of a known protocol or of all of them. -/
def Contributes (rule : FirewallRule) : Prop :=
  rule.action = some .accept ∧
    (rule.direction = some .inbound ∨ rule.direction = some .both) ∧
    rule.ipProtocol ≠ some .unrecognized

instance (rule : FirewallRule) : Decidable rule.Contributes :=
  inferInstanceAs (Decidable (_ ∧ _ ∧ _))

/-- The rule matches the packet as far as a permission can tell: inverted ports, source
ports and destination addresses are ignored, and an inverted source stands for any address
of its family. -/
structure MatchesLoosely (rule : FirewallRule) (packet : Packet) : Prop where
  protocol : ∀ protocol ∈ rule.ipProtocol, packet.protocol = protocol
  source : ∀ m ∈ rule.sourceIp,
    if m.negated then packet.source.isIpv6 = m.network.isIpv6
    else m.network.Covers packet.source
  destinationPort : ∀ range ∈ rule.destinationPort, range.negated = false →
    range.first ≤ packet.destinationPort ∧ packet.destinationPort ≤ range.last

/-- A permission can say all that the rule says: it names a source, which is not inverted,
nor are its ports, and it restricts neither source ports nor destination addresses. -/
structure Expressible (rule : FirewallRule) : Prop where
  source : ∃ m, rule.sourceIp = some m ∧ m.negated = false
  sourcePort : rule.sourcePort = none
  destination : rule.destinationIp = none
  destinationPort : ∀ range ∈ rule.destinationPort, range.negated = false

/-! ## One rule -/

variable {rule : FirewallRule} {packet : Packet}

theorem appliesInbound_iff :
    rule.appliesInbound = true ↔
      rule.direction = some .inbound ∨ rule.direction = some .both := by
  unfold appliesInbound
  rcases rule.direction with _ | direction
  · decide
  · cases direction <;> decide

theorem contributes_iff :
    rule.Contributes ↔ rule.AcceptsInbound ∧ rule.ipProtocol ≠ some .unrecognized := by
  unfold Contributes AcceptsInbound
  rw [appliesInbound_iff]
  constructor
  · rintro ⟨accept, inbound, known⟩
    exact ⟨⟨inbound, accept⟩, known⟩
  · rintro ⟨⟨inbound, accept⟩, known⟩
    exact ⟨accept, inbound, known⟩

/-- A rule opens no protocol exactly if its own is an unrecognized one. -/
theorem openedProtocols_eq_nil_iff :
    rule.openedProtocols = [] ↔ rule.ipProtocol = some .unrecognized := by
  unfold openedProtocols
  rcases rule.ipProtocol with _ | protocol
  · decide
  · cases protocol <;> decide

/-- The rules that contribute are exactly those that open anything. -/
theorem opened_eq_nil_iff : rule.opened = [] ↔ ¬ rule.Contributes := by
  rw [contributes_iff, Decidable.not_and_not_right, opened]
  by_cases accepts : rule.AcceptsInbound
  · rw [if_pos accepts, permissions, List.map_eq_nil_iff, openedProtocols_eq_nil_iff]
    exact ⟨fun unknown _ => unknown, fun unknown => unknown accepts⟩
  · rw [if_neg accepts]
    exact ⟨fun _ yes => absurd yes accepts, fun _ => rfl⟩

/-- A rule that matches a packet, if only loosely, has no unrecognized protocol. -/
theorem MatchesLoosely.contributes (matched : rule.MatchesLoosely packet)
    (accepts : rule.AcceptsInbound) : rule.Contributes := by
  refine contributes_iff.2 ⟨accepts, fun unknown => ?_⟩
  have recognized := packet.recognized
  rw [matched.protocol .unrecognized unknown] at recognized
  exact absurd recognized (by decide)

/-- The widened form of a rule matches what the rule matches loosely. -/
theorem widened_matches_iff : rule.widened.Matches packet ↔ rule.MatchesLoosely packet := by
  have source (m : AddressMatch) :
      AddressMatch.Matches ⟨m.collapsed, false⟩ packet.source ↔
        if m.negated then packet.source.isIpv6 = m.network.isIpv6
        else m.network.Covers packet.source := by
    show m.collapsed.Covers packet.source ↔ _
    unfold AddressMatch.collapsed
    split
    next => exact AddressBlock.covers_unrestricted _ _
    next => exact Iff.rfl
  have port {range : PortRange} (plain : range.negated = false) :
      range.Matches packet.destinationPort ↔
        range.first ≤ packet.destinationPort ∧ packet.destinationPort ≤ range.last := by
    rw [PortRange.Matches, plain]
    exact PortRange.contains_iff
  constructor
  · intro matched
    refine ⟨matched.protocol, fun m named => ?_, fun range named plain => ?_⟩
    · exact (source m).1 (matched.source _ (Option.mem_map_of_mem _ named))
    · have kept : range ∈ rule.widened.destinationPort :=
        Option.filter_eq_some_iff.2 ⟨named, by rw [plain]; rfl⟩
      exact (port plain).1 (matched.destinationPort range kept)
  · intro matched
    refine ⟨matched.protocol, ?_, fun _ named => absurd named (Option.not_mem_none _),
      fun _ named => absurd named (Option.not_mem_none _), ?_⟩
    · intro m named
      obtain ⟨own, isOwn, rfl⟩ := Option.map_eq_some_iff.1 named
      exact (source own).2 (matched.source own isOwn)
    · intro range named
      obtain ⟨own, keep⟩ := Option.filter_eq_some_iff.1 named
      have plain : range.negated = false := by simpa using keep
      exact (port plain).2 (matched.destinationPort range own plain)

/-- Nothing is widened in a rule that a permission can express. -/
theorem Expressible.widened_eq (expressible : rule.Expressible) : rule.widened = rule := by
  obtain ⟨⟨⟨network, negated⟩, named, rfl⟩, sourcePort, destination, plain⟩ := expressible
  have ports : rule.destinationPort.filter (fun range => !range.negated) =
      rule.destinationPort := by
    cases given : rule.destinationPort with
    | none => rfl
    | some range => rw [Option.filter_some, plain range given, Bool.not_false, if_pos rfl]
  unfold widened
  rw [ports, named, Option.map_some, AddressMatch.collapsed, if_neg Bool.false_ne_true]
  cases rule
  simp only at named sourcePort destination
  rw [named, sourcePort, destination]

/-- The permissions of a rule have their ports in order. -/
theorem openedPorts_le (rule : FirewallRule) : rule.openedPorts.1 ≤ rule.openedPorts.2 := by
  unfold openedPorts
  split
  next range _ => exact range.first_le_last
  next => decide

end FirewallRule

/-! ## Policies -/

namespace FirewallPolicy

variable {policy : FirewallPolicy} {packet : Packet}

/-- What is admitted is matched, if only loosely, by a rule that contributes. -/
theorem exists_matchesLoosely_of_admits (admitted : policy.Admits packet) :
    ∃ rule ∈ policy.rules, rule.Contributes ∧ rule.MatchesLoosely packet := by
  obtain ⟨rule, inPolicy, accepts, matched, -⟩ := admitted_iff.1 admitted
  have loosely := FirewallRule.widened_matches_iff.1 matched
  exact ⟨rule, inPolicy, loosely.contributes accepts, loosely⟩

/-- Where a permission can express every rule that contributes, the policy admits exactly
what it accepts. -/
theorem admits_iff_accepts
    (expressible : ∀ rule ∈ policy.rules, rule.Contributes → rule.Expressible) :
    policy.Admits packet ↔ policy.Accepts packet := by
  rw [admitted_iff]
  constructor
  · rintro ⟨rule, inPolicy, accepts, matched, -⟩
    have contributes := (FirewallRule.widened_matches_iff.1 matched).contributes accepts
    rw [(expressible rule inPolicy contributes).widened_eq] at matched
    exact ⟨rule, inPolicy, accepts, matched⟩
  · rintro ⟨rule, inPolicy, accepts, matched⟩
    have widened := FirewallRule.matches_widened matched
    have contributes := (FirewallRule.widened_matches_iff.1 widened).contributes accepts
    obtain ⟨m, named, -⟩ := (expressible rule inPolicy contributes).source
    -- The source is named, so the family of the packet does not matter.
    exact ⟨rule, inPolicy, accepts, widened, fun unset => nomatch named.symm.trans unset⟩

/-- The permissions of rules after others follow theirs. -/
theorem ingressPermissions_append {front back : List FirewallRule}
    (split : policy.rules = front ++ back) :
    policy.ingressPermissions =
      ingressPermissions { policy with rules := front } ++
        ingressPermissions { policy with rules := back } := by
  rw [ingressPermissions_eq, ingressPermissions_eq, ingressPermissions_eq, split,
    List.flatMap_append]

/-- A rule that does not contribute can be left out. -/
theorem ingressPermissions_of_not_contributes {front back : List FirewallRule}
    {rule : FirewallRule} (split : policy.rules = front ++ rule :: back)
    (idle : ¬ rule.Contributes) :
    policy.ingressPermissions = ingressPermissions { policy with rules := front ++ back } := by
  rw [ingressPermissions_eq, ingressPermissions_eq, split, List.flatMap_append,
    List.flatMap_append, List.flatMap_cons, FirewallRule.opened_eq_nil_iff.2 idle,
    List.nil_append]

/-- Every permission has its ports in order. -/
theorem firstPort_le_lastPort {permission : IngressPermission}
    (member : permission ∈ policy.ingressPermissions) :
    permission.firstPort ≤ permission.lastPort := by
  obtain ⟨rule, -, -, ofRule⟩ := mem_ingressPermissions_iff.1 member
  obtain ⟨protocol, -, rfl⟩ := List.mem_map.1 ofRule
  exact rule.openedPorts_le

/-- A policy grants nothing beyond what a permission cannot say of its rules. Every packet
that it admits is matched loosely by a rule that accepts inbound traffic of no unrecognized
protocol, and any other rule, wherever it stands, changes nothing. If the rules that
contribute name a source and nothing that a permission cannot say, a packet is admitted
exactly if a rule accepts it. The permissions stand in rule order, those of some rules
before those of the rules behind them, and the first port of each is not above the last. -/
theorem grants_within_widening (policy : FirewallPolicy) :
    (∀ packet, policy.Admits packet →
      ∃ rule ∈ policy.rules, rule.Contributes ∧ rule.MatchesLoosely packet) ∧
    (∀ front rule back, policy.rules = front ++ rule :: back → ¬ rule.Contributes →
      policy.ingressPermissions = ingressPermissions { policy with rules := front ++ back }) ∧
    ((∀ rule ∈ policy.rules, rule.Contributes → rule.Expressible) →
      ∀ packet, policy.Admits packet ↔ policy.Accepts packet) ∧
    (∀ front back, policy.rules = front ++ back →
      policy.ingressPermissions =
        ingressPermissions { policy with rules := front } ++
          ingressPermissions { policy with rules := back }) ∧
    ∀ permission ∈ policy.ingressPermissions, permission.firstPort ≤ permission.lastPort := by
  refine ⟨?_, ?_, ?_, ?_, ?_⟩
  · intro packet admitted
    exact exists_matchesLoosely_of_admits admitted
  · intro front rule back split idle
    exact ingressPermissions_of_not_contributes split idle
  · intro expressible packet
    exact admits_iff_accepts expressible
  · intro front back split
    exact ingressPermissions_append split
  · intro permission member
    exact firstPort_le_lastPort member

end FirewallPolicy

/-! ## A drop rule before an accept rule -/

namespace IngressExamples

/-- Drops all inbound traffic. -/
def dropping : FirewallRule :=
  { action := some .drop, direction := some .inbound }

/-- TCP from `10.0.0.0/8` to port 443. -/
def office : FirewallRule :=
  { FirewallRule.acceptInbound .tcp with
    sourceIp := some ⟨⟨.v4 ⟨10, 0, 0, 0⟩, some 8, by rintro _ ⟨⟩; decide⟩, false⟩
    destinationPort := some (.single 443) }

/-- A packet from an address of IPv4 to port 443. -/
def packetFrom (source : Ipv4) : Packet where
  protocol := .tcp
  source := .v4 source
  sourcePort := 50000
  destination := .v4 ⟨192, 0, 2, 1⟩
  destinationPort := 443
  recognized := rfl

theorem office_expressible : office.Expressible where
  source := ⟨_, rfl, rfl⟩
  sourcePort := rfl
  destination := rfl
  destinationPort := by rintro _ ⟨⟩; rfl

theorem office_matches : office.Matches (packetFrom ⟨10, 1, 2, 3⟩) where
  protocol := by rintro _ ⟨⟩; rfl
  source := by rintro _ ⟨⟩; decide
  sourcePort := nofun
  destination := nofun
  destinationPort := by rintro _ ⟨⟩; decide

end IngressExamples

open IngressExamples

/-- The drop rule changes nothing, a packet from the named block is admitted, and one from
elsewhere is not. -/
theorem grants_within_widening_office :
    FirewallPolicy.ingressPermissions { rules := [dropping, office] } =
        FirewallPolicy.ingressPermissions { rules := [office] } ∧
      FirewallPolicy.Admits { rules := [dropping, office] } (packetFrom ⟨10, 1, 2, 3⟩) ∧
      ¬ FirewallPolicy.Admits { rules := [dropping, office] } (packetFrom ⟨11, 1, 2, 3⟩) := by
  obtain ⟨within, idle, exact, -, -⟩ :=
    FirewallPolicy.grants_within_widening { rules := [dropping, office] }
  have drops : ¬ dropping.Contributes := by decide
  have only : ∀ rule ∈ [dropping, office], rule.Contributes → rule = office := by
    intro rule member contributes
    rcases List.mem_cons.1 member with rfl | rest
    · exact absurd contributes drops
    · exact List.mem_singleton.1 rest
  refine ⟨idle [] dropping [office] rfl drops, (exact ?_ _).2 ?_, fun admitted => ?_⟩
  · intro rule member contributes
    rw [only rule member contributes]
    exact office_expressible
  · exact ⟨office, by simp, by decide, office_matches⟩
  · obtain ⟨rule, member, contributes, loosely⟩ := within _ admitted
    rw [only rule member contributes] at loosely
    exact absurd (loosely.source _ rfl) (by decide)

end CloudInventory
