import CloudInventory.Compute.Node

/-!
# The addresses of a node

An interface is known under an IPv4 address: the one bound to it, or else the one that is
configured. A node lists the addresses of all interfaces of its server, private ones apart,
and takes what is configured for an interface only where nothing is bound to it at all. So
both agree but in one case: an IPv6 address is bound to the interface and no IPv4 address is.
Then its configured IPv4 address is not listed, unless another interface brings it in.

Results:
1. `Nic.isPrivate_iff`: which interfaces are private.
2. `Nic.mem_addresses_iff`: which interfaces list the IPv4 address that they are known under.
3. `ComputeNode.mem_addressesOn_iff`: what a node lists on either side.
4. `ComputeNode.ipv4Address_listed_iff`: when the address of an interface is listed.
-/

namespace CloudInventory

namespace Nic

/-- No IPv4 address is bound to the interface, but an IPv6 address that is another text than
the given one. -/
def Overshadows (x : Nic) (address : String) : Prop :=
  x.runtime.bind NicStats.ipv4 = none ∧
    ∃ bound, (x.runtime.bind NicStats.ipv6).bind Ip.uuid = some bound ∧ bound ≠ address

variable {x : Nic} {address : String}

/-- An interface is private on a VLAN, or if it says so while it runs. -/
theorem isPrivate_iff :
    x.isPrivate = true ↔
      x.vlan.isSome = true ∨ x.runtime.bind NicStats.interfaceType = some .privateNetwork := by
  rw [isPrivate, Bool.or_eq_true, beq_iff_eq]

/-! ## One interface -/

theorem filterMap_pair {α β : Type} (f : α → Option β) (first second : α) :
    [first, second].filterMap f = (f first).toList ++ (f second).toList := by
  rw [List.filterMap_cons, List.filterMap_cons, List.filterMap_nil]
  cases f first <;> cases f second <;> rfl

theorem boundAddresses_eq (x : Nic) :
    x.boundAddresses = ((x.runtime.bind NicStats.ipv4).bind Ip.uuid).toList ++
      ((x.runtime.bind NicStats.ipv6).bind Ip.uuid).toList :=
  filterMap_pair _ _ _

theorem configuredAddresses_eq (x : Nic) :
    x.configuredAddresses =
      ((x.ipv4Configuration.bind IpConfiguration.ip).bind Ip.uuid).toList ++
        ((x.ipv6Configuration.bind IpConfiguration.ip).bind Ip.uuid).toList :=
  filterMap_pair _ _ _

/-- An interface lists the IPv4 address that it is known under, unless an IPv6 address stands
before it. -/
theorem mem_addresses_iff (known : x.ipv4Address = some address) :
    address ∈ x.addresses ↔ ¬ x.Overshadows address := by
  unfold ipv4Address at known
  rw [addresses, boundAddresses_eq, configuredAddresses_eq, Overshadows]
  cases bound : x.runtime.bind NicStats.ipv4 with
  | some ip =>
    have named : ip.uuid = some address := by rwa [bound] at known
    rw [Option.bind_some, named, Option.toList_some, List.singleton_append, List.isEmpty_cons,
      if_neg Bool.false_ne_true]
    exact iff_of_true List.mem_cons_self (fun ⟨unbound, _⟩ => nomatch unbound)
  | none =>
    rw [bound, Option.none_or] at known
    rw [Option.bind_none, Option.toList_none, List.nil_append, known]
    cases (x.runtime.bind NicStats.ipv6).bind Ip.uuid with
    | none =>
      -- Nothing is bound, so the configuration counts, and the address is its first.
      rw [Option.toList_none, List.isEmpty_nil, if_pos rfl]
      exact iff_of_true List.mem_cons_self (fun ⟨_, _, found, _⟩ => nomatch found)
    | some ipv6 =>
      rw [Option.toList_some, List.isEmpty_cons, if_neg Bool.false_ne_true, List.mem_singleton]
      constructor
      · rintro rfl ⟨-, _, ⟨⟩, different⟩
        exact different rfl
      · intro visible
        by_cases same : ipv6 = address
        · exact same.symm
        · exact absurd ⟨rfl, ipv6, rfl, same⟩ visible

end Nic

namespace ComputeNode

/-! ## All interfaces -/

/-- The private addresses of a node, or the public ones. -/
def addressesOn (node : ComputeNode) (isPrivate : Bool) : List String :=
  if isPrivate then node.privateAddresses else node.publicAddresses

variable {server : ServerInfo} {address : String}

/-- A node lists what the interfaces of the same side list. -/
theorem mem_addressesOn_iff (side : Bool) (bootDrive image : Option String) :
    address ∈ (ofServer server bootDrive image).addressesOn side ↔
      ∃ nic ∈ server.nics, nic.isPrivate = side ∧ address ∈ nic.addresses := by
  cases side <;>
    simp only [addressesOn, ofServer, if_true, Bool.false_eq_true, if_false, List.mem_flatMap,
      List.mem_filter, Bool.not_eq_true', and_assoc]

/-- The IPv4 address of an interface is listed on the side of the interface, unless an IPv6
address is bound to the interface and no IPv4 address is, and no other interface of the same
side brings the address in. -/
theorem ipv4Address_listed_iff {nic : Nic} (member : nic ∈ server.nics)
    (known : nic.ipv4Address = some address) (bootDrive image : Option String) :
    (nic.isPrivate = true ↔
      nic.vlan.isSome = true ∨ nic.runtime.bind NicStats.interfaceType = some .privateNetwork) ∧
    (address ∈ (ofServer server bootDrive image).addressesOn nic.isPrivate ↔
      ¬ nic.Overshadows address ∨
        ∃ other ∈ server.nics, other ≠ nic ∧ other.isPrivate = nic.isPrivate ∧
          address ∈ other.addresses) := by
  refine ⟨Nic.isPrivate_iff, (mem_addressesOn_iff _ _ _).trans ⟨?_, ?_⟩⟩
  · rintro ⟨other, isMember, sameSide, lists⟩
    by_cases same : other = nic
    · exact .inl ((Nic.mem_addresses_iff known).1 (same ▸ lists))
    · exact .inr ⟨other, isMember, same, sameSide, lists⟩
  · rintro (visible | ⟨other, isMember, -, sameSide, lists⟩)
    · exact ⟨nic, member, rfl, (Nic.mem_addresses_iff known).2 visible⟩
    · exact ⟨other, isMember, sameSide, lists⟩

end ComputeNode

/-! ## A server with a stack of both families -/

namespace NodeAddressExamples

/-- An interface on a VLAN, with an address of each family bound to it. -/
def inside : Nic :=
  { vlan := some { uuid := some "v1" }
    runtime := some
      { ipv4 := some { uuid := some "10.0.0.5" }, ipv6 := some { uuid := some "fd00::5" } } }

/-- An interface with an IPv4 address in its configuration, and an IPv6 address bound to it. -/
def outside : Nic :=
  { ipv4Configuration := some
      { configurationType := some .fixed, ip := some { uuid := some "185.12.6.183" } }
    runtime := some
      { interfaceType := some .publicNetwork, ipv6 := some { uuid := some "2a02::1" } } }

/-- A server with both interfaces. -/
def server : ServerInfo :=
  { nics := [inside, outside] }

end NodeAddressExamples

open NodeAddressExamples in
/-- The address on the VLAN is listed, and the configured one is not. -/
theorem ComputeNode.ipv4Address_listed_iff_both :
    (inside ∈ server.nics ∧ inside.ipv4Address = some "10.0.0.5" ∧
      "10.0.0.5" ∈ (ofServer server none none).addressesOn inside.isPrivate) ∧
    (outside ∈ server.nics ∧ outside.ipv4Address = some "185.12.6.183" ∧
      "185.12.6.183" ∉ (ofServer server none none).addressesOn outside.isPrivate) := by
  have first : inside ∈ server.nics := List.mem_cons_self
  have second : outside ∈ server.nics := List.mem_cons_of_mem _ List.mem_cons_self
  refine ⟨⟨first, rfl, ?_⟩, second, rfl, ?_⟩
  · refine (ComputeNode.ipv4Address_listed_iff first rfl none none).2.2 (.inl ?_)
    rintro ⟨unbound, -⟩
    cases unbound
  · intro lists
    rcases (ComputeNode.ipv4Address_listed_iff second rfl none none).2.1 lists with
      visible | ⟨other, isMember, different, sameSide, -⟩
    · exact visible ⟨rfl, "2a02::1", rfl, by decide⟩
    · simp only [server, List.mem_cons, List.not_mem_nil, or_false] at isMember
      rcases isMember with rfl | rfl
      · exact absurd sameSide (by decide)
      · exact different rfl

open NodeAddressExamples in
/-- An interface of a server is known under an IPv4 address that the node does not list. -/
theorem ComputeNode.bound_ipv6_hides_ipv4 :
    ¬ (outside ∈ server.nics → outside.ipv4Address = some "185.12.6.183" →
      if outside.isPrivate then "185.12.6.183" ∈ (ofServer server none none).privateAddresses
      else "185.12.6.183" ∈ (ofServer server none none).publicAddresses) := by
  intro claimed
  exact absurd (claimed (List.mem_cons_of_mem _ List.mem_cons_self) rfl) (by decide)

end CloudInventory
