import CloudInventory.Resource.Server

/-!
# Equality of servers

Equality is decidable for the summary of a server and for the records that nest
with it: a comparison field by field, which holds exactly of equal values.
-/

namespace CloudInventory

mutual

/-- Whether two servers are equal. -/
def Server.same : Server → Server → Bool
  | ⟨uuid, uri, owner, name, status, runtime⟩, ⟨uuid', uri', owner', name', status', runtime'⟩ =>
    decide (uuid = uuid') && decide (uri = uri') && decide (owner = owner') &&
      decide (name = name') && decide (status = status') &&
      match runtime, runtime' with
      | none, none => true
      | some a, some b => a.same b
      | _, _ => false

/-- Whether two runtime states are equal. -/
def ServerRuntime.same : ServerRuntime → ServerRuntime → Bool
  | ⟨since, nics, status⟩, ⟨since', nics', status'⟩ =>
    decide (since = since') && decide (status = status') && NicStats.sameList nics nics'

/-- Whether two lists of interface states are equal. -/
def NicStats.sameList : List NicStats → List NicStats → Bool
  | [], [] => true
  | a :: as, b :: bs => a.same b && NicStats.sameList as bs
  | _, _ => false

/-- Whether two interface states are equal. -/
def NicStats.same : NicStats → NicStats → Bool
  | ⟨type, io, ipv4, ipv6, mac⟩, ⟨type', io', ipv4', ipv6', mac'⟩ =>
    decide (type = type') && decide (io = io') && decide (mac = mac') &&
      (match ipv4, ipv4' with
      | none, none => true
      | some a, some b => a.same b
      | _, _ => false) &&
      match ipv6, ipv6' with
      | none, none => true
      | some a, some b => a.same b
      | _, _ => false

/-- Whether two addresses are equal. -/
def Ip.same : Ip → Ip → Bool
  | ⟨uuid, uri, owner, server⟩, ⟨uuid', uri', owner', server'⟩ =>
    decide (uuid = uuid') && decide (uri = uri') && decide (owner = owner') &&
      match server, server' with
      | none, none => true
      | some a, some b => a.same b
      | _, _ => false

end

mutual

theorem Server.eq_of_same : {a b : Server} → a.same b = true → a = b
  | ⟨_, _, _, _, _, none⟩, ⟨_, _, _, _, _, none⟩, h => by simp_all [Server.same]
  | ⟨_, _, _, _, _, none⟩, ⟨_, _, _, _, _, some _⟩, h => by simp [Server.same] at h
  | ⟨_, _, _, _, _, some _⟩, ⟨_, _, _, _, _, none⟩, h => by simp [Server.same] at h
  | ⟨_, _, _, _, _, some a⟩, ⟨_, _, _, _, _, some b⟩, h => by
    simp only [Server.same, Bool.and_eq_true, decide_eq_true_eq] at h
    obtain ⟨⟨⟨⟨⟨rfl, rfl⟩, rfl⟩, rfl⟩, rfl⟩, same⟩ := h
    rw [show a = b from ServerRuntime.eq_of_same same]

theorem ServerRuntime.eq_of_same : {a b : ServerRuntime} → a.same b = true → a = b
  | ⟨_, nics, _⟩, ⟨_, nics', _⟩, h => by
    simp only [ServerRuntime.same, Bool.and_eq_true, decide_eq_true_eq] at h
    obtain ⟨⟨rfl, rfl⟩, h⟩ := h
    rw [show nics = nics' from NicStats.eq_of_sameList h]

theorem NicStats.eq_of_sameList : {as bs : List NicStats} → NicStats.sameList as bs = true → as = bs
  | [], bs, h => by cases bs <;> simp_all [NicStats.sameList]
  | a :: as, bs, h => by
    cases bs with
    | nil => simp [NicStats.sameList] at h
    | cons b bs =>
      simp only [NicStats.sameList, Bool.and_eq_true] at h
      rw [NicStats.eq_of_same h.1, NicStats.eq_of_sameList h.2]

theorem NicStats.eq_of_same : {a b : NicStats} → a.same b = true → a = b
  | ⟨_, _, none, none, _⟩, ⟨_, _, none, none, _⟩, h => by simp_all [NicStats.same]
  | ⟨_, _, some x, none, _⟩, ⟨_, _, some y, none, _⟩, h => by
    simp only [NicStats.same, Bool.and_eq_true, decide_eq_true_eq] at h
    obtain ⟨⟨⟨⟨rfl, rfl⟩, rfl⟩, same⟩, _⟩ := h
    rw [show x = y from Ip.eq_of_same same]
  | ⟨_, _, none, some x, _⟩, ⟨_, _, none, some y, _⟩, h => by
    simp only [NicStats.same, Bool.and_eq_true, decide_eq_true_eq] at h
    obtain ⟨⟨⟨⟨rfl, rfl⟩, rfl⟩, _⟩, same⟩ := h
    rw [show x = y from Ip.eq_of_same same]
  | ⟨_, _, some x, some v, _⟩, ⟨_, _, some y, some w, _⟩, h => by
    simp only [NicStats.same, Bool.and_eq_true, decide_eq_true_eq] at h
    obtain ⟨⟨⟨⟨rfl, rfl⟩, rfl⟩, first⟩, second⟩ := h
    rw [show x = y from Ip.eq_of_same first, show v = w from Ip.eq_of_same second]
  | ⟨_, _, none, v, _⟩, ⟨_, _, some _, w, _⟩, h => by
    cases v <;> cases w <;> simp [NicStats.same] at h
  | ⟨_, _, some _, v, _⟩, ⟨_, _, none, w, _⟩, h => by
    cases v <;> cases w <;> simp [NicStats.same] at h
  | ⟨_, _, none, none, _⟩, ⟨_, _, none, some _, _⟩, h => by simp [NicStats.same] at h
  | ⟨_, _, none, some _, _⟩, ⟨_, _, none, none, _⟩, h => by simp [NicStats.same] at h
  | ⟨_, _, some _, none, _⟩, ⟨_, _, some _, some _, _⟩, h => by simp [NicStats.same] at h
  | ⟨_, _, some _, some _, _⟩, ⟨_, _, some _, none, _⟩, h => by simp [NicStats.same] at h

theorem Ip.eq_of_same : {a b : Ip} → a.same b = true → a = b
  | ⟨_, _, _, none⟩, ⟨_, _, _, none⟩, h => by simp_all [Ip.same]
  | ⟨_, _, _, none⟩, ⟨_, _, _, some _⟩, h => by simp [Ip.same] at h
  | ⟨_, _, _, some _⟩, ⟨_, _, _, none⟩, h => by simp [Ip.same] at h
  | ⟨_, _, _, some a⟩, ⟨_, _, _, some b⟩, h => by
    simp only [Ip.same, Bool.and_eq_true, decide_eq_true_eq] at h
    obtain ⟨⟨⟨rfl, rfl⟩, rfl⟩, same⟩ := h
    rw [show a = b from Server.eq_of_same same]

end

mutual

theorem Server.same_refl : (a : Server) → a.same a = true
  | ⟨_, _, _, _, _, none⟩ => by simp [Server.same]
  | ⟨_, _, _, _, _, some runtime⟩ => by simp [Server.same, runtime.same_refl]

theorem ServerRuntime.same_refl : (a : ServerRuntime) → a.same a = true
  | ⟨_, nics, _⟩ => by simp [ServerRuntime.same, NicStats.sameList_refl nics]

theorem NicStats.sameList_refl : (as : List NicStats) → NicStats.sameList as as = true
  | [] => by simp [NicStats.sameList]
  | a :: as => by simp [NicStats.sameList, a.same_refl, NicStats.sameList_refl as]

theorem NicStats.same_refl : (a : NicStats) → a.same a = true
  | ⟨_, _, none, none, _⟩ => by simp [NicStats.same]
  | ⟨_, _, some x, none, _⟩ => by simp [NicStats.same, x.same_refl]
  | ⟨_, _, none, some y, _⟩ => by simp [NicStats.same, y.same_refl]
  | ⟨_, _, some x, some y, _⟩ => by simp [NicStats.same, x.same_refl, y.same_refl]

theorem Ip.same_refl : (a : Ip) → a.same a = true
  | ⟨_, _, _, none⟩ => by simp [Ip.same]
  | ⟨_, _, _, some server⟩ => by simp [Ip.same, server.same_refl]

end

instance : DecidableEq Server := fun a b =>
  decidable_of_iff (a.same b = true) ⟨Server.eq_of_same, fun h => h ▸ a.same_refl⟩

instance : DecidableEq ServerRuntime := fun a b =>
  decidable_of_iff (a.same b = true) ⟨ServerRuntime.eq_of_same, fun h => h ▸ a.same_refl⟩

instance : DecidableEq NicStats := fun a b =>
  decidable_of_iff (a.same b = true) ⟨NicStats.eq_of_same, fun h => h ▸ a.same_refl⟩

instance : DecidableEq Ip := fun a b =>
  decidable_of_iff (a.same b = true) ⟨Ip.eq_of_same, fun h => h ▸ a.same_refl⟩

end CloudInventory
