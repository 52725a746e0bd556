import CloudInventory.Resource.DriveInfo

/-!
# Drive caches

A bounded store of drive details by uuid. A cache holds each uuid at most once and
never more entries than its capacity, which is at least one. What a full cache
gives up is not part of its contract: every insertion takes the rule as a
parameter, and a rule may give up entries only when there are too many.
-/

namespace CloudInventory

/-- A rule by which a cache that is too full chooses the entries that it keeps. -/
structure EvictionPolicy where
  /-- The entries that remain, of a list with the newest first. -/
  keep : (capacity : Nat) → List (String × DriveInfo) → List (String × DriveInfo)
  keep_sublist : ∀ capacity entries, (keep capacity entries).Sublist entries
  length_keep_le : ∀ capacity entries, (keep capacity entries).length ≤ capacity
  keep_eq_self : ∀ capacity entries, entries.length ≤ capacity → keep capacity entries = entries

/-- The rule that keeps the newest entries. -/
def EvictionPolicy.newest : EvictionPolicy where
  keep capacity entries := entries.take capacity
  keep_sublist := List.take_sublist
  length_keep_le := List.length_take_le
  keep_eq_self _ _ fits := List.take_of_length_le fits

/-- A bounded store of drive details. -/
structure DriveCache where
  capacity : Nat
  /-- The entries, the newest first. -/
  entries : List (String × DriveInfo)
  /-- The number of entries when they were last counted. -/
  counted : Nat
  capacity_pos : 0 < capacity
  distinct : (entries.map Prod.fst).Nodup
  length_le : entries.length ≤ capacity

namespace DriveCache

/-- The capacity of a cache that is made without one. -/
def defaultCapacity : Nat := 256

/-- The cache without entries. A capacity of zero is raised to one. -/
def empty (capacity : Nat) : DriveCache where
  capacity := max capacity 1
  entries := []
  counted := 0
  capacity_pos := by omega
  distinct := List.nodup_nil
  length_le := by simp

instance : Inhabited DriveCache := ⟨empty defaultCapacity⟩

/-- The details kept for a uuid. -/
def get? (x : DriveCache) (uuid : String) : Option DriveInfo :=
  x.entries.lookup uuid

def contains (x : DriveCache) (uuid : String) : Bool :=
  (x.get? uuid).isSome

/-- The number of entries. -/
def size (x : DriveCache) : Nat :=
  x.entries.length

def isEmpty (x : DriveCache) : Bool :=
  x.size == 0

/-- The entries under other uuids. -/
def others (x : DriveCache) (uuid : String) : List (String × DriveInfo) :=
  x.entries.filter fun entry => entry.1 != uuid

theorem others_sublist (x : DriveCache) (uuid : String) : (x.others uuid).Sublist x.entries :=
  List.filter_sublist

theorem nodup_others (x : DriveCache) (uuid : String) :
    ((x.others uuid).map Prod.fst).Nodup :=
  x.distinct.sublist ((x.others_sublist uuid).map Prod.fst)

theorem not_mem_others (x : DriveCache) (uuid : String) :
    uuid ∉ (x.others uuid).map Prod.fst := by
  simp [others]

/-- The entries that an insertion offers to the rule of eviction. -/
def offered (x : DriveCache) (uuid : String) (drive : DriveInfo) : List (String × DriveInfo) :=
  (uuid, drive) :: x.others uuid

theorem nodup_offered (x : DriveCache) (uuid : String) (drive : DriveInfo) :
    ((x.offered uuid drive).map Prod.fst).Nodup :=
  List.nodup_cons.2 ⟨x.not_mem_others uuid, x.nodup_others uuid⟩

/-- The cache with new details for a uuid in place of older ones. -/
def insert (policy : EvictionPolicy) (x : DriveCache) (uuid : String) (drive : DriveInfo) :
    DriveCache where
  capacity := x.capacity
  entries := policy.keep x.capacity (x.offered uuid drive)
  counted := x.counted
  capacity_pos := x.capacity_pos
  distinct :=
    (x.nodup_offered uuid drive).sublist ((policy.keep_sublist _ _).map Prod.fst)
  length_le := policy.length_keep_le _ _

/-- The cache without details for a uuid. -/
def remove (x : DriveCache) (uuid : String) : DriveCache where
  capacity := x.capacity
  entries := x.others uuid
  counted := x.counted
  capacity_pos := x.capacity_pos
  distinct := x.nodup_others uuid
  length_le := Nat.le_trans (x.others_sublist uuid).length_le x.length_le

/-- The cache without entries, of the same capacity. -/
def clear (x : DriveCache) : DriveCache where
  capacity := x.capacity
  entries := []
  counted := x.counted
  capacity_pos := x.capacity_pos
  distinct := List.nodup_nil
  length_le := by simp

/-! ## What operations leave -/

theorem get?_empty (capacity : Nat) (uuid : String) : (empty capacity).get? uuid = none := rfl

theorem get?_clear (x : DriveCache) (uuid : String) : x.clear.get? uuid = none := rfl

theorem lookup_filter_self (entries : List (String × DriveInfo)) (uuid : String) :
    (entries.filter fun entry => entry.1 != uuid).lookup uuid = none := by
  induction entries with
  | nil => rfl
  | cons entry rest ih =>
    obtain ⟨key, drive⟩ := entry
    by_cases same : key = uuid
    · simp [same, ih]
    · have apart : (uuid == key) = false := beq_false_of_ne (Ne.symm same)
      simp [List.lookup_cons, same, apart, ih]

theorem lookup_filter_of_ne (entries : List (String × DriveInfo)) {uuid other : String}
    (different : other ≠ uuid) :
    (entries.filter fun entry => entry.1 != uuid).lookup other = entries.lookup other := by
  induction entries with
  | nil => rfl
  | cons entry rest ih =>
    obtain ⟨key, drive⟩ := entry
    by_cases same : key = uuid
    · have apart : (other == key) = false := beq_false_of_ne (same ▸ different)
      simp only [same, bne_self_eq_false, Bool.false_eq_true, not_false_eq_true,
        List.filter_cons_of_neg, ih, List.lookup_cons]
      rw [← same, apart]
    · simp [List.lookup_cons, same, ih]

/-- What was removed is gone. -/
theorem get?_remove_self (x : DriveCache) (uuid : String) : (x.remove uuid).get? uuid = none :=
  lookup_filter_self x.entries uuid

/-- Removing touches no other uuid. -/
theorem get?_remove_of_ne (x : DriveCache) {uuid other : String} (different : other ≠ uuid) :
    (x.remove uuid).get? other = x.get? other :=
  lookup_filter_of_ne x.entries different

/-! ## Diagnostics -/

/-- The cache after its entries have been counted. -/
def recounted (x : DriveCache) : DriveCache :=
  { x with counted := x.size }

/-- A description for diagnostics. It shows the last count and does not count anew. -/
def describe (x : DriveCache) : String :=
  "DriveCache \x7b capacity: " ++ Text.numeralText x.capacity ++ ", len: " ++
    Text.numeralText x.counted ++ " \x7d"

end DriveCache

end CloudInventory
