import CloudInventory.Compute.DriveCache
import CloudInventory.Proofs.Json.Fields
import Mathlib.Data.Set.Card

/-!
# Drive caches and their histories

A cache is compared with the operations that led to it. What it finds under a uuid is what
was inserted last, or nothing, since any entry may have been evicted; and nothing is evicted
as long as everything fits. Every insertion evicts by a rule of its own, so the histories
range over all choices of what is given up.

Results:
1. `EvictionPolicy.exists_keeping`: every choice of entries that fit is that of some rule.
2. `DriveCache.get?_insert`: what an insertion may do to what is found.
3. `DriveCache.latestInsert_of_get?`: what is found is what was inserted last.
4. `DriveCache.get?_of_latestInsert`: it is found as long as all uuids fit.
5. `DriveCache.clear_eq_foldl_remove`: clearing is removing every uuid that is there.
6. `DriveCache.bounded_store`: the whole of it.
-/

namespace CloudInventory

/-! ## Histories -/

/-- An operation on a drive cache. An insertion evicts by a rule of its own. -/
inductive CacheOperation where
  | insert (policy : EvictionPolicy) (uuid : String) (drive : DriveInfo)
  | get (uuid : String)
  | contains (uuid : String)
  | remove (uuid : String)
  | clear

/-- What an operation answers. -/
inductive CacheAnswer where
  | nothing
  | drive (found : Option DriveInfo)
  | present (found : Bool)

namespace DriveCache

/-- The answer to an operation, and the cache after it. A removal answers with what it
removes. -/
def perform (cache : DriveCache) : CacheOperation → CacheAnswer × DriveCache
  | .insert policy uuid drive => (.nothing, cache.insert policy uuid drive)
  | .get uuid => (.drive (cache.get? uuid), cache)
  | .contains uuid => (.present (cache.contains uuid), cache)
  | .remove uuid => (.drive (cache.get? uuid), cache.remove uuid)
  | .clear => (.nothing, cache.clear)

/-- The cache after operations. -/
def after (cache : DriveCache) (history : List CacheOperation) : DriveCache :=
  history.foldl (fun cache operation => (cache.perform operation).2) cache

end DriveCache

/-- The operation may change what is kept under the uuid, by more than an eviction. -/
def CacheOperation.Touches (uuid : String) : CacheOperation → Prop
  | insert _ other _ => other = uuid
  | get _ => False
  | contains _ => False
  | remove other => other = uuid
  | clear => True

/-- The drive was inserted under the uuid, and since then there was neither an insertion
nor a removal of the uuid, nor was the cache cleared. -/
def LatestInsert (history : List CacheOperation) (uuid : String) (drive : DriveInfo) : Prop :=
  ∃ policy before after, history = before ++ .insert policy uuid drive :: after ∧
    ∀ operation ∈ after, ¬ operation.Touches uuid

section

variable {history : List CacheOperation} {operation : CacheOperation} {uuid : String}
  {drive : DriveInfo}

/-- The last operation is the insertion, or the insertion was the latest before it and the
last operation leaves the uuid alone. -/
theorem latestInsert_concat_iff :
    LatestInsert (history ++ [operation]) uuid drive ↔
      (∃ policy, operation = .insert policy uuid drive) ∨
        (¬ operation.Touches uuid ∧ LatestInsert history uuid drive) := by
  constructor
  · rintro ⟨policy, before, rest, split, quiet⟩
    rcases List.eq_nil_or_concat rest with rfl | ⟨rest, last, rfl⟩
    · obtain ⟨-, same⟩ := List.append_inj' split rfl
      exact .inl ⟨policy, (List.cons.inj same).1⟩
    · rw [List.concat_eq_append] at split quiet
      rw [← List.cons_append, ← List.append_assoc] at split
      obtain ⟨rfl, same⟩ := List.append_inj' split rfl
      obtain ⟨rfl, -⟩ := List.cons.inj same
      exact .inr ⟨quiet _ List.mem_concat_self, policy, before, rest, rfl,
        fun other member => quiet other (List.mem_append_left _ member)⟩
  · rintro (⟨policy, rfl⟩ | ⟨untouched, policy, before, rest, rfl, quiet⟩)
    · exact ⟨policy, history, [], rfl, fun _ member => absurd member List.not_mem_nil⟩
    · refine ⟨policy, before, rest ++ [operation], by simp, fun other member => ?_⟩
      rcases List.mem_append.1 member with earlier | last
      · exact quiet other earlier
      · exact List.mem_singleton.1 last ▸ untouched

theorem not_latestInsert_nil : ¬ LatestInsert [] uuid drive := by
  rintro ⟨policy, before, rest, split, -⟩
  exact absurd split.symm (by simp)

/-- There is one latest insertion at most. -/
theorem LatestInsert.unique {other : DriveInfo} (latest : LatestInsert history uuid drive)
    (latestOther : LatestInsert history uuid other) : drive = other := by
  induction history using List.reverseRecOn with
  | nil => exact absurd latest not_latestInsert_nil
  | append_singleton history operation ih =>
    rcases latestInsert_concat_iff.1 latest with ⟨policy, rfl⟩ | ⟨untouched, earlier⟩
    · rcases latestInsert_concat_iff.1 latestOther with ⟨_, same⟩ | ⟨untouched, -⟩
      · exact (CacheOperation.insert.inj same).2.2
      · exact absurd rfl untouched
    · rcases latestInsert_concat_iff.1 latestOther with ⟨_, rfl⟩ | ⟨-, earlierOther⟩
      · exact absurd rfl untouched
      · exact ih earlier earlierOther

end

/-! ## Choices of what is kept -/

/-- A rule may keep any entries that fit, in their order, of too many. -/
theorem EvictionPolicy.exists_keeping {capacity : Nat} {entries kept : List (String × DriveInfo)}
    (sublist : kept.Sublist entries) (fits : kept.length ≤ capacity)
    (tooMany : capacity < entries.length) :
    ∃ policy : EvictionPolicy, policy.keep capacity entries = kept := by
  classical
  refine ⟨{
    keep := fun limit offered =>
      if limit = capacity ∧ offered = entries then kept else offered.take limit
    keep_sublist := fun limit offered => ?_
    length_keep_le := fun limit offered => ?_
    keep_eq_self := fun limit offered small => ?_ }, if_pos ⟨rfl, rfl⟩⟩
  · split
    next same => exact same.2 ▸ sublist
    next => exact List.take_sublist limit offered
  · split
    next same => exact same.1 ▸ fits
    next => exact List.length_take_le limit offered
  · split
    next same =>
      obtain ⟨rfl, rfl⟩ := same
      exact absurd small (Nat.not_le_of_lt tooMany)
    next => exact List.take_of_length_le small

namespace DriveCache

/-! ## One operation -/

section

variable {cache : DriveCache} {uuid other : String} {drive newer : DriveInfo}

/-- A cache finds exactly its entries. -/
theorem get?_eq_some_iff : cache.get? uuid = some drive ↔ (uuid, drive) ∈ cache.entries :=
  ⟨Json.mem_of_lookup, lookup_of_mem cache.distinct⟩

theorem contains_iff : cache.contains uuid = true ↔ uuid ∈ cache.entries.map Prod.fst := by
  rw [contains, Option.isSome_iff_exists, List.mem_map]
  constructor
  · rintro ⟨drive, found⟩
    exact ⟨_, get?_eq_some_iff.1 found, rfl⟩
  · rintro ⟨⟨_, drive⟩, member, rfl⟩
    exact ⟨drive, get?_eq_some_iff.2 member⟩

/-- The size of a cache is the number of uuids that it contains. -/
theorem ncard_contains (cache : DriveCache) :
    {uuid | cache.contains uuid = true}.ncard = cache.size := by
  have same : {uuid | cache.contains uuid = true} =
      ((cache.entries.map Prod.fst).toFinset : Set String) := by
    ext uuid
    rw [Set.mem_ofPred_eq, contains_iff, List.coe_toFinset, Set.mem_ofPred_eq]
  rw [same, Set.ncard_coe_finset, List.toFinset_card_of_nodup cache.distinct, List.length_map]
  rfl

/-- After an insertion a uuid has what was inserted under it, or what it had before, or
nothing. -/
theorem get?_insert {policy : EvictionPolicy}
    (found : (cache.insert policy uuid drive).get? other = some newer) :
    (other = uuid ∧ newer = drive) ∨ (other ≠ uuid ∧ cache.get? other = some newer) := by
  have offered : (other, newer) ∈ cache.offered uuid drive :=
    (policy.keep_sublist _ _).subset (get?_eq_some_iff.1 found)
  rcases List.mem_cons.1 offered with same | older
  · obtain ⟨rfl, rfl⟩ := Prod.mk.inj same
    exact .inl ⟨rfl, rfl⟩
  · obtain ⟨member, different⟩ := List.mem_filter.1 older
    exact .inr ⟨by simpa using different, get?_eq_some_iff.2 member⟩

/-- An insertion that needs no room evicts nothing. -/
theorem get?_insert_of_fits (policy : EvictionPolicy)
    (fits : (cache.offered uuid drive).length ≤ cache.capacity) :
    (cache.insert policy uuid drive).get? other =
      if other = uuid then some drive else cache.get? other := by
  have kept : (cache.insert policy uuid drive).entries = cache.offered uuid drive :=
    policy.keep_eq_self _ _ fits
  rw [get?, kept, offered, lookup_cons_eq_ite]
  split
  next => rfl
  next different => exact lookup_filter_of_ne cache.entries different

/-- What is found after an operation was found before, unless the operation touches the
uuid; then it has just been inserted. -/
theorem get?_perform {operation : CacheOperation}
    (found : (cache.perform operation).2.get? uuid = some drive) :
    (∃ policy, operation = .insert policy uuid drive) ∨
      (¬ operation.Touches uuid ∧ cache.get? uuid = some drive) := by
  cases operation with
  | insert policy other newer =>
    rcases get?_insert found with ⟨rfl, rfl⟩ | ⟨different, earlier⟩
    · exact .inl ⟨policy, rfl⟩
    · exact .inr ⟨Ne.symm different, earlier⟩
  | get other => exact .inr ⟨not_false, found⟩
  | contains other => exact .inr ⟨not_false, found⟩
  | remove other =>
    by_cases same : other = uuid
    · subst same
      exact nomatch (get?_remove_self cache other).symm.trans found
    · exact .inr ⟨same, (get?_remove_of_ne cache (Ne.symm same)).symm.trans found⟩
  | clear => exact nomatch (get?_clear cache uuid).symm.trans found

theorem capacity_perform (cache : DriveCache) (operation : CacheOperation) :
    (cache.perform operation).2.capacity = cache.capacity := by
  cases operation <;> rfl

end

/-! ## Clearing -/

/-- Removals change nothing but the entries. -/
theorem foldl_remove_keeps (cache : DriveCache) (uuids : List String) :
    (uuids.foldl remove cache).capacity = cache.capacity ∧
      (uuids.foldl remove cache).counted = cache.counted := by
  induction uuids generalizing cache with
  | nil => exact ⟨rfl, rfl⟩
  | cons uuid uuids ih => exact ih (cache.remove uuid)

/-- Entries that are left after removals are under none of the uuids. -/
theorem mem_foldl_remove {cache : DriveCache} {uuids : List String} {entry : String × DriveInfo}
    (member : entry ∈ (uuids.foldl remove cache).entries) :
    entry ∈ cache.entries ∧ entry.1 ∉ uuids := by
  induction uuids generalizing cache with
  | nil => exact ⟨member, List.not_mem_nil⟩
  | cons uuid uuids ih =>
    have later : entry ∈ (uuids.foldl remove (cache.remove uuid)).entries := member
    obtain ⟨left, others⟩ := ih later
    obtain ⟨before, different⟩ := List.mem_filter.1 left
    exact ⟨before, List.not_mem_cons_of_ne_of_not_mem (by simpa using different) others⟩

/-- Clearing is removing, one after the other, the uuids that the cache contains. -/
theorem clear_eq_foldl_remove (cache : DriveCache) :
    cache.clear = (cache.entries.map Prod.fst).foldl remove cache := by
  have empty : ((cache.entries.map Prod.fst).foldl remove cache).entries = [] := by
    refine List.eq_nil_iff_forall_not_mem.2 fun entry member => ?_
    obtain ⟨before, others⟩ := mem_foldl_remove member
    exact others (List.mem_map_of_mem before)
  obtain ⟨capacity, counted⟩ := cache.foldl_remove_keeps (cache.entries.map Prod.fst)
  generalize (cache.entries.map Prod.fst).foldl remove cache = cleared at empty capacity counted
  cases cleared
  simp only at empty capacity counted
  simp only [clear, empty, capacity, counted]

/-! ## Whole histories -/

section

variable {capacity : Nat} {history : List CacheOperation} {uuid : String} {drive : DriveInfo}

theorem after_concat (cache : DriveCache) (history : List CacheOperation)
    (operation : CacheOperation) :
    cache.after (history ++ [operation]) = ((cache.after history).perform operation).2 := by
  rw [after, List.foldl_append]
  rfl

theorem capacity_after (cache : DriveCache) (history : List CacheOperation) :
    (cache.after history).capacity = cache.capacity := by
  induction history using List.reverseRecOn with
  | nil => rfl
  | append_singleton history operation ih => rw [after_concat, capacity_perform, ih]

/-- What a cache finds is what was inserted last. -/
theorem latestInsert_of_get? (found : ((empty capacity).after history).get? uuid = some drive) :
    LatestInsert history uuid drive := by
  induction history using List.reverseRecOn with
  | nil => exact nomatch (get?_empty capacity uuid).symm.trans found
  | append_singleton history operation ih =>
    rw [after_concat] at found
    exact latestInsert_concat_iff.2 ((get?_perform found).imp id (And.imp_right ih))

variable (capacity) in
/-- The uuids that a cache contains have been inserted. -/
theorem mem_of_inserted {uuids : List String}
    (inserted : ∀ policy uuid drive, .insert policy uuid drive ∈ history → uuid ∈ uuids) :
    ∀ entry ∈ ((empty capacity).after history).entries, entry.1 ∈ uuids := by
  intro entry member
  obtain ⟨policy, before, rest, rfl, -⟩ := latestInsert_of_get? (get?_eq_some_iff.2 member)
  exact inserted policy entry.1 entry.2 (List.mem_append_right _ List.mem_cons_self)

/-- Entries under distinct uuids of a short list fit. -/
theorem length_le_of_mem {entries : List (String × DriveInfo)} {uuids : List String}
    (distinct : (entries.map Prod.fst).Nodup) (inside : ∀ entry ∈ entries, entry.1 ∈ uuids) :
    entries.length ≤ uuids.length := by
  have subset : entries.map Prod.fst ⊆ uuids := by
    intro uuid member
    obtain ⟨entry, there, rfl⟩ := List.mem_map.1 member
    exact inside entry there
  rw [← List.length_map Prod.fst]
  exact (distinct.subperm subset).length_le

/-- As long as all uuids that were inserted fit, what was inserted last is found. -/
theorem get?_of_latestInsert {uuids : List String} (fit : uuids.length ≤ max capacity 1)
    (inserted : ∀ policy uuid drive, .insert policy uuid drive ∈ history → uuid ∈ uuids)
    (latest : LatestInsert history uuid drive) :
    ((empty capacity).after history).get? uuid = some drive := by
  induction history using List.reverseRecOn with
  | nil => exact absurd latest not_latestInsert_nil
  | append_singleton history operation ih =>
    have insertedBefore : ∀ policy uuid drive, .insert policy uuid drive ∈ history →
        uuid ∈ uuids :=
      fun policy uuid drive member => inserted policy uuid drive (List.mem_append_left _ member)
    have present := mem_of_inserted capacity insertedBefore
    have room := capacity_after (empty capacity) history
    rw [after_concat]
    generalize (empty capacity).after history = cache at ih present room
    -- An insertion offers entries under uuids that fit, so that nothing is evicted.
    have fits {policy : EvictionPolicy} {other : String} {newer : DriveInfo}
        (last : operation = .insert policy other newer) :
        (cache.offered other newer).length ≤ cache.capacity := by
      have own : other ∈ uuids :=
        inserted policy other newer (List.mem_append_right _ (List.mem_singleton.2 last.symm))
      have inside : ∀ entry ∈ cache.offered other newer, entry.1 ∈ uuids :=
        List.forall_mem_cons.2 ⟨own, fun entry member =>
          present entry ((cache.others_sublist other).subset member)⟩
      exact room ▸ Nat.le_trans (length_le_of_mem (cache.nodup_offered other newer) inside) fit
    rcases latestInsert_concat_iff.1 latest with ⟨policy, last⟩ | ⟨untouched, earlier⟩
    · subst last
      exact (get?_insert_of_fits policy (fits rfl)).trans (if_pos rfl)
    · have found := ih insertedBefore earlier
      cases operation with
      | insert policy other newer =>
        exact (get?_insert_of_fits policy (fits rfl)).trans
          ((if_neg (Ne.symm untouched)).trans found)
      | get other => exact found
      | contains other => exact found
      | remove other => exact (get?_remove_of_ne cache (Ne.symm untouched)).trans found
      | clear => exact absurd trivial untouched

end

/-- A cache after any history of a capacity, where zero counts as one. It never holds more
than the capacity, and its size is the number of the uuids that it contains. Under a uuid it
finds nothing or the drive of the latest insertion, of which there is one at most. A removal
answers with what would be found, then that uuid is absent and all others are as before;
clearing leaves nothing, and is a removal of every uuid. And as long as the uuids that have
been inserted fit, every latest insertion is found. -/
theorem bounded_store (capacity : Nat) (history : List CacheOperation) :
    let cache := (empty capacity).after history
    cache.capacity = max capacity 1 ∧ cache.size ≤ cache.capacity ∧
    {uuid | (cache.perform (.contains uuid)).1 = .present true}.ncard = cache.size ∧
    (∀ uuid drive, (cache.perform (.get uuid)).1 = .drive (some drive) →
      LatestInsert history uuid drive ∧
        ∀ other, LatestInsert history uuid other → other = drive) ∧
    (∀ uuid, (cache.perform (.remove uuid)).1 = (cache.perform (.get uuid)).1 ∧
      (cache.perform (.remove uuid)).2.get? uuid = none ∧
      ∀ other, other ≠ uuid → (cache.perform (.remove uuid)).2.get? other = cache.get? other) ∧
    ((cache.perform .clear).2.size = 0 ∧
      (cache.perform .clear).2 = (cache.entries.map Prod.fst).foldl remove cache) ∧
    ∀ uuids : List String, uuids.length ≤ max capacity 1 →
      (∀ policy uuid drive, .insert policy uuid drive ∈ history → uuid ∈ uuids) →
      ∀ uuid drive, LatestInsert history uuid drive →
        (cache.perform (.get uuid)).1 = .drive (some drive) := by
  intro cache
  refine ⟨capacity_after _ history, cache.length_le, ?_, ?_, ?_, ⟨rfl, ?_⟩, ?_⟩
  · have same : {uuid | (cache.perform (.contains uuid)).1 = .present true} =
        {uuid | cache.contains uuid = true} := by
      ext uuid
      exact Iff.of_eq (CacheAnswer.present.injEq _ _)
    rw [same, ncard_contains]
  · intro uuid drive answered
    have latest := latestInsert_of_get? (CacheAnswer.drive.inj answered)
    exact ⟨latest, fun other latestOther => latestOther.unique latest⟩
  · intro uuid
    exact ⟨rfl, cache.get?_remove_self uuid, fun other => cache.get?_remove_of_ne⟩
  · exact cache.clear_eq_foldl_remove
  · intro uuids fit inserted uuid drive latest
    exact congrArg CacheAnswer.drive (get?_of_latestInsert fit inserted latest)

end DriveCache

/-! ## A cache of one entry -/

namespace CacheHistoryExamples

def drive (name : String) : DriveInfo :=
  { name := some name }

/-- Two insertions under one uuid, and the removal of another. -/
def replaced : List CacheOperation :=
  [.insert .newest "d1" (drive "first"), .insert .newest "d1" (drive "second"), .remove "d2"]

end CacheHistoryExamples

open CacheHistoryExamples in
/-- In a cache for nothing, which holds one entry, the second drive is found in place of the
first, and removing it answers with it. -/
theorem DriveCache.bounded_store_replaced :
    (((empty 0).after replaced).perform (.get "d1")).1 = .drive (some (drive "second")) ∧
      (((empty 0).after replaced).perform (.remove "d1")).1 = .drive (some (drive "second")) ∧
      ¬ LatestInsert replaced "d1" (drive "first") := by
  obtain ⟨-, -, -, latest, removed, -, found⟩ := bounded_store 0 replaced
  have inserted : ∀ policy uuid drive, .insert policy uuid drive ∈ replaced → uuid ∈ ["d1"] := by
    intro policy uuid drive member
    simp only [replaced, List.mem_cons, CacheOperation.insert.injEq, reduceCtorEq,
      List.not_mem_nil, or_false] at member
    rcases member with ⟨-, rfl, -⟩ | ⟨-, rfl, -⟩ <;> exact List.mem_singleton.2 rfl
  have second : LatestInsert replaced "d1" (drive "second") := by
    refine ⟨.newest, [.insert .newest "d1" (drive "first")], [.remove "d2"], rfl, ?_⟩
    intro operation member
    rw [List.mem_singleton.1 member]
    show "d2" ≠ "d1"
    decide
  have answered := found ["d1"] (by decide) inserted "d1" (drive "second") second
  refine ⟨answered, (removed "d1").1.trans answered, fun first => ?_⟩
  exact absurd ((latest "d1" _ answered).2 _ first) (by decide)

end CloudInventory
