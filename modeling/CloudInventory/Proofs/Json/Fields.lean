import CloudInventory.Json.Basic
import Mathlib.Data.List.Forall2

/-!
# Objects by their fields

`sortMembers` puts the members of an object in key order. Here it is described by
what can be looked up afterwards, and shown to change nothing but the order.

Results:
1. `lookup_sortMembers`: under distinct keys every member is found by its key.
2. `sortMembers_eq_self`: members in key order stay as they are.
3. `forall₂_sortMembers`: two lists that agree in their keys are sorted alike.
4. `Json.hasFields_ofFields` and `Json.mem_of_mem_ofFields`: the members of an object of
   fields are the fields that are present.
-/

namespace CloudInventory

variable {α β : Type}

/-! ## Lookup -/

theorem lookup_cons_eq_ite (key : String) (value : α) (rest : List (String × α))
    (wanted : String) :
    ((key, value) :: rest).lookup wanted =
      if wanted = key then some value else rest.lookup wanted := by
  rw [List.lookup_cons]
  by_cases same : wanted = key
  · rw [if_pos same, beq_iff_eq.2 same]
  · rw [if_neg same, beq_eq_false_iff_ne.2 same]

theorem lookup_eq_none_of_not_mem_keys {members : List (String × α)} {key : String}
    (fresh : key ∉ members.map Prod.fst) : members.lookup key = none := by
  rw [List.lookup_eq_none_iff]
  intro member isMember
  rw [bne_iff_ne]
  rintro rfl
  exact fresh (List.mem_map.2 ⟨member, isMember, rfl⟩)

/-- Under distinct keys every member is found. -/
theorem lookup_of_mem {members : List (String × α)} (distinct : (members.map Prod.fst).Nodup)
    {member : String × α} (inside : member ∈ members) :
    members.lookup member.1 = some member.2 := by
  induction members with
  | nil => cases inside
  | cons head rest ih =>
    obtain ⟨key, value⟩ := head
    rw [List.map_cons, List.nodup_cons] at distinct
    rw [lookup_cons_eq_ite]
    rcases List.mem_cons.1 inside with rfl | later
    · exact if_pos rfl
    · have different : member.1 ≠ key := by
        rintro rfl
        exact distinct.1 (List.mem_map.2 ⟨member, later, rfl⟩)
      rw [if_neg different]
      exact ih distinct.2 later

/-- Inserting a member changes what is found under its key, and nothing else. -/
theorem lookup_insertMember (key : String) (value : α) (members : List (String × α))
    (wanted : String) :
    (insertMember key value members).lookup wanted =
      if wanted = key then some value else members.lookup wanted := by
  induction members with
  | nil => rw [insertMember, lookup_cons_eq_ite]
  | cons head rest ih =>
    obtain ⟨k, v⟩ := head
    rw [insertMember, lookup_cons_eq_ite k]
    split
    next => rw [lookup_cons_eq_ite, lookup_cons_eq_ite]
    next =>
      split
      next equal =>
        rw [lookup_cons_eq_ite, ← equal]
        split <;> rfl
      next different =>
        rw [lookup_cons_eq_ite, ih]
        by_cases same : wanted = k
        · have other : wanted ≠ key := fun equal => different (equal.symm.trans same)
          rw [if_pos same, if_neg other, if_pos same]
        · rw [if_neg same, if_neg same]

/-- Inserting members one after the other: under distinct keys each is found. -/
theorem lookup_foldl_insertMember (pairs : List (String × α)) (members : List (String × α))
    (distinct : (pairs.map Prod.fst).Nodup) (wanted : String) :
    (pairs.foldl (fun members pair => insertMember pair.1 pair.2 members) members).lookup wanted =
      (pairs.lookup wanted).or (members.lookup wanted) := by
  induction pairs generalizing members with
  | nil => rfl
  | cons pair rest ih =>
    obtain ⟨key, value⟩ := pair
    rw [List.map_cons, List.nodup_cons] at distinct
    rw [List.foldl_cons, ih _ distinct.2, lookup_insertMember, lookup_cons_eq_ite]
    by_cases same : wanted = key
    · -- The key does not occur again, so the rest does not overwrite the member.
      rw [if_pos same, if_pos same, same, lookup_eq_none_of_not_mem_keys distinct.1]
      rfl
    · rw [if_neg same, if_neg same]

/-- Under distinct keys every member is found by its key. -/
theorem lookup_sortMembers {pairs : List (String × α)}
    (distinct : (pairs.map Prod.fst).Nodup) (wanted : String) :
    (sortMembers pairs).lookup wanted = pairs.lookup wanted := by
  unfold sortMembers
  rw [lookup_foldl_insertMember pairs [] distinct, List.lookup_nil, Option.or_none]

/-- Sorting makes no members up. -/
theorem mem_of_mem_sortMembers {pairs : List (String × α)} {member : String × α}
    (inside : member ∈ sortMembers pairs) : member ∈ pairs := by
  have general : ∀ (rest members : List (String × α)),
      member ∈ rest.foldl (fun members pair => insertMember pair.1 pair.2 members) members →
        member ∈ rest ∨ member ∈ members := by
    intro rest
    induction rest with
    | nil => exact fun members inside => .inr inside
    | cons pair rest ih =>
      intro members inside
      rcases ih _ inside with later | inserted
      · exact .inl (List.mem_cons_of_mem _ later)
      · rcases mem_insertMember inserted with rfl | before
        · exact .inl List.mem_cons_self
        · exact .inr before
  exact (general pairs [] inside).resolve_right List.not_mem_nil

/-! ## Order -/

/-- A member with the greatest key goes to the end. -/
theorem insertMember_eq_append {members : List (String × α)} {key : String} {value : α}
    (greatest : ∀ member ∈ members, member.1 < key) :
    insertMember key value members = members ++ [(key, value)] := by
  induction members with
  | nil => rfl
  | cons head rest ih =>
    obtain ⟨k, v⟩ := head
    have below : k < key := greatest (k, v) List.mem_cons_self
    have notAbove : ¬ key < k := fun above => Std.lt_irrefl (Std.lt_trans below above)
    have different : key ≠ k := by
      rintro rfl
      exact Std.lt_irrefl below
    rw [insertMember, if_neg notAbove, if_neg different,
      ih fun member later => greatest member (List.mem_cons_of_mem _ later), List.cons_append]

/-- Members in key order stay as they are. -/
theorem sortMembers_eq_self {members : List (String × α)} (sorted : KeySorted members) :
    sortMembers members = members := by
  -- The members before the ones still to insert are sorted and smaller.
  have general : ∀ (rest before : List (String × α)), KeySorted (before ++ rest) →
      rest.foldl (fun members pair => insertMember pair.1 pair.2 members) before =
        before ++ rest := by
    intro rest
    induction rest with
    | nil => intro before _; simp
    | cons pair rest ih =>
      intro before sorted
      have smaller : ∀ member ∈ before, member.1 < pair.1 := fun member isBefore =>
        (List.pairwise_append.1 sorted).2.2 member isBefore pair List.mem_cons_self
      rw [List.foldl_cons, insertMember_eq_append smaller, ih _ (by simpa using sorted)]
      simp
  exact general members [] sorted

/-! ## Two lists with the same keys -/

variable {R : String × α → String × β → Prop}

theorem forall₂_insertMember (sameKey : ∀ a b, R a b → a.1 = b.1) {a : String × α}
    {b : String × β} (new : R a b) {members : List (String × α)} {members' : List (String × β)}
    (related : List.Forall₂ R members members') :
    List.Forall₂ R (insertMember a.1 a.2 members) (insertMember b.1 b.2 members') := by
  obtain ⟨key, value⟩ := a
  obtain ⟨key', value'⟩ := b
  obtain rfl : key = key' := sameKey _ _ new
  induction related with
  | nil => exact .cons new .nil
  | @cons head head' rest rest' here later ih =>
    obtain ⟨k, v⟩ := head
    obtain ⟨k', v'⟩ := head'
    obtain rfl : k = k' := sameKey _ _ here
    rw [insertMember, insertMember]
    split
    next => exact .cons new (.cons here later)
    next =>
      split
      next => exact .cons new later
      next => exact .cons here ih

/-- Two lists that agree in their keys are sorted alike. -/
theorem forall₂_sortMembers (sameKey : ∀ a b, R a b → a.1 = b.1) {pairs : List (String × α)}
    {pairs' : List (String × β)} (related : List.Forall₂ R pairs pairs') :
    List.Forall₂ R (sortMembers pairs) (sortMembers pairs') := by
  have general : ∀ {members : List (String × α)} {members' : List (String × β)},
      List.Forall₂ R members members' → List.Forall₂ R
        (pairs.foldl (fun members pair => insertMember pair.1 pair.2 members) members)
        (pairs'.foldl (fun members pair => insertMember pair.1 pair.2 members) members') := by
    induction related with
    | nil => exact id
    | cons here _ ih => exact fun before => ih (forall₂_insertMember sameKey here before)
  exact general .nil

/-! ## Objects of fields -/

namespace Json

theorem keys_present_sublist (fields : List (String × Option Json)) :
    ((fields.filterMap fun (key, value) => value.map (key, ·)).map Prod.fst).Sublist
      (fields.map Prod.fst) := by
  induction fields with
  | nil => exact .slnil
  | cons field rest ih =>
    obtain ⟨key, value⟩ := field
    cases value with
    | none => exact .cons _ ih
    | some json => exact .cons_cons _ ih

theorem lookup_present {fields : List (String × Option Json)}
    (distinct : (fields.map Prod.fst).Nodup) (wanted : String) :
    (fields.filterMap fun (key, value) => value.map (key, ·)).lookup wanted =
      (fields.lookup wanted).join := by
  induction fields with
  | nil => rfl
  | cons field rest ih =>
    obtain ⟨key, value⟩ := field
    rw [List.map_cons, List.nodup_cons] at distinct
    rw [lookup_cons_eq_ite]
    cases value with
    | none =>
      rw [List.filterMap_cons_none (by rfl), ih distinct.2]
      by_cases same : wanted = key
      · rw [if_pos same, same, lookup_eq_none_of_not_mem_keys distinct.1]
        rfl
      · rw [if_neg same]
    | some json =>
      rw [List.filterMap_cons_some (by rfl), lookup_cons_eq_ite, ih distinct.2]
      by_cases same : wanted = key
      · rw [if_pos same, if_pos same]
        rfl
      · rw [if_neg same, if_neg same]

/-- A value whose members are the fields that are present. -/
def HasFields (json : Json) (fields : List (String × Option Json)) : Prop :=
  ∀ key, json.member? key = (fields.lookup key).join

/-- The members of an object of fields are the fields that are present. -/
theorem hasFields_ofFields {fields : List (String × Option Json)}
    (distinct : (fields.map Prod.fst).Nodup) : (ofFields fields).HasFields fields := by
  intro key
  rw [ofFields, member?, lookup_sortMembers (distinct.sublist (keys_present_sublist fields)),
    lookup_present distinct]

/-- An object of fields has no members but fields that are present. -/
theorem mem_of_mem_ofFields {fields : List (String × Option Json)} {member : String × Json}
    (inside : member ∈ (ofFields fields).members) : (member.1, some member.2) ∈ fields := by
  obtain ⟨⟨key, value⟩, isField, here⟩ := List.mem_filterMap.1 (mem_of_mem_sortMembers inside)
  obtain ⟨json, rfl, rfl⟩ := Option.map_eq_some_iff.1 here
  exact isField

end Json

end CloudInventory
