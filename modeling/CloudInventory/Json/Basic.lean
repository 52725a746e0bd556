import CloudInventory.Json.Number

/-!
# JSON values

The data model of request and response bodies. The members of an object are a
list in strictly increasing key order, so one object has one representation and
iterating it is iterating in key order; `insertMember` keeps the order and lets
the last of two equal keys win.
-/

namespace CloudInventory

/-- A JSON value. -/
inductive Json where
  | null
  | bool (value : Bool)
  | number (value : Number)
  | string (value : String)
  | array (items : List Json)
  | object (members : List (String × Json))

/-- Members with their keys in strictly increasing order. -/
def KeySorted {α : Type} (members : List (String × α)) : Prop :=
  members.Pairwise fun a b => a.1 < b.1

/-- The members with one more, at its place in key order; an equal key is replaced. -/
def insertMember {α : Type} (key : String) (value : α) : List (String × α) → List (String × α)
  | [] => [(key, value)]
  | (k, v) :: rest =>
    if key < k then (key, value) :: (k, v) :: rest
    else if key = k then (key, value) :: rest
    else (k, v) :: insertMember key value rest

/-- The members of a list of pairs in key order; the last of equal keys wins. -/
def sortMembers {α : Type} (pairs : List (String × α)) : List (String × α) :=
  pairs.foldl (fun members pair => insertMember pair.1 pair.2 members) []

theorem mem_insertMember {α : Type} {key : String} {value : α} {pair : String × α}
    {members : List (String × α)} (member : pair ∈ insertMember key value members) :
    pair = (key, value) ∨ pair ∈ members := by
  induction members with
  | nil => simpa [insertMember] using member
  | cons head rest ih =>
    obtain ⟨k, v⟩ := head
    simp only [insertMember] at member
    split at member
    · simpa using member
    · split at member
      · simp only [List.mem_cons] at member ⊢
        exact member.imp_right .inr
      · simp only [List.mem_cons] at member ⊢
        rcases member with first | later
        · exact .inr (.inl first)
        · exact (ih later).imp_right .inr

/-- Inserting keeps the key order. -/
theorem KeySorted.insertMember {α : Type} {members : List (String × α)}
    (sorted : KeySorted members) (key : String) (value : α) :
    KeySorted (insertMember key value members) := by
  induction members with
  | nil => simp [CloudInventory.insertMember, KeySorted]
  | cons head rest ih =>
    obtain ⟨k, v⟩ := head
    unfold KeySorted at sorted
    rw [List.pairwise_cons] at sorted
    simp only [CloudInventory.insertMember]
    split
    next below =>
      refine List.pairwise_cons.2 ⟨fun pair member => ?_, List.pairwise_cons.2 sorted⟩
      rcases List.mem_cons.1 member with rfl | later
      · exact below
      · exact Std.lt_trans below (sorted.1 _ later)
    next notBelow =>
      split
      next equal =>
        subst equal
        exact List.pairwise_cons.2 ⟨fun pair member => sorted.1 _ member, sorted.2⟩
      next different =>
        refine List.pairwise_cons.2 ⟨fun pair member => ?_, ih sorted.2⟩
        rcases mem_insertMember member with rfl | later
        · rcases Std.Trichotomous.rel_or_eq_or_rel_swap (r := fun a b : String => a < b)
            (a := k) (b := key) with less | equal | greater
          · exact less
          · exact absurd equal.symm different
          · exact absurd greater notBelow
        · exact sorted.1 _ later

theorem keySorted_nil {α : Type} : KeySorted ([] : List (String × α)) :=
  List.Pairwise.nil

/-- Sorting yields members in key order. -/
theorem keySorted_sortMembers {α : Type} (pairs : List (String × α)) :
    KeySorted (sortMembers pairs) := by
  unfold sortMembers
  generalize start : ([] : List (String × α)) = members
  have sorted : KeySorted members := start ▸ keySorted_nil
  clear start
  induction pairs generalizing members with
  | nil => exact sorted
  | cons pair rest ih => exact ih _ (sorted.insertMember _ _)

/-! ## Dictionaries -/

/-- A map from strings, iterated in key order. -/
structure Dictionary (α : Type) where
  members : List (String × α)
  sorted : KeySorted members

namespace Dictionary

variable {α : Type}

instance [DecidableEq α] : DecidableEq (Dictionary α) := fun a b =>
  decidable_of_iff (a.members = b.members) (by cases a; cases b; simp)

/-- The map without members. -/
def empty : Dictionary α :=
  ⟨[], keySorted_nil⟩

instance : Inhabited (Dictionary α) := ⟨empty⟩

instance : EmptyCollection (Dictionary α) := ⟨empty⟩

def insert (d : Dictionary α) (key : String) (value : α) : Dictionary α :=
  ⟨insertMember key value d.members, d.sorted.insertMember key value⟩

/-- The map of a list of pairs; the last of equal keys wins. -/
def ofList (pairs : List (String × α)) : Dictionary α :=
  ⟨sortMembers pairs, keySorted_sortMembers pairs⟩

def get? (d : Dictionary α) (key : String) : Option α :=
  d.members.lookup key

def isEmpty (d : Dictionary α) : Bool :=
  d.members.isEmpty

end Dictionary

/-! ## Equality and access -/

namespace Json

mutual

/-- Whether two values are equal. -/
def same : Json → Json → Bool
  | .null, .null => true
  | .bool a, .bool b => a == b
  | .number a, .number b => decide (a = b)
  | .string a, .string b => a == b
  | .array a, .array b => sameItems a b
  | .object a, .object b => sameMembers a b
  | _, _ => false

/-- Whether two lists of values are equal. -/
def sameItems : List Json → List Json → Bool
  | [], [] => true
  | a :: as, b :: bs => same a b && sameItems as bs
  | _, _ => false

/-- Whether two lists of members are equal. -/
def sameMembers : List (String × Json) → List (String × Json) → Bool
  | [], [] => true
  | (j, a) :: as, (k, b) :: bs => j == k && same a b && sameMembers as bs
  | _, _ => false

end

mutual

theorem eq_of_same : {a b : Json} → same a b = true → a = b
  | .null, b, h => by cases b <;> simp_all [same]
  | .bool _, b, h => by cases b <;> simp_all [same]
  | .number _, b, h => by cases b <;> simp_all [same]
  | .string _, b, h => by cases b <;> simp_all [same]
  | .array as, b, h => by
    cases b with
    | array bs => rw [show as = bs from eq_of_sameItems (by simpa [same] using h)]
    | _ => simp [same] at h
  | .object as, b, h => by
    cases b with
    | object bs => rw [show as = bs from eq_of_sameMembers (by simpa [same] using h)]
    | _ => simp [same] at h

theorem eq_of_sameItems : {as bs : List Json} → sameItems as bs = true → as = bs
  | [], bs, h => by cases bs <;> simp_all [sameItems]
  | a :: as, bs, h => by
    cases bs with
    | nil => simp [sameItems] at h
    | cons b bs =>
      simp only [sameItems, Bool.and_eq_true] at h
      rw [eq_of_same h.1, eq_of_sameItems h.2]

theorem eq_of_sameMembers : {as bs : List (String × Json)} → sameMembers as bs = true → as = bs
  | [], bs, h => by cases bs <;> simp_all [sameMembers]
  | (j, a) :: as, bs, h => by
    cases bs with
    | nil => simp [sameMembers] at h
    | cons pair bs =>
      obtain ⟨k, b⟩ := pair
      simp only [sameMembers, Bool.and_eq_true, beq_iff_eq] at h
      rw [h.1.1, eq_of_same h.1.2, eq_of_sameMembers h.2]

end

mutual

theorem same_refl : (a : Json) → same a a = true
  | .null => by simp [same]
  | .bool _ => by simp [same]
  | .number _ => by simp [same]
  | .string _ => by simp [same]
  | .array as => by simp [same, sameItems_refl as]
  | .object as => by simp [same, sameMembers_refl as]

theorem sameItems_refl : (as : List Json) → sameItems as as = true
  | [] => by simp [sameItems]
  | a :: as => by simp [sameItems, same_refl a, sameItems_refl as]

theorem sameMembers_refl : (as : List (String × Json)) → sameMembers as as = true
  | [] => by simp [sameMembers]
  | (_, a) :: as => by simp [sameMembers, same_refl a, sameMembers_refl as]

end

instance : DecidableEq Json := fun a b =>
  decidable_of_iff (same a b = true) ⟨eq_of_same, fun h => h ▸ same_refl a⟩

instance : Inhabited Json := ⟨.null⟩

/-- The object of the given fields, the absent ones left out. -/
def ofFields (fields : List (String × Option Json)) : Json :=
  .object (sortMembers (fields.filterMap fun (key, value) => value.map (key, ·)))

/-- The value of a member; `none` on anything but an object. -/
def member? (json : Json) (key : String) : Option Json :=
  match json with
  | .object members => members.lookup key
  | _ => none

/-- The text of a string. -/
def text? : Json → Option String
  | .string s => some s
  | _ => none

/-- The truth value of a flag. -/
def flag? : Json → Option Bool
  | .bool b => some b
  | _ => none

/-- The items of an array; nothing on any other value. -/
def items : Json → List Json
  | .array xs => xs
  | _ => []

/-- The members of an object; nothing on any other value. -/
def members : Json → List (String × Json)
  | .object ms => ms
  | _ => []

end Json

end CloudInventory
