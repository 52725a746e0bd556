import Mathlib.Data.List.Forall2

/-!
# Decoding in sequence

Decoding goes step by step, and the first fault ends it. A list is decoded item by item,
from the front. So a decoded list stands for its items one by one, and a fault for the
place of one item.

Results:
1. `bind_eq_ok_iff` and `map_eq_ok_iff`: two steps succeed exactly if each of them does.
2. `mapM_eq_ok_iff`: a list is decoded exactly if every item is, each to the value at
   its place.
3. `mapM_eq_error_iff`: else the fault is that of the first faulty item.
4. `head?_mapM_of_mapM`, `head?_mapM_of_failsAt`: what becomes of the first item alone.
5. `check_mapM` and `forM_eq_error_iff`: a list can be checked without its values, and the
   fault is the same.
-/

namespace CloudInventory

variable {α β ε : Type} {decode : α → Except ε β}

/-! ## Steps -/

/-- A step that succeeded hands its value on. -/
theorem ok_bind (a : α) (next : α → Except ε β) : (Except.ok a >>= next) = next a :=
  pure_bind a next

/-- Two steps succeed exactly if the first does and the second does with its value. -/
theorem bind_eq_ok_iff {first : Except ε α} {next : α → Except ε β} {value : β} :
    first >>= next = .ok value ↔ ∃ a, first = .ok a ∧ next a = .ok value := by
  cases first with
  | error fault =>
    constructor
    · intro made
      cases made
    · rintro ⟨_, absent, -⟩
      cases absent
  | ok a =>
    constructor
    · exact fun made => ⟨a, rfl, made⟩
    · rintro ⟨_, same, made⟩
      cases same
      exact made

/-- Two steps fail if the first does, or else if the second does. -/
theorem bind_eq_error_iff {first : Except ε α} {next : α → Except ε β} {fault : ε} :
    first >>= next = .error fault ↔
      first = .error fault ∨ ∃ a, first = .ok a ∧ next a = .error fault := by
  cases first with
  | error other =>
    constructor
    · intro failed
      cases failed
      exact .inl rfl
    · rintro (same | ⟨_, absent, -⟩)
      · cases same
        rfl
      · cases absent
  | ok a =>
    constructor
    · exact fun failed => .inr ⟨a, rfl, failed⟩
    · rintro (absent | ⟨_, same, failed⟩)
      · cases absent
      · cases same
        exact failed

theorem map_eq_ok_iff {first : Except ε α} {f : α → β} {value : β} :
    first.map f = .ok value ↔ ∃ a, first = .ok a ∧ f a = value := by
  cases first with
  | error fault =>
    constructor
    · intro made
      cases made
    · rintro ⟨_, absent, -⟩
      cases absent
  | ok a =>
    constructor
    · intro made
      cases made
      exact ⟨a, rfl, rfl⟩
    · rintro ⟨_, same, rfl⟩
      cases same
      rfl

theorem mapError_eq_ok_iff {δ : Type} {step : Except ε α} {f : ε → δ} {value : α} :
    step.mapError f = .ok value ↔ step = .ok value := by
  cases step with
  | error fault => exact iff_of_false nofun nofun
  | ok a => rw [Except.mapError, Except.ok.injEq, Except.ok.injEq]

/-! ## Places of faults -/

/-- The item at place `i` has the fault, and all items before it are decoded. -/
def FailsAt (decode : α → Except ε β) (items : List α) (i : Nat) (fault : ε) : Prop :=
  (∀ item ∈ items.take i, ∃ value, decode item = .ok value) ∧
    ∃ item, items[i]? = some item ∧ decode item = .error fault

theorem not_failsAt_nil {i : Nat} {fault : ε} : ¬ FailsAt decode [] i fault := by
  rintro ⟨-, item, found, -⟩
  exact nomatch found

theorem failsAt_zero_iff {item : α} {items : List α} {fault : ε} :
    FailsAt decode (item :: items) 0 fault ↔ decode item = .error fault := by
  constructor
  · rintro ⟨-, first, found, fails⟩
    cases found
    exact fails
  · intro fails
    exact ⟨fun _ member => absurd member List.not_mem_nil, item, rfl, fails⟩

theorem failsAt_succ_iff {item : α} {items : List α} {i : Nat} {fault : ε} :
    FailsAt decode (item :: items) (i + 1) fault ↔
      (∃ value, decode item = .ok value) ∧ FailsAt decode items i fault := by
  unfold FailsAt
  rw [List.take_succ_cons, List.forall_mem_cons, List.getElem?_cons_succ, and_assoc]

/-! ## Lists -/

theorem mapM_cons_of_ok {item : α} {value : β} (decoded : decode item = .ok value)
    (items : List α) : (item :: items).mapM decode = (items.mapM decode).map (value :: ·) := by
  rw [List.mapM_cons, decoded]
  rfl

theorem mapM_cons_of_error {item : α} {fault : ε} (fails : decode item = .error fault)
    (items : List α) : (item :: items).mapM decode = .error fault := by
  rw [List.mapM_cons, fails]
  rfl

/-- A list is decoded exactly if every item is, each to the value at its place. -/
theorem mapM_eq_ok_iff {items : List α} {values : List β} :
    items.mapM decode = .ok values ↔
      List.Forall₂ (fun item value => decode item = .ok value) items values := by
  induction items generalizing values with
  | nil =>
    rw [List.forall₂_nil_left_iff]
    exact ⟨fun decoded => (Except.ok.inj decoded).symm, fun none => none ▸ rfl⟩
  | cons item items ih =>
    rw [List.forall₂_cons_left_iff, List.mapM_cons]
    simp only [bind_eq_ok_iff]
    constructor
    · rintro ⟨value, first, rest, later, made⟩
      cases made
      exact ⟨value, rest, first, ih.1 later, rfl⟩
    · rintro ⟨value, rest, first, later, rfl⟩
      exact ⟨value, first, rest, ih.2 later, rfl⟩

/-- Of two related lists, the items at one place are related. -/
theorem rel_getElem?_of_forall₂ {R : α → β → Prop} {items : List α} {values : List β}
    (related : List.Forall₂ R items values) (i : Nat) : Option.Rel R items[i]? values[i]? := by
  induction related generalizing i with
  | nil => exact .none
  | cons here _ ih =>
    cases i with
    | zero => exact .some here
    | succ i => exact ih i

theorem exists_getElem?_of_forall₂ {R : α → β → Prop} {items : List α} {values : List β}
    (related : List.Forall₂ R items values) {i : Nat} {value : β}
    (found : values[i]? = some value) : ∃ item, items[i]? = some item ∧ R item value := by
  have here := rel_getElem?_of_forall₂ related i
  rw [found] at here
  generalize items[i]? = item at here ⊢
  cases here with
  | some holds => exact ⟨_, rfl, holds⟩

/-- A list that is not decoded has the fault of its first faulty item. -/
theorem mapM_eq_error_iff {items : List α} {fault : ε} :
    items.mapM decode = .error fault ↔ ∃ i, FailsAt decode items i fault := by
  induction items with
  | nil =>
    constructor
    · intro fails
      cases fails
    · rintro ⟨i, fails⟩
      exact absurd fails not_failsAt_nil
  | cons item items ih =>
    cases first : decode item with
    | error firstFault =>
      -- The list ends at its first item, and no later place counts.
      rw [mapM_cons_of_error first]
      constructor
      · intro same
        cases same
        exact ⟨0, failsAt_zero_iff.2 first⟩
      · rintro ⟨_ | i, fails⟩
        · cases first.symm.trans (failsAt_zero_iff.1 fails)
          rfl
        · obtain ⟨⟨value, decoded⟩, -⟩ := failsAt_succ_iff.1 fails
          rw [first] at decoded
          cases decoded
    | ok value =>
      rw [mapM_cons_of_ok first]
      constructor
      · intro fails
        cases later : items.mapM decode with
        | error laterFault =>
          rw [later] at fails
          cases fails
          obtain ⟨i, failsAt⟩ := ih.1 later
          exact ⟨i + 1, failsAt_succ_iff.2 ⟨⟨value, first⟩, failsAt⟩⟩
        | ok values =>
          rw [later] at fails
          cases fails
      · rintro ⟨_ | i, fails⟩
        · have firstFails := failsAt_zero_iff.1 fails
          rw [first] at firstFails
          cases firstFails
        · rw [ih.2 ⟨i, (failsAt_succ_iff.1 fails).2⟩]
          rfl

/-! ## The first item -/

/-- The first item of a decoded list is decoded to the first value. -/
theorem head?_mapM_of_mapM {items : List α} {values : List β}
    (decoded : items.mapM decode = .ok values) :
    items.head?.mapM decode = .ok values.head? := by
  cases mapM_eq_ok_iff.1 decoded with
  | nil => rfl
  | cons first _ =>
    rw [List.head?_cons, Option.mapM_some, first]
    rfl

/-- Where a list fails, the first item has the fault only if it is the faulty one, and
is decoded otherwise. -/
theorem head?_mapM_of_failsAt {items : List α} {i : Nat} {fault : ε}
    (fails : FailsAt decode items i fault) :
    (i = 0 ∧ items.head?.mapM decode = .error fault) ∨
      (i ≠ 0 ∧ ∃ value, items.head?.mapM decode = .ok (some value)) := by
  cases items with
  | nil => exact absurd fails not_failsAt_nil
  | cons item items =>
    rw [List.head?_cons, Option.mapM_some]
    cases i with
    | zero =>
      rw [failsAt_zero_iff.1 fails]
      exact .inl ⟨rfl, rfl⟩
    | succ i =>
      obtain ⟨⟨value, decoded⟩, -⟩ := failsAt_succ_iff.1 fails
      rw [decoded]
      exact .inr ⟨Nat.succ_ne_zero i, value, rfl⟩

/-! ## Steps without their values -/

/-- A step of which only the fault counts. -/
def check (step : Except ε α) : Except ε Unit :=
  step.map fun _ => ()

theorem check_eq_ok_iff {step : Except ε α} :
    check step = .ok () ↔ ∃ value, step = .ok value := by
  rw [check, map_eq_ok_iff]
  exact exists_congr fun _ => and_iff_left rfl

theorem check_eq_error_iff {step : Except ε α} {fault : ε} :
    check step = .error fault ↔ step = .error fault := by
  cases step with
  | error other => rw [check, Except.map, Except.error.injEq, Except.error.injEq]
  | ok value => exact iff_of_false nofun nofun

theorem check_map (f : α → β) (step : Except ε α) : check (step.map f) = check step := by
  cases step <;> rfl

/-- Two steps of which the second does not need the value of the first. -/
theorem check_bind {γ : Type} (first : Except ε α) (second : Except ε β) (f : α → β → γ) :
    check (first >>= fun a => second >>= fun b => pure (f a b)) =
      check first >>= fun _ => check second := by
  cases first with
  | error fault => rfl
  | ok a => exact check_map (f a) second

/-- A list is checked item by item. -/
theorem check_mapM (items : List α) :
    check (items.mapM decode) = forM items fun item => check (decode item) := by
  induction items with
  | nil => rfl
  | cons item items ih => rw [List.mapM_cons, check_bind, ih, List.forM_cons]

/-- A value that may be absent is checked if it is there. -/
theorem check_option_mapM (item : Option α) :
    check (item.mapM decode) = forM item.toList fun item => check (decode item) := by
  cases item with
  | none => rfl
  | some item =>
    rw [Option.mapM_some, Option.toList_some, List.forM_cons, List.forM_nil, bind_pure]
    exact check_map some (decode item)

section

universe u

variable {γ : Type u} {f g : γ → Except ε Unit}

theorem forM_congr {items : List γ} (same : ∀ item ∈ items, f item = g item) :
    forM items f = forM items g := by
  induction items with
  | nil => rfl
  | cons item items ih =>
    rw [List.forall_mem_cons] at same
    rw [List.forM_cons, List.forM_cons, same.1, ih same.2]

theorem forM_flatMap {δ : Type} (items : List γ) (parts : γ → List δ) (f : δ → Except ε Unit) :
    forM (items.flatMap parts) f = forM items fun item => forM (parts item) f := by
  induction items with
  | nil => rfl
  | cons item items ih => rw [List.flatMap_cons, List.forM_append, ih, List.forM_cons]

theorem forM_eq_ok_iff {items : List γ} :
    forM items f = .ok () ↔ ∀ item ∈ items, f item = .ok () := by
  induction items with
  | nil => exact ⟨fun _ _ member => absurd member List.not_mem_nil, fun _ => rfl⟩
  | cons item items ih =>
    rw [List.forM_cons, List.forall_mem_cons, ← ih, bind_eq_ok_iff]
    exact ⟨fun ⟨_, both⟩ => both, fun both => ⟨(), both⟩⟩

end

/-- A list that does not pass has the fault of its first item that does not. -/
theorem forM_eq_error_iff {f : α → Except ε Unit} {items : List α} {fault : ε} :
    forM items f = .error fault ↔ ∃ i, FailsAt f items i fault := by
  have checked : (fun item => check (f item)) = f := by
    funext item
    cases f item <;> rfl
  have same : check (items.mapM f) = forM items f := by rw [check_mapM, checked]
  rw [← same, check_eq_error_iff, mapM_eq_error_iff]

end CloudInventory
