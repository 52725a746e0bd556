import CloudInventory.Proofs.Decode.Sequence

/-!
# Two runs of a decoder

Two runs agree if they have the same fault, or if they have values that are related. Steps
that agree one by one agree in sequence, so that a difference in one item of a list is a
difference in one item of what it is decoded to.

Results:
1. `Agree.bind` and `Agree.of_check`: steps agree in sequence, and steps with the same faults
   agree if their values are related.
2. `Agree.mapM` and `Agree.mapM_values`: lists that differ in one item, and tables that
   differ in one value, agree if these do.
-/

namespace CloudInventory

variable {α β ε : Type} {decode : α → Except ε β}

/-- Two steps have the same fault, or two values that are related. -/
inductive Agree (R : α → β → Prop) : Except ε α → Except ε β → Prop
  | error (fault : ε) : Agree R (.error fault) (.error fault)
  | ok {x : α} {y : β} (related : R x y) : Agree R (.ok x) (.ok y)

/-- Two lists that are equal but for one item, at a place. -/
def ChangedAt (i : Nat) (R : α → α → Prop) (xs ys : List α) : Prop :=
  ∃ front x y back, front.length = i ∧ xs = front ++ x :: back ∧ ys = front ++ y :: back ∧ R x y

namespace Agree

variable {γ δ : Type} {R : α → β → Prop} {S : γ → δ → Prop} {first : Except ε α}
  {second : Except ε β}

theorem refl {R : α → α → Prop} (related : ∀ x, R x x) (step : Except ε α) : Agree R step step := by
  cases step with
  | error fault => exact .error fault
  | ok x => exact .ok (related x)

theorem bind {f : α → Except ε γ} {g : β → Except ε δ} (agree : Agree R first second)
    (further : ∀ x y, R x y → Agree S (f x) (g y)) : Agree S (first >>= f) (second >>= g) := by
  cases agree with
  | error fault => exact .error fault
  | ok related => exact further _ _ related

theorem map {f : α → γ} {g : β → δ} (agree : Agree R first second)
    (further : ∀ x y, R x y → S (f x) (g y)) : Agree S (first.map f) (second.map g) := by
  cases agree with
  | error fault => exact .error fault
  | ok related => exact .ok (further _ _ related)

theorem mapError {f : ε → δ} (agree : Agree R first second) :
    Agree R (first.mapError f) (second.mapError f) := by
  cases agree with
  | error fault => exact .error (f fault)
  | ok related => exact .ok related

theorem imp {S : α → β → Prop} (agree : Agree R first second) (further : ∀ x y, R x y → S x y) :
    Agree S first second := by
  cases agree with
  | error fault => exact .error fault
  | ok related => exact .ok (further _ _ related)

theorem check_eq (agree : Agree R first second) : check first = check second := by
  cases agree <;> rfl

/-- Steps with the same faults agree if their values are related. -/
theorem of_check (same : check first = check second)
    (related : ∀ x y, first = .ok x → second = .ok y → R x y) : Agree R first second := by
  cases first with
  | error fault =>
    rw [check_eq_error_iff.1 (same.symm.trans (check_eq_error_iff.2 rfl))]
    exact .error fault
  | ok x =>
    obtain ⟨y, rfl⟩ := check_eq_ok_iff.1 (same.symm.trans (check_eq_ok_iff.2 ⟨x, rfl⟩))
    exact .ok (related x y rfl rfl)

/-- Lists that differ in one item agree if the item does. -/
theorem mapM {R : β → β → Prop} {a b : α} (agree : Agree R (decode a) (decode b))
    (front back : List α) :
    Agree (ChangedAt front.length R) ((front ++ a :: back).mapM decode)
      ((front ++ b :: back).mapM decode) := by
  rw [List.mapM_append, List.mapM_append, List.mapM_cons, List.mapM_cons]
  cases before : front.mapM decode with
  | error fault => exact .error fault
  | ok values =>
    rw [ok_bind, ok_bind, bind_assoc, bind_assoc]
    refine bind agree fun x y related => ?_
    rw [bind_assoc, bind_assoc]
    refine bind (refl (fun _ => rfl) (back.mapM decode) : Agree Eq _ _) ?_
    rintro rest _ rfl
    exact .ok ⟨values, x, y, rest, (mapM_eq_ok_iff.1 before).length_eq.symm, rfl, rfl, related⟩

variable (decode) in
/-- Tables that differ in the value of one key agree if the value does. -/
theorem mapM_values {R : β → β → Prop} {a b : α} (agree : Agree R (decode a) (decode b))
    (key : String) (front back : List (String × α)) :
    Agree (fun xs ys => ∃ front x y back, xs = front ++ (key, x) :: back ∧
        ys = front ++ (key, y) :: back ∧ R x y)
      ((front ++ (key, a) :: back).mapM fun member => (decode member.2).map (member.1, ·))
      ((front ++ (key, b) :: back).mapM fun member => (decode member.2).map (member.1, ·)) := by
  have rows : Agree (fun p q => ∃ x y, p = (key, x) ∧ q = (key, y) ∧ R x y)
      ((decode a).map (key, ·)) ((decode b).map (key, ·)) :=
    agree.map fun x y related => ⟨x, y, rfl, rfl, related⟩
  have lists : Agree (ChangedAt front.length fun p q => ∃ x y, p = (key, x) ∧ q = (key, y) ∧ R x y)
      ((front ++ (key, a) :: back).mapM fun member => (decode member.2).map (member.1, ·))
      ((front ++ (key, b) :: back).mapM fun member => (decode member.2).map (member.1, ·)) := by
    refine mapM ?_ front back
    exact rows
  refine lists.imp ?_
  rintro _ _ ⟨front, _, _, back, -, rfl, rfl, x, y, rfl, rfl, related⟩
  exact ⟨front, x, y, back, rfl, rfl, related⟩

end Agree

end CloudInventory
