import CloudInventory.Text.Blank
import CloudInventory.Text.Digits
import Mathlib.Data.List.DropRight
import Mathlib.Data.List.TakeWhile

/-!
# Trimming

Trimming takes the blanks at both ends. What the client writes has no blanks, and trimming
leaves it as it is; a text with blanks around it is the visible text between them.

Results:
1. `exists_blanks_trim`: trimming takes nothing but blanks.
2. `trim_of_visible` and `trim_between`: what is left of a visible text, bare or padded.
3. `trim_eq_nil_iff`: nothing is left of a blank text.
-/

namespace CloudInventory.Text

/-- A text in which no character is blank. -/
def Visible (cs : List Char) : Prop :=
  ∀ c ∈ cs, isBlank c = false

theorem Visible.append {cs ds : List Char} (before : Visible cs) (after : Visible ds) :
    Visible (cs ++ ds) := by
  intro c member
  rcases List.mem_append.1 member with inside | inside
  · exact before c inside
  · exact after c inside

theorem Visible.cons {c : Char} {cs : List Char} (head : isBlank c = false)
    (tail : Visible cs) : Visible (c :: cs) :=
  List.forall_mem_cons.2 ⟨head, tail⟩

theorem trimStart_of_visible {cs : List Char} (visible : Visible cs) : trimStart cs = cs := by
  cases cs with
  | nil => rfl
  | cons c cs => exact trimStart_cons_of_not_blank (visible c List.mem_cons_self)

theorem trimEnd_of_visible {cs : List Char} (visible : Visible cs) : trimEnd cs = cs := by
  have backwards : Visible cs.reverse := fun c member => visible c (List.mem_reverse.1 member)
  have kept : cs.reverse.dropWhile isBlank = cs.reverse := trimStart_of_visible backwards
  rw [trimEnd, kept, List.reverse_reverse]

/-- Trimming takes nothing but blanks. -/
theorem exists_blanks_trim (cs : List Char) :
    ∃ before after, cs = before ++ trim cs ++ after ∧ (∀ c ∈ before, isBlank c = true) ∧
      ∀ c ∈ after, isBlank c = true := by
  obtain ⟨before, blankBefore, front⟩ := exists_blanks_append_trimStart cs
  obtain ⟨after, blankAfter, back⟩ := exists_blanks_append_trimStart (trimStart cs).reverse
  have split : trimStart cs = trim cs ++ after.reverse := by
    rw [trim, trimEnd, ← List.reverse_append]
    exact List.reverse_eq_iff.1 back
  refine ⟨before, after.reverse, ?_, List.all_eq_true.1 blankBefore, fun c member => ?_⟩
  · rw [List.append_assoc, ← split]
    exact front
  · exact List.all_eq_true.1 blankAfter c (List.mem_reverse.1 member)

/-- The visible text between blanks is what trimming leaves. -/
theorem trim_between {before visible after : List Char}
    (blankBefore : ∀ c ∈ before, isBlank c = true) (isVisible : Visible visible)
    (filled : visible ≠ []) (blankAfter : ∀ c ∈ after, isBlank c = true) :
    trim (before ++ visible ++ after) = visible := by
  have start : trimStart (before ++ visible ++ after) = visible ++ after := by
    obtain ⟨c, cs, rfl⟩ := List.exists_cons_of_ne_nil filled
    rw [trimStart, List.append_assoc, List.dropWhile_append_of_pos blankBefore]
    exact trimStart_cons_of_not_blank (isVisible c List.mem_cons_self)
  have blanks : ∀ c ∈ after.reverse, isBlank c = true :=
    fun c member => blankAfter c (List.mem_reverse.1 member)
  rw [trim, start, trimEnd, List.reverse_append, List.dropWhile_append_of_pos blanks]
  exact trimEnd_of_visible isVisible

/-- Nothing is left of a text exactly if all of it is blank. -/
theorem trim_eq_nil_iff {cs : List Char} : trim cs = [] ↔ ∀ c ∈ cs, isBlank c = true := by
  constructor
  · intro nothing
    rw [trim, trimEnd, List.reverse_eq_nil_iff, List.dropWhile_eq_nil_iff] at nothing
    obtain ⟨blanks, allBlank, parts⟩ := exists_blanks_append_trimStart cs
    intro c member
    rw [parts] at member
    rcases List.mem_append.1 member with inside | inside
    · exact List.all_eq_true.1 allBlank c inside
    · exact nothing c (List.mem_reverse.2 inside)
  · intro blank
    rw [trim, show trimStart cs = [] from List.dropWhile_eq_nil_iff.2 blank]
    rfl

/-- Visible text has nothing to trim. -/
theorem trim_of_visible {cs : List Char} (visible : Visible cs) : trim cs = cs := by
  rw [trim, trimStart_of_visible visible, trimEnd_of_visible visible]

theorem trimStart_append_cons {c : Char} (visible : isBlank c = false) (cs ds : List Char) :
    trimStart (cs ++ c :: ds) = trimStart cs ++ c :: ds := by
  induction cs with
  | nil => exact trimStart_cons_of_not_blank visible
  | cons first cs ih =>
    cases blank : isBlank first with
    | true =>
      unfold trimStart at ih ⊢
      rw [List.cons_append, List.dropWhile_cons_of_pos blank, List.dropWhile_cons_of_pos blank, ih]
    | false =>
      rw [List.cons_append, trimStart_cons_of_not_blank blank, trimStart_cons_of_not_blank blank,
        List.cons_append]

theorem trimStart_blanks_append {blanks : List Char} (blank : ∀ c ∈ blanks, isBlank c = true)
    (cs : List Char) : trimStart (blanks ++ cs) = trimStart cs :=
  List.dropWhile_append_of_pos blank

theorem trim_trimStart (cs : List Char) : trim (trimStart cs) = trim cs := by
  rw [trim, trim, trimStart, trimStart, List.dropWhile_idempotent]

/-- The printable ASCII characters but the space are visible. -/
theorem isBlank_of_ascii {c : Char} (above : 0x20 < c.toNat) (below : c.toNat < 0x80) :
    isBlank c = false := by
  rw [Bool.eq_false_iff]
  intro blank
  simp only [isBlank, Bool.or_eq_true, Bool.and_eq_true, decide_eq_true_eq, beq_iff_eq] at blank
  omega

theorem isDigit_iff {c : Char} : c.isDigit = true ↔ 0x30 ≤ c.toNat ∧ c.toNat ≤ 0x39 := by
  simp only [Char.isDigit, ge_iff_le, UInt32.le_iff_toNat_le, Bool.and_eq_true, decide_eq_true_eq]
  rfl

theorem isBlank_of_isDigit {c : Char} (digit : c.isDigit = true) : isBlank c = false := by
  have bounds := isDigit_iff.1 digit
  exact isBlank_of_ascii (by omega) (by omega)

theorem visible_numeral (n : Nat) : Visible (numeral n) := by
  intro c member
  exact isBlank_of_isDigit (List.all_eq_true.1 (all_isDigit_numeral n) c member)

end CloudInventory.Text
