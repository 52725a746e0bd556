import CloudInventory.Json.Printer
import CloudInventory.Proofs.Text.Numeral

/-!
# Compact text is one line

No character below the blank stands in a compact text: strings escape them, and
punctuation, numerals and words have none.

Results:
1. `Number.graphic_literalChars`: numbers are written without them.
2. `Json.graphic_stringChars`: so is every string.
3. `Json.graphic_chars`: so is every value.
4. `Json.newline_notMem_compact`: a compact text has no line feed.
-/

namespace CloudInventory

/-! ## Texts without control characters -/

namespace Text

/-- None of the characters is below the blank. -/
def Graphic (cs : List Char) : Prop :=
  ∀ c ∈ cs, 0x20 ≤ c.toNat

instance (cs : List Char) : Decidable (Graphic cs) :=
  List.decidableBAll _ cs

theorem graphic_cons {c : Char} {cs : List Char} :
    Graphic (c :: cs) ↔ 0x20 ≤ c.toNat ∧ Graphic cs :=
  List.forall_mem_cons

theorem graphic_append {cs ds : List Char} : Graphic (cs ++ ds) ↔ Graphic cs ∧ Graphic ds :=
  List.forall_mem_append

theorem graphic_replicate {c : Char} (graphic : 0x20 ≤ c.toNat) (count : Nat) :
    Graphic (List.replicate count c) := by
  intro d member
  rwa [(List.mem_replicate.1 member).2]

theorem graphic_numeral (n : Nat) : Graphic (numeral n) :=
  fun c member => Nat.le_trans (by decide) (isDigit_iff.1 (isDigit_of_mem_numeral c member)).1

theorem graphic_signedNumeralText (n : Int) : Graphic (signedNumeralText n).toList := by
  rw [toList_signedNumeralText]
  split
  · rw [graphic_cons]
    exact ⟨by decide, graphic_numeral _⟩
  · exact graphic_numeral _

end Text

open Text

/-! ## Numbers -/

namespace Decimal

theorem graphic_pointed {digits : List Char} (graphic : Graphic digits) (whole : Int)
    (keepPoint : Bool) : Graphic (pointed digits whole keepPoint) := by
  have zeros (count : Nat) : Graphic (List.replicate count '0') :=
    graphic_replicate (by decide) count
  unfold pointed
  split
  · simp only [graphic_cons, graphic_append]
    exact ⟨by decide, by decide, zeros _, graphic⟩
  · dsimp only
    split
    · simp only [graphic_append]
      refine ⟨⟨graphic, zeros _⟩, ?_⟩
      split <;> decide
    · rw [← List.take_append_drop whole.toNat digits, graphic_append] at graphic
      rw [graphic_append, graphic_cons]
      exact ⟨graphic.1, by decide, graphic.2⟩

theorem graphic_withExponent {digits : List Char} (graphic : Graphic digits) (leading : Int) :
    Graphic (withExponent digits leading) := by
  unfold withExponent
  simp only [graphic_append, graphic_cons]
  refine ⟨?_, by decide, ?_, graphic_numeral _⟩
  · split
    · simp only [graphic_cons] at graphic ⊢
      exact ⟨graphic.1, by decide, graphic.2⟩
    · exact graphic
  · split <;> decide

theorem graphic_scientific (d : Decimal) : Graphic d.scientific := by
  unfold scientific
  split
  · decide
  · split
    · exact graphic_pointed (graphic_numeral _) _ _
    · exact graphic_withExponent (graphic_numeral _) _

end Decimal

/-- Numbers are written without control characters. -/
theorem Number.graphic_literalChars (n : Number) : Graphic n.literalChars := by
  cases n with
  | integer value fits => exact graphic_signedNumeralText value
  | float x =>
    refine graphic_append.2 ⟨?_, (x.shortest .even).graphic_scientific⟩
    unfold Binary64.signChars
    split <;> decide

/-! ## Values -/

namespace Json

theorem graphic_hexDigit (n : Nat) : 0x20 ≤ (hexDigit n).toNat := by
  have all : ∀ d < 16, 0x20 ≤ (Nat.digitChar d).toNat := by decide
  exact all (n % 16) (Nat.mod_lt n (by decide))

/-- A control character is escaped, and any other one may stand. -/
theorem graphic_escapedChar (c : Char) : Graphic (escapedChar c) := by
  unfold escapedChar
  iterate 7
    split
    · decide
  split
  · simp only [graphic_cons]
    exact ⟨by decide, by decide, by decide, by decide, graphic_hexDigit _, graphic_hexDigit _,
      by decide⟩
  next graphic => exact graphic_cons.2 ⟨Nat.le_of_not_lt graphic, by decide⟩

theorem graphic_stringChars (s : String) : Graphic (stringChars s) := by
  have escaped : Graphic (s.toList.flatMap escapedChar) := by
    intro d member
    obtain ⟨c, -, inside⟩ := List.mem_flatMap.1 member
    exact graphic_escapedChar c d inside
  rw [stringChars, graphic_cons, graphic_append]
  exact ⟨by decide, escaped, by decide⟩

mutual

/-- Values are written without control characters. -/
theorem graphic_chars : (json : Json) → Graphic json.chars
  | .null => by decide
  | .bool true => by decide
  | .bool false => by decide
  | .number n => n.graphic_literalChars
  | .string s => graphic_stringChars s
  | .array [] => by decide
  | .array (item :: rest) => by
    rw [chars, graphic_cons, graphic_append]
    exact ⟨by decide, graphic_chars item, graphic_itemChars rest⟩
  | .object [] => by decide
  | .object ((key, value) :: rest) => by
    simp only [chars, graphic_cons, graphic_append]
    exact ⟨by decide, graphic_stringChars key, by decide, graphic_chars value,
      graphic_memberChars rest⟩

theorem graphic_itemChars : (items : List Json) → Graphic (itemChars items)
  | [] => by decide
  | item :: rest => by
    rw [itemChars, graphic_cons, graphic_append]
    exact ⟨by decide, graphic_chars item, graphic_itemChars rest⟩

theorem graphic_memberChars : (members : List (String × Json)) → Graphic (memberChars members)
  | [] => by decide
  | (key, value) :: rest => by
    simp only [memberChars, graphic_cons, graphic_append]
    exact ⟨by decide, graphic_stringChars key, by decide, graphic_chars value,
      graphic_memberChars rest⟩

end

/-- A compact text has no line feed. -/
theorem newline_notMem_compact (json : Json) : '\n' ∉ json.compact.toList := by
  intro member
  rw [compact, String.toList_ofList] at member
  exact absurd (graphic_chars json '\n' member) (by decide)

end Json

end CloudInventory
