import CloudInventory.Json.Printer
import CloudInventory.Json.Reader

/-!
# JSON texts of one lexeme

Strings and numbers are one lexeme each, and a text that is nothing but one of them is read
as its value. A string is read back from its escapes, and a number literal is read as the
number that it denotes.

Results:
1. `Lexeme.scanText?_escaped`: the characters of a string are read back from their escapes.
2. `Json.parse?_compact_string`: so is a string from its text.
3. `Json.parse?_of_literal` and `Json.parse?_of_no_literal`: a text that starts like a number
   is read as the number that its literal denotes, or is no JSON.
-/

namespace CloudInventory

namespace Lexeme

open Json

/-! ## Strings -/

section

variable (rest : List Char)

theorem scanText?_short {e c : Char} (short : shortEscape? e = some c) (notCode : e ≠ 'u') :
    scanText? ('\\' :: e :: rest) = (scanText? rest).map fun read => (c :: read.1, read.2) := by
  rw [scanText?]
  · rw [short]
    cases scanText? rest <;> rfl
  · exact fun _ _ _ _ _ code _ => notCode code

theorem scanText?_code {c : Char} (control : c.toNat < 0x20) :
    scanText? ('\\' :: 'u' :: '0' :: '0' :: hexDigit (c.toNat / 16) :: hexDigit c.toNat :: rest) =
      (scanText? rest).map fun read => (c :: read.1, read.2) := by
  have unit : codeUnit? '0' '0' (hexDigit (c.toNat / 16)) (hexDigit c.toNat) = some c.toNat := by
    have all : ∀ n < 0x20, codeUnit? '0' '0' (hexDigit (n / 16)) (hexDigit n) = some n := by
      decide
    exact all _ control
  have noSurrogate : isLead c.toNat = false ∧ isTrail c.toNat = false := by
    have all : ∀ n < 0x20, isLead n = false ∧ isTrail n = false := by decide
    exact all _ control
  rw [scanText?]
  simp only [unit, noSurrogate]
  rw [Char.ofNat_toNat]
  cases scanText? rest <;> rfl

theorem scanText?_plain {c : Char} (visible : ¬ c.toNat < 0x20) (noQuote : c ≠ '"')
    (noEscape : c ≠ '\\') :
    scanText? (c :: rest) = (scanText? rest).map fun read => (c :: read.1, read.2) := by
  rw [scanText?]
  · rw [if_neg visible]
    cases scanText? rest <;> rfl
  · exact noQuote
  · exact fun escape _ => noEscape escape
  · exact fun _ _ _ _ _ escape _ => noEscape escape
  · exact fun _ _ escape _ => noEscape escape

/-- A character is read back, escaped or not. -/
theorem scanText?_escapedChar (c : Char) :
    scanText? (escapedChar c ++ rest) =
      (scanText? rest).map fun read => (c :: read.1, read.2) := by
  -- The characters with a code of their own are those codes.
  have named {n : Nat} (code : c.toNat = n) : c = Char.ofNat n := by
    rw [← code, Char.ofNat_toNat]
  unfold escapedChar
  split
  next quote =>
    rw [quote]
    exact scanText?_short rest rfl (by decide)
  next noQuote =>
  split
  next escape =>
    rw [escape]
    exact scanText?_short rest rfl (by decide)
  next noEscape =>
  split
  next code =>
    rw [named code]
    exact scanText?_short rest rfl (by decide)
  next =>
  split
  next code =>
    rw [named code]
    exact scanText?_short rest rfl (by decide)
  next =>
  split
  next code =>
    rw [named code]
    exact scanText?_short rest rfl (by decide)
  next =>
  split
  next code =>
    rw [named code]
    exact scanText?_short rest rfl (by decide)
  next =>
  split
  next code =>
    rw [named code]
    exact scanText?_short rest rfl (by decide)
  next =>
  split
  next control => exact scanText?_code rest control
  next visible => exact scanText?_plain rest visible noQuote noEscape

/-- The characters of a string are read back up to the closing quote. -/
theorem scanText?_escaped (cs : List Char) :
    scanText? (cs.flatMap escapedChar ++ '"' :: rest) = some (cs, rest) := by
  induction cs with
  | nil => rfl
  | cons c cs ih => rw [List.flatMap_cons, List.append_assoc, scanText?_escapedChar, ih,
      Option.map_some]

theorem scan?_stringChars (s : String) : scan? (stringChars s ++ rest) = some (.text s, rest) := by
  have closed : stringChars s ++ rest = '"' :: (s.toList.flatMap escapedChar ++ '"' :: rest) := by
    rw [stringChars, List.cons_append, List.append_assoc, List.singleton_append]
  have restored : String.ofList s.toList = s := String.ofList_toList
  rw [closed, scan?, scanText?_escaped, Option.map_some]
  simp only [restored]

end

/-! ## Numbers -/

/-- What starts with a minus sign or a digit is a number literal or nothing. -/
theorem scan?_number {c : Char} (start : c = '-' ∨ c.isDigit = true) (cs : List Char) :
    scan? (c :: cs) = (NumberLiteral.scan? (c :: cs)).bind fun (literal, rest) =>
      literal.value?.map fun n => (.atom (.number n), rest) := by
  rw [scan?]
  · exact List.cons_ne_nil c cs
  all_goals
    rintro rest ⟨⟩
    exact absurd start (by decide)

/-! ## One lexeme -/

variable {c : Char} {cs : List Char} (visible : isSpace c = false)

include visible

/-- A lexeme at the start is the first of all lexemes. -/
theorem all?_cons_of_scan? {lexeme : Lexeme} {rest : List Char}
    (scanned : scan? (c :: cs) = some (lexeme, rest)) :
    all? (c :: cs) = (all? rest).map (lexeme :: ·) := by
  rw [all?, if_neg (by rw [visible]; decide)]
  split
  next missing =>
    rw [missing] at scanned
    cases scanned
  next first others found =>
    rw [found] at scanned
    cases scanned
    rfl

theorem all?_of_scan? {lexeme : Lexeme} (scanned : scan? (c :: cs) = some (lexeme, [])) :
    all? (c :: cs) = some [lexeme] := by
  rw [all?_cons_of_scan? visible scanned, all?, Option.map_some]

theorem all?_of_scan?_eq_none (missing : scan? (c :: cs) = none) : all? (c :: cs) = none := by
  rw [all?, if_neg (by rw [visible]; decide)]
  split
  next => rfl
  next first rest found =>
    rw [found] at missing
    cases missing

end Lexeme

/-! ## Texts -/

namespace Json

open Lexeme

/-- A string is read back from its text. -/
theorem parse?_compact_string (s : String) : parse? (compact (.string s)) = some (.string s) := by
  have chars : (compact (.string s)).toList = stringChars s := String.toList_ofList
  have scanned := scan?_stringChars [] s
  rw [List.append_nil] at scanned
  have lexemes : all? (stringChars s) = some [.text s] :=
    all?_of_scan? (by decide) scanned
  rw [parse?, chars, lexemes]
  rfl

section

variable {c : Char} {cs : List Char} (start : c = '-' ∨ c.isDigit = true)

include start

/-- Neither a sign nor a digit is a blank. -/
theorem isSpace_of_number : isSpace c = false := by
  rw [Bool.eq_false_iff]
  intro space
  simp only [isSpace, Bool.or_eq_true, beq_iff_eq] at space
  rcases space with ((rfl | rfl) | rfl) | rfl <;> exact absurd start (by decide)

/-- A literal is read as the number that it denotes, if it denotes one. -/
theorem parse?_of_literal {l : NumberLiteral}
    (scanned : NumberLiteral.scan? (c :: cs) = some (l, [])) :
    parse? (String.ofList (c :: cs)) = l.value?.map .number := by
  have word : Lexeme.scan? (c :: cs) = l.value?.map fun n => (.atom (.number n), []) := by
    rw [scan?_number start, scanned, Option.bind_some]
  rw [parse?, String.toList_ofList]
  cases value : l.value? with
  | none =>
    rw [value, Option.map_none] at word
    rw [all?_of_scan?_eq_none (isSpace_of_number start) word]
    rfl
  | some n =>
    rw [value, Option.map_some] at word
    rw [all?_of_scan? (isSpace_of_number start) word]
    rfl

/-- What starts like a number and is none is no JSON text. -/
theorem parse?_of_no_literal (missing : NumberLiteral.scan? (c :: cs) = none) :
    parse? (String.ofList (c :: cs)) = none := by
  have word : Lexeme.scan? (c :: cs) = none := by
    rw [scan?_number start, missing, Option.bind_none]
  rw [parse?, String.toList_ofList, all?_of_scan?_eq_none (isSpace_of_number start) word]
  rfl

end

end Json

end CloudInventory
