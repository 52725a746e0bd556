import CloudInventory.Json.Basic
import CloudInventory.Text.Hex

/-!
# JSON lexemes

The words of a JSON text: punctuation, strings, and the values that are one word
(numbers, truth values and `null`). Blanks between them are the space, the tab,
the line feed and the carriage return. A text with a word that is none of these
has no lexemes at all.
-/

namespace CloudInventory

/-- A word of a JSON text. -/
inductive Lexeme where
  | openArray
  | closeArray
  | openObject
  | closeObject
  | comma
  | colon
  | text (value : String)
  | atom (value : Json)

namespace Lexeme

/-- A blank between lexemes. -/
def isSpace (c : Char) : Bool :=
  c == ' ' || c == '\t' || c == '\n' || c == '\r'

/-! ## Strings -/

/-- The code unit that four hexadecimal digits denote. -/
def codeUnit? (a b c d : Char) : Option Nat := do
  let a ← Text.hexValue? a
  let b ← Text.hexValue? b
  let c ← Text.hexValue? c
  let d ← Text.hexValue? d
  pure (((a * 16 + b) * 16 + c) * 16 + d)

/-- A code unit that starts a surrogate pair. -/
def isLead (unit : Nat) : Bool :=
  decide (0xD800 ≤ unit) && decide (unit < 0xDC00)

/-- A code unit that ends a surrogate pair. -/
def isTrail (unit : Nat) : Bool :=
  decide (0xDC00 ≤ unit) && decide (unit < 0xE000)

/-- The character of a surrogate pair. -/
def pairChar (lead trail : Nat) : Char :=
  Char.ofNat (0x10000 + (lead - 0xD800) * 0x400 + (trail - 0xDC00))

/-- The character that a backslash with one letter stands for. -/
def shortEscape? (c : Char) : Option Char :=
  if c = '"' then some '"'
  else if c = '\\' then some '\\'
  else if c = '/' then some '/'
  else if c = 'b' then some (Char.ofNat 8)
  else if c = 'f' then some (Char.ofNat 12)
  else if c = 'n' then some '\n'
  else if c = 'r' then some '\r'
  else if c = 't' then some '\t'
  else none

/-- The characters up to the closing quote, and what follows it. Characters below
U+0020 and halves of surrogate pairs are refused. -/
def scanText? : List Char → Option (List Char × List Char)
  | [] => none
  | '"' :: rest => some ([], rest)
  | ['\\'] => none
  | '\\' :: 'u' :: a :: b :: c :: d :: rest =>
    match codeUnit? a b c d with
    | none => none
    | some unit =>
      if isLead unit then
        match rest with
        | '\\' :: 'u' :: e :: f :: g :: h :: rest =>
          match codeUnit? e f g h with
          | none => none
          | some trail =>
            if isTrail trail then
              match scanText? rest with
              | some (cs, rest) => some (pairChar unit trail :: cs, rest)
              | none => none
            else none
        | _ => none
      else if isTrail unit then none
      else
        match scanText? rest with
        | some (cs, rest) => some (Char.ofNat unit :: cs, rest)
        | none => none
  | '\\' :: e :: rest =>
    match shortEscape? e with
    | none => none
    | some c =>
      match scanText? rest with
      | some (cs, rest) => some (c :: cs, rest)
      | none => none
  | c :: rest =>
    if c.toNat < 0x20 then none
    else
      match scanText? rest with
      | some (cs, rest) => some (c :: cs, rest)
      | none => none

theorem length_scanText? {cs value rest : List Char} (scanned : scanText? cs = some (value, rest)) :
    rest.length < cs.length := by
  fun_induction scanText? cs generalizing value rest <;> simp_all <;> grind

/-! ## One lexeme -/

/-- The lexeme at the start of a text that starts with no blank, and what follows it. -/
def scan? : List Char → Option (Lexeme × List Char)
  | [] => none
  | '[' :: rest => some (.openArray, rest)
  | ']' :: rest => some (.closeArray, rest)
  | '\x7b' :: rest => some (.openObject, rest)
  | '\x7d' :: rest => some (.closeObject, rest)
  | ',' :: rest => some (.comma, rest)
  | ':' :: rest => some (.colon, rest)
  | '"' :: rest => (scanText? rest).map fun (cs, rest) => (.text (String.ofList cs), rest)
  | 'n' :: 'u' :: 'l' :: 'l' :: rest => some (.atom .null, rest)
  | 't' :: 'r' :: 'u' :: 'e' :: rest => some (.atom (.bool true), rest)
  | 'f' :: 'a' :: 'l' :: 's' :: 'e' :: rest => some (.atom (.bool false), rest)
  | cs =>
    (NumberLiteral.scan? cs).bind fun (literal, rest) =>
      literal.value?.map fun n => (.atom (.number n), rest)

theorem length_scan? {cs rest : List Char} {lexeme : Lexeme}
    (scanned : scan? cs = some (lexeme, rest)) : rest.length < cs.length := by
  unfold scan? at scanned
  split at scanned
  case h_8 =>
    simp only [Option.map_eq_some_iff, Prod.mk.injEq, Prod.exists] at scanned
    obtain ⟨_, _, text, _, rfl⟩ := scanned
    have := length_scanText? text
    simp
    omega
  case h_12 =>
    simp only [Option.bind_eq_some_iff, Option.map_eq_some_iff, Prod.mk.injEq,
      Prod.exists] at scanned
    obtain ⟨_, _, literal, _, _, _, rfl⟩ := scanned
    exact NumberLiteral.length_scan? literal
  all_goals simp_all <;> grind

/-- The lexemes of a text; `none` if some part of it is no lexeme. -/
def all? : List Char → Option (List Lexeme)
  | [] => some []
  | c :: cs =>
    if isSpace c then all? cs
    else
      match _scanned : scan? (c :: cs) with
      | none => none
      | some (lexeme, rest) => (all? rest).map (lexeme :: ·)
  termination_by cs => cs.length
  decreasing_by
  · simp
  · exact length_scan? _scanned

end Lexeme

end CloudInventory
