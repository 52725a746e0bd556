import CloudInventory.Proofs.Json.IntegerLiteral

/-!
# The lexemes of a compact text

A compact text spells the lexemes of its value one behind the other, with nothing between
them. Where all numbers are integers the lexemes are found again: a word ends where the next
one begins, since no bracket, comma or colon goes on with a number.

Results:
1. `Json.chars_eq_spelling`: the text of a value is its lexemes and nothing else.
2. `Json.spells_chars`: the lexemes are read back, whatever stands behind the text that is no
   part of a number.
3. `Json.all?_compact`: they are read back from the text alone.
-/

namespace CloudInventory

/-! ## Lexemes -/

/-- How a lexeme stands in a compact text. -/
def Lexeme.spelling : Lexeme → List Char
  | .openArray => ['[']
  | .closeArray => [']']
  | .openObject => ['\x7b']
  | .closeObject => ['\x7d']
  | .comma => [',']
  | .colon => [':']
  | .text s => Json.stringChars s
  | .atom json => json.chars

namespace Json

mutual

/-- The lexemes of a value. -/
def lexemes : Json → List Lexeme
  | .null => [.atom .null]
  | .bool b => [.atom (.bool b)]
  | .number n => [.atom (.number n)]
  | .string s => [.text s]
  | .array [] => [.openArray, .closeArray]
  | .array (x :: xs) => .openArray :: (lexemes x ++ itemLexemes xs)
  | .object [] => [.openObject, .closeObject]
  | .object ((k, v) :: ms) =>
    .openObject :: .text k :: .colon :: (lexemes v ++ memberLexemes ms)

/-- The lexemes of the items after the first, and the closing bracket. -/
def itemLexemes : List Json → List Lexeme
  | [] => [.closeArray]
  | x :: xs => .comma :: (lexemes x ++ itemLexemes xs)

/-- The lexemes of the members after the first, and the closing brace. -/
def memberLexemes : List (String × Json) → List Lexeme
  | [] => [.closeObject]
  | (k, v) :: ms => .comma :: .text k :: .colon :: (lexemes v ++ memberLexemes ms)

end

mutual

/-- The text of a value is its lexemes and nothing else. -/
theorem chars_eq_spelling : (json : Json) → json.chars = json.lexemes.flatMap Lexeme.spelling
  | .null => rfl
  | .bool true => rfl
  | .bool false => rfl
  | .number n => (List.append_nil _).symm
  | .string s => (List.append_nil _).symm
  | .array [] => rfl
  | .array (x :: xs) => by
    simp only [chars, lexemes, List.flatMap_cons, List.flatMap_append, chars_eq_spelling x,
      itemChars_eq_spelling xs]
    rfl
  | .object [] => rfl
  | .object ((k, v) :: ms) => by
    simp only [chars, lexemes, List.flatMap_cons, List.flatMap_append, chars_eq_spelling v,
      memberChars_eq_spelling ms]
    rfl

theorem itemChars_eq_spelling :
    (items : List Json) → itemChars items = (itemLexemes items).flatMap Lexeme.spelling
  | [] => rfl
  | x :: xs => by
    simp only [itemChars, itemLexemes, List.flatMap_cons, List.flatMap_append,
      chars_eq_spelling x, itemChars_eq_spelling xs]
    rfl

theorem memberChars_eq_spelling : (members : List (String × Json)) →
    memberChars members = (memberLexemes members).flatMap Lexeme.spelling
  | [] => rfl
  | (k, v) :: ms => by
    simp only [memberChars, memberLexemes, List.flatMap_cons, List.flatMap_append,
      chars_eq_spelling v, memberChars_eq_spelling ms]
    rfl

end

end Json

/-! ## Reading lexemes back -/

namespace Lexeme

open NumberLiteral (extendsNumber)

/-- The characters are read as the lexemes, whatever stands behind them that is no part of a
number. -/
def Spells (cs : List Char) (lexemes : List Lexeme) : Prop :=
  ∀ rest, Text.Ends extendsNumber rest → all? (cs ++ rest) = (all? rest).map (lexemes ++ ·)

/-- The characters start with one that no number goes on with. -/
def Delimits (cs : List Char) : Prop :=
  ∃ c rest, cs = c :: rest ∧ extendsNumber c = false

variable {cs ds : List Char} {first second : List Lexeme}

/-- A mark is one character and one lexeme, in front of anything. -/
theorem Spells.cons {c : Char} {lexeme : Lexeme} (visible : isSpace c = false)
    (scanned : ∀ rest, scan? (c :: rest) = some (lexeme, rest)) (spells : Spells cs first) :
    Spells (c :: cs) (lexeme :: first) := by
  intro rest ends
  rw [List.cons_append, all?_cons_of_scan? visible (scanned _), spells rest ends, Option.map_map]
  rfl

/-- Lexemes stand behind one another if the ones in front are delimited. -/
theorem Spells.append (spells : Spells cs first) (behind : Spells ds second)
    (delimits : Delimits ds) : Spells (cs ++ ds) (first ++ second) := by
  intro rest ends
  obtain ⟨c, others, rfl, other⟩ := delimits
  have ends' : Text.Ends extendsNumber (c :: others ++ rest) := Text.ends_cons other _
  rw [List.append_assoc, spells _ ends', behind rest ends, Option.map_map]
  exact congrArg (Option.map · _) (funext fun lexemes => (List.append_assoc _ _ _).symm)

/-- A mark alone. -/
theorem spells_mark {c : Char} {lexeme : Lexeme} (visible : isSpace c = false)
    (scanned : ∀ rest, scan? (c :: rest) = some (lexeme, rest)) : Spells [c] [lexeme] :=
  fun rest _ => all?_cons_of_scan? visible (scanned rest)

theorem spells_string (s : String) : Spells (Json.stringChars s) [.text s] := by
  intro rest _
  have scanned := scan?_stringChars rest s
  exact all?_cons_of_scan? (by decide) scanned

/-- A key and the value behind the colon. -/
theorem spells_member (key : String) (spells : Spells cs first) :
    Spells (Json.stringChars key ++ ':' :: cs) (.text key :: .colon :: first) :=
  (spells_string key).append (spells.cons rfl fun _ => rfl) ⟨':', cs, rfl, rfl⟩

end Lexeme

namespace Json

open Lexeme

/-- All numbers of the value are integers. -/
inductive Integral : Json → Prop where
  | null : Integral .null
  | bool (value : Bool) : Integral (.bool value)
  | integer (value : Int) (fits : FitsWord value) : Integral (.number (.integer value fits))
  | string (value : String) : Integral (.string value)
  | array {items : List Json} (each : ∀ item ∈ items, Integral item) : Integral (.array items)
  | object {members : List (String × Json)} (each : ∀ member ∈ members, Integral member.2) :
    Integral (.object members)

theorem Integral.items {items : List Json} (integral : (Json.array items).Integral) :
    ∀ item ∈ items, item.Integral := by
  cases integral with
  | array each => exact each

theorem Integral.members {members : List (String × Json)}
    (integral : (Json.object members).Integral) : ∀ member ∈ members, member.2.Integral := by
  cases integral with
  | object each => exact each

theorem delimits_itemChars (items : List Json) : Delimits (itemChars items) := by
  cases items with
  | nil => exact ⟨']', [], rfl, rfl⟩
  | cons x xs => exact ⟨',', _, by rw [itemChars], rfl⟩

theorem delimits_memberChars (members : List (String × Json)) :
    Delimits (memberChars members) := by
  cases members with
  | nil => exact ⟨'\x7d', [], rfl, rfl⟩
  | cons member ms => exact ⟨',', _, by rw [memberChars], rfl⟩

mutual

/-- The lexemes of a value are read back from its text. -/
theorem spells_chars : (json : Json) → json.Integral → Spells json.chars json.lexemes
  | .null, _ => by
    rw [chars, lexemes]
    exact fun _ _ => all?_cons_of_scan? rfl rfl
  | .bool true, _ => by
    rw [chars, lexemes]
    exact fun _ _ => all?_cons_of_scan? rfl rfl
  | .bool false, _ => by
    rw [chars, lexemes]
    exact fun _ _ => all?_cons_of_scan? rfl rfl
  | .number n, integral => by
    rw [chars, lexemes]
    cases integral with
    | integer _ fits => exact fun _ ends => all?_signedNumeralText fits ends
  | .string s, _ => by
    rw [chars, lexemes]
    exact spells_string s
  | .array [], _ => by
    rw [chars, lexemes]
    exact (spells_mark rfl fun _ => rfl).cons rfl fun _ => rfl
  | .array (x :: xs), integral => by
    obtain ⟨head, tail⟩ := List.forall_mem_cons.1 integral.items
    rw [chars, lexemes]
    exact ((spells_chars x head).append (spells_itemChars xs tail) (delimits_itemChars xs)).cons
      rfl fun _ => rfl
  | .object [], _ => by
    rw [chars, lexemes]
    exact (spells_mark rfl fun _ => rfl).cons rfl fun _ => rfl
  | .object ((k, v) :: ms), integral => by
    obtain ⟨head, tail⟩ := List.forall_mem_cons.1 integral.members
    rw [chars, lexemes]
    exact (spells_member k
      ((spells_chars v head).append (spells_memberChars ms tail) (delimits_memberChars ms))).cons
      rfl fun _ => rfl

theorem spells_itemChars : (items : List Json) → (∀ item ∈ items, item.Integral) →
    Spells (itemChars items) (itemLexemes items)
  | [], _ => by
    rw [itemChars, itemLexemes]
    exact spells_mark rfl fun _ => rfl
  | x :: xs, each => by
    obtain ⟨head, tail⟩ := List.forall_mem_cons.1 each
    rw [itemChars, itemLexemes]
    exact ((spells_chars x head).append (spells_itemChars xs tail) (delimits_itemChars xs)).cons
      rfl fun _ => rfl

theorem spells_memberChars : (members : List (String × Json)) →
    (∀ member ∈ members, member.2.Integral) →
      Spells (memberChars members) (memberLexemes members)
  | [], _ => by
    rw [memberChars, memberLexemes]
    exact spells_mark rfl fun _ => rfl
  | (k, v) :: ms, each => by
    obtain ⟨head, tail⟩ := List.forall_mem_cons.1 each
    rw [memberChars, memberLexemes]
    exact (spells_member k
      ((spells_chars v head).append (spells_memberChars ms tail) (delimits_memberChars ms))).cons
      rfl fun _ => rfl

end

/-- The lexemes of a value are read back from its compact text. -/
theorem all?_compact {json : Json} (integral : json.Integral) :
    all? json.compact.toList = some json.lexemes := by
  have spells := spells_chars json integral [] (Text.ends_nil _)
  rw [List.append_nil, all?, Option.map_some, List.append_nil] at spells
  rw [compact, String.toList_ofList, spells]

/-- The text is its lexemes, with nothing between them. -/
def IsCompact (text : String) : Prop :=
  ∃ lexemes, all? text.toList = some lexemes ∧ text.toList = lexemes.flatMap spelling

theorem isCompact_compact {json : Json} (integral : json.Integral) : IsCompact json.compact := by
  refine ⟨json.lexemes, all?_compact integral, ?_⟩
  rw [compact, String.toList_ofList, chars_eq_spelling]

end Json

end CloudInventory
