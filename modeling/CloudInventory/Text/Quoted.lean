import CloudInventory.Text.Printable

/-!
# Quoted text

Messages and logs show a text between double quotes, so that a reader sees where
it starts and ends. The quote and the backslash get a backslash; tab, line feed,
carriage return and the null character have escapes of their own; every other
character that a reader could not tell apart (one without a visible form, or one
that joins the character before it) is written as its code point in braces.
-/

namespace CloudInventory.Text

/-- An escape by code point: the hexadecimal number in braces, lower case,
without padding. -/
def codePointEscape (c : Char) : List Char :=
  ['\\', 'u', '\x7b'] ++ Nat.toDigits 16 c.toNat ++ ['\x7d']

/-- How one character of a quoted text is written. -/
def quotedChar (c : Char) : List Char :=
  if c = '"' then ['\\', '"']
  else if c = '\\' then ['\\', '\\']
  else if c = '\n' then ['\\', 'n']
  else if c = '\t' then ['\\', 't']
  else if c = '\r' then ['\\', 'r']
  else if c.toNat = 0 then ['\\', '0']
  else if isExtending c || !isVisible c then codePointEscape c
  else [c]

/-- The text between double quotes, escaped character by character. -/
def quotedChars (cs : List Char) : List Char :=
  '"' :: (cs.flatMap quotedChar ++ ['"'])

/-- The string between double quotes. -/
def quoted (s : String) : String :=
  String.ofList (quotedChars s.toList)

/-- An optional text as logs show it: `Some("x")` or `None`. -/
def quotedOption : Option String → String
  | some s => "Some(" ++ quoted s ++ ")"
  | none => "None"

end CloudInventory.Text
