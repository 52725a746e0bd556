import CloudInventory.Json.Basic

/-!
# Tokens

The vocabulary of an enumerated field: each known value has one token, and every
other token becomes the value `unrecognized`, so that a new token of the service
never makes a record unreadable.
-/

namespace CloudInventory

/-- A type of enumerated values with their tokens. -/
class Vocabulary (α : Type) where
  /-- The known values in declaration order, each with its token. -/
  known : List (α × String)
  /-- The value of every token that is not known. -/
  unrecognized : α

namespace Token

variable {α : Type} [Vocabulary α]

/-- The text that the value `unrecognized` shows. -/
def unrecognizedText : String := "unrecognized"

/-- The value of a token: exactly the known spelling, or `unrecognized`. -/
def ofText (text : String) : α :=
  match (Vocabulary.known (α := α)).find? fun entry => entry.2 == text with
  | some (value, _) => value
  | none => Vocabulary.unrecognized

/-- The token of a value, if it is a known one. -/
def known? [DecidableEq α] (value : α) : Option String :=
  (Vocabulary.known (α := α)).lookup value

/-- The token of a value, or the text of `unrecognized`. -/
def text [DecidableEq α] (value : α) : String :=
  (known? value).getD unrecognizedText

/-- Whether the service's token was a known one. -/
def isRecognized [DecidableEq α] (value : α) : Bool :=
  (known? value).isSome

/-- The tokens of a vocabulary in declaration order. -/
def all (α : Type) [Vocabulary α] : List String :=
  (Vocabulary.known (α := α)).map Prod.snd

/-- The form in records. -/
def toJson [DecidableEq α] (value : α) : Json :=
  .string (text value)

/-- The form in requests: an unrecognized value is left out. -/
def toRequest? [DecidableEq α] (value : α) : Option Json :=
  (known? value).map .string

end Token

end CloudInventory
