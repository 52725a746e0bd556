import CloudInventory.Json.Basic
import CloudInventory.Instant.Reader
import CloudInventory.Text.Quoted

/-!
# Decode errors

Why a body is not the record it should be. A schema fault says that the JSON has
the wrong form for its place; the other causes say that a field of the right form
holds a value that does not exist. Each cause has one wording.
-/

namespace CloudInventory

/-- What a JSON value is, in the words of a message. -/
def Json.describe : Json → String
  | .null => "null"
  | .bool b => "boolean `" ++ (if b then "true" else "false") ++ "`"
  | .number (.integer value _) => "integer `" ++ Text.signedNumeralText value ++ "`"
  | .number (.float x) => "floating point `" ++ String.ofList x.literalChars ++ "`"
  | .string s => "string " ++ Text.quoted s
  | .array _ => "sequence"
  | .object _ => "map"

/-- A JSON value that does not fit the schema at its place. -/
inductive SchemaFault where
  /-- A value of another kind than the expected one. -/
  | wrongType (found : Json) (expected : String)
  /-- A value of the right kind outside the expected range. -/
  | wrongValue (found : Json) (expected : String)
  /-- An array with more elements than the record has fields. -/
  | tooManyElements (length : Nat)
  /-- An array without an element for a required field. -/
  | tooFewElements (length : Nat) (expected : String)
  /-- An object without a required field. -/
  | missingField (name : String)
  /-- A value that is none of the alternatives of a type. -/
  | noVariant (type : String)
  deriving DecidableEq

/-- The wording of a schema fault. -/
def SchemaFault.message : SchemaFault → String
  | .wrongType found expected =>
    "invalid type: " ++ found.describe ++ ", expected " ++ expected
  | .wrongValue found expected =>
    "invalid value: " ++ found.describe ++ ", expected " ++ expected
  | .tooManyElements length =>
    "invalid length " ++ Text.numeralText length ++ ", expected fewer elements in array"
  | .tooFewElements length expected =>
    "invalid length " ++ Text.numeralText length ++ ", expected " ++ expected
  | .missingField name => "missing field `" ++ name ++ "`"
  | .noVariant type => "data did not match any variant of untagged enum " ++ type

/-- Why a body cannot be decoded. -/
inductive DecodeError where
  /-- A text that is no time stamp. -/
  | timestamp (text : String) (fault : Instant.Fault)
  /-- A text that is no natural number. -/
  | magnitude (text : String)
  /-- A value that is no integer in the range of its field. -/
  | integer (field : String) (text : String)
  /-- A text that is no port specification. -/
  | port (text : String)
  /-- A text that is no address. -/
  | address (text : String)
  /-- JSON that does not fit the schema. -/
  | schema (fault : SchemaFault)
  /-- Text that is no JSON. -/
  | notJson
  deriving DecidableEq

/-- The wording of a decode error. -/
def DecodeError.message : DecodeError → String
  | .timestamp text fault => "Invalid timestamp " ++ Text.quoted text ++ ": " ++ fault.message
  | .magnitude text => "Invalid magnitude: " ++ text
  | .integer field text => "Invalid integer for " ++ field ++ ": " ++ text
  | .port text => "Invalid port specification: " ++ text
  | .address text => "Invalid address: " ++ text
  | .schema fault => "Wire record decode error: " ++ fault.message
  | .notJson => "Wire record decode error: no JSON"

end CloudInventory
