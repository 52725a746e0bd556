import CloudInventory.Decode.Error

/-!
# Service errors

Why an operation on the service fails: no response came, the response reports a
failure, its body cannot be decoded, or the request could not be made at all.
-/

namespace CloudInventory

/-- Why an operation fails. -/
inductive ServiceError where
  /-- The request could not be sent, or the response could not be read. -/
  | transport (reason : String)
  /-- The service answered with a status that is no success. -/
  | status (code : Nat) (body : String)
  /-- The body of the response cannot be decoded. -/
  | decode (error : DecodeError)
  /-- A value cannot be read from or written as JSON. -/
  | serialization (reason : String)
  /-- The configuration is not usable. -/
  | configuration (reason : String)
  deriving DecidableEq

namespace ServiceError

/-- The wording of the error. -/
def message : ServiceError → String
  | transport reason => "HTTP error: " ++ reason
  | status code body =>
    "CloudSigma API returned " ++ Text.numeralText code ++ ": " ++ body
  | decode error => error.message
  | serialization reason => "Serialization error: " ++ reason
  | configuration reason => "Configuration error: " ++ reason

/-- Whether the service says that the resource does not exist. -/
def isNotFound : ServiceError → Bool
  | status code _ => code == 404
  | _ => false

end ServiceError

/-- What an operation yields. -/
abbrev Outcome (α : Type) : Type := Except ServiceError α

/-- A decoded value as the outcome of an operation. -/
def Outcome.ofDecoded {α : Type} (decoded : Except DecodeError α) : Outcome α :=
  decoded.mapError .decode

end CloudInventory
