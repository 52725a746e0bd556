import CloudInventory.Client.Error
import CloudInventory.Json.Number

/-!
# Configuration

Where the service is and as whom to use it. A configuration comes from environment
variables, which is checked at once, or from JSON, which is checked when a client
is made from it. The password is never written.
-/

namespace CloudInventory

/-- A connection to the service. -/
structure Config where
  /-- The base URL, with the version of the interface. -/
  endpoint : String
  username : String
  password : String
  /-- The time limit of a request in seconds. -/
  timeoutSeconds : UInt64
  deriving DecidableEq

namespace Config

def defaultEndpoint : String := "https://zrh.cloudsigma.com/api/2.0"

def defaultTimeout : UInt64 := 30

/-- The configuration without credentials. -/
def default : Config where
  endpoint := defaultEndpoint
  username := ""
  password := ""
  timeoutSeconds := defaultTimeout

instance : Inhabited Config := ⟨default⟩

/-! ## Validity -/

/-- Whether a URL names one of the two schemes that can be used. -/
def isHttpUrl (url : String) : Bool :=
  "http://".toList.isPrefixOf url.toList || "https://".toList.isPrefixOf url.toList

/-- Why the configuration cannot be used, if it cannot. -/
def validate (x : Config) : Outcome Unit :=
  if !isHttpUrl x.endpoint then
    .error (.configuration ("Endpoint must be an http(s) URL: " ++ x.endpoint))
  else if x.timeoutSeconds = 0 then
    .error (.configuration "Timeout must be greater than zero")
  else
    .ok ()

/-! ## Environment -/

/-- The value of a variable that must be set. -/
def required (lookup : String → Option String) (name : String) : Outcome String :=
  match lookup name with
  | some value => .ok value
  | none => .error (.configuration (name ++ " not set"))

/-- The number of seconds that a text denotes. -/
def readTimeout? (text : String) : Option UInt64 :=
  (Text.readPlusNumeral? text.toList).bind fun n =>
    if n < UInt64.size then some (UInt64.ofNat n) else none

/-- The value of the time limit, or its default if it is not set. -/
def timeoutOf : Option String → Outcome UInt64
  | none => .ok defaultTimeout
  | some text =>
    match readTimeout? text with
    | some seconds => .ok seconds
    | none => .error (.configuration ("Invalid CLOUDSIGMA_TIMEOUT_SECS: " ++ text))

/-- The configuration that environment variables describe. -/
def fromEnvironment (lookup : String → Option String) : Outcome Config := do
  let username ← required lookup "CLOUDSIGMA_USERNAME"
  let password ← required lookup "CLOUDSIGMA_PASSWORD"
  let timeoutSeconds ← timeoutOf (lookup "CLOUDSIGMA_TIMEOUT_SECS")
  let config : Config := {
    endpoint := (lookup "CLOUDSIGMA_ENDPOINT").getD defaultEndpoint
    username
    password
    timeoutSeconds
  }
  config.validate
  pure config

/-! ## JSON -/

/-- The configuration as the expectation of a message. -/
def expectation : String := "struct CloudSigmaConfig"

def readText : Json → Except SchemaFault String
  | .string s => .ok s
  | json => .error (.wrongType json "a string")

def readSeconds : Json → Except SchemaFault UInt64
  | .number (.integer value fits) =>
    if 0 ≤ value then .ok (UInt64.ofNat value.toNat)
    else .error (.wrongValue (.number (.integer value fits)) "u64")
  | json => .error (.wrongType json "u64")

/-- The value of a member that must be there. -/
def present {α : Type} (name : String) : Option α → Except SchemaFault α
  | some value => .ok value
  | none => .error (.missingField name)

/-- The configuration of an object. Members are read in key order; only then are
missing ones found. -/
def ofMembers (members : List (String × Json)) : Except SchemaFault Config := do
  let endpoint ← (members.lookup "endpoint").mapM readText
  let password ← (members.lookup "password").mapM readText
  let timeoutSeconds ← (members.lookup "timeout_secs").mapM readSeconds
  let username ← (members.lookup "username").mapM readText
  pure {
    endpoint := ← present "endpoint" endpoint
    username := ← present "username" username
    password := password.getD ""
    timeoutSeconds := timeoutSeconds.getD defaultTimeout
  }

/-- The element of an array at a position that must be filled. -/
def element {α : Type} (read : Json → Except SchemaFault α) (items : List Json)
    (position : Nat) : Except SchemaFault α :=
  match items[position]? with
  | some json => read json
  | none => .error (.tooFewElements position (expectation ++ " with 4 elements"))

/-- The configuration of an array: endpoint, username, password and time limit. -/
def ofItems (items : List Json) : Except SchemaFault Config := do
  let endpoint ← element readText items 0
  let username ← element readText items 1
  let password ← items[2]?.mapM readText
  let timeoutSeconds ← items[3]?.mapM readSeconds
  if 4 < items.length then throw (.tooManyElements items.length)
  pure {
    endpoint
    username
    password := password.getD ""
    timeoutSeconds := timeoutSeconds.getD defaultTimeout
  }

/-- The configuration of a JSON value, or the first fault. -/
def read : Json → Except SchemaFault Config
  | .object members => ofMembers members
  | .array items => ofItems items
  | json => .error (.wrongType json expectation)

/-- The configuration of a JSON value; it may still be invalid. -/
def ofJson (json : Json) : Outcome Config :=
  (read json).mapError fun fault => .serialization fault.message

/-- The form that is written, without the password. -/
def toJson (x : Config) : Json :=
  .ofFields [
    ("endpoint", some (.string x.endpoint)),
    ("username", some (.string x.username)),
    ("timeout_secs", some (.number (.ofUInt64 x.timeoutSeconds)))]

/-! ## URLs -/

def isSlash (c : Char) : Bool :=
  c == '/'

/-- The text without the slashes it ends with. -/
def trimSlashes (cs : List Char) : List Char :=
  (cs.reverse.dropWhile isSlash).reverse

/-- The URL of a path: exactly one slash between it and the endpoint. -/
def url (x : Config) (path : String) : String :=
  String.ofList (trimSlashes x.endpoint.toList ++ '/' :: path.toList.dropWhile isSlash)

end Config

end CloudInventory
