import CloudInventory.Client.Session
import CloudInventory.Config
import CloudInventory.Envelope
import CloudInventory.Json.Reader
import CloudInventory.Request.Basic
import CloudInventory.Text.Base64

/-!
# The client

What all operations of the service have in common: how a request is made from a
configuration, what a response means, and how its body is unwrapped. A missing
resource is an absent value for whoever asks for it, and an error for whoever wants
to change it.
-/

namespace CloudInventory

/-! ## Responses -/

/-- Whether a text has no characters but blanks. -/
def Text.isBlankText (text : String) : Bool :=
  (Text.trim text.toList).isEmpty

/-- The body of what came of a request, if it has one. -/
def Delivery.payload : Delivery → Outcome (Option Json)
  | .error reason => .error (.transport reason)
  | .ok response =>
    if !response.isSuccess then .error (.status response.status response.text)
    else if response.status = 204 ∨ Text.isBlankText response.text then .ok none
    else
      match Json.parse? response.text with
      | some json => .ok (some json)
      | none => .error (.decode .notJson)

/-- The body of a resource that is asked for: there is none if it does not exist. -/
def absentIfNotFound : Outcome (Option Json) → Outcome (Option Json)
  | .error e => if e.isNotFound then .ok none else .error e
  | .ok body => .ok body

/-! ## Clients -/

/-- A client of the service: a configuration that can be used. -/
structure Client where
  config : Config
  valid : config.validate = .ok ()

namespace Client

/-- The client of a configuration, or why it cannot be used. -/
def connect (config : Config) : Outcome Client :=
  match valid : config.validate with
  | .ok () => .ok ⟨config, valid⟩
  | .error e => .error e

/-- The authorization of all requests. -/
def authorization (client : Client) : String :=
  "Basic " ++ Text.base64 (client.config.username ++ ":" ++ client.config.password)

/-- A request for a path. -/
def request (client : Client) (method : Method) (path : String) (body : Option Json) :
    Request where
  method
  url := client.config.url path
  authorization := client.authorization
  timeoutSeconds := client.config.timeoutSeconds
  body

/-- The exchange of a request, and the body of the response. -/
def send (client : Client) (method : Method) (path : String) (body : Option Json) :
    Session (Outcome (Option Json)) := do
  let delivery ← Session.exchange (client.request method path body)
  pure delivery.payload

/-- The body of what is asked for. -/
def fetch (client : Client) (path : String) : Session (Outcome (Option Json)) := do
  let body ← client.send .get path none
  pure (absentIfNotFound body)

/-- The single resource of a body. -/
def single (α : Type) [Resource α] (body : Outcome (Option Json)) : Outcome (Option α) :=
  body.bind fun body => Outcome.ofDecoded (unwrapSingle α body)

/-- The resources of a body. -/
def list (α : Type) [Resource α] (body : Outcome (Option Json)) : Outcome (List α) :=
  body.bind fun body => Outcome.ofDecoded (unwrapList α body)

/-! ## Kinds of operations -/

/-- Asks for one resource. -/
def getOne (α : Type) [Resource α] (client : Client) (path : String) :
    Session (Outcome (Option α)) := do
  let body ← client.fetch path
  pure (single α body)

/-- Asks for a list of resources. -/
def getList (α : Type) [Resource α] (client : Client) (path : String) :
    Session (Outcome (List α)) := do
  let body ← client.fetch path
  pure (list α body)

/-- Creates a resource, and yields what was created. -/
def create {α : Type} [Resource α] [Sendable α] (client : Client) (path : String) (value : α) :
    Session (Outcome (Option α)) := do
  let body ← client.send .post path (some (objectsBody [Sendable.requestBody value]))
  pure (single α body)

/-- Changes a resource, and yields what it is now. -/
def update {α : Type} [Resource α] [Sendable α] (client : Client) (path : String) (value : α) :
    Session (Outcome (Option α)) := do
  let body ← client.send .put path (some (Sendable.requestBody value))
  pure (single α body)

/-- A request without a result. -/
def command (client : Client) (method : Method) (path : String) : Session (Outcome Unit) := do
  let body ← client.send method path none
  pure (body.map fun _ => ())

/-- Deletes a resource. -/
def delete (client : Client) (path : String) : Session (Outcome Unit) :=
  client.command .delete path

end Client

end CloudInventory
