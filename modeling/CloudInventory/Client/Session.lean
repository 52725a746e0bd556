import CloudInventory.Client.Url
import CloudInventory.Json.Printer

/-!
# Sessions

An exchange with the service as data: a session is either done with a value, or it
sends a request and goes on with what comes of it. So what a client does can be
followed against any peer, without sending anything: against a peer that always
answers a request in the same way (`valueFrom`, `requestsTo`), or in any monad (`runIn`).
-/

namespace CloudInventory

/-- The method of a request. -/
inductive Method where
  | get
  | post
  | put
  | delete
  deriving DecidableEq, Repr

def Method.text : Method → String
  | get => "GET"
  | post => "POST"
  | put => "PUT"
  | delete => "DELETE"

/-- A request to the service. -/
structure Request where
  method : Method
  url : String
  /-- The value of the header of the same name. -/
  authorization : String
  /-- The time limit in seconds. -/
  timeoutSeconds : UInt64
  body : Option Json
  deriving DecidableEq

namespace Request

/-- The content type of every request, with or without a body. -/
def contentType : String := "application/json"

/-- The path and the query that the service is asked for. -/
def target (x : Request) : String :=
  Url.target x.url

end Request

/-- A response of the service. -/
structure Response where
  status : Nat
  text : String
  deriving DecidableEq, Repr

namespace Response

/-- Whether the status says that the request was successful. -/
def isSuccess (x : Response) : Bool :=
  decide (200 ≤ x.status) && decide (x.status < 300)

end Response

/-- What comes of a request: a response, or the reason why there is none. -/
abbrev Delivery : Type := Except String Response

/-- An exchange with the service that yields a value. -/
inductive Session (α : Type) where
  /-- The exchange is over. -/
  | done (value : α)
  /-- A request is sent; what comes of it decides how the exchange goes on. -/
  | send (request : Request) (resume : Delivery → Session α)

namespace Session

variable {α β : Type}

/-- One exchange after another. -/
def bind : Session α → (α → Session β) → Session β
  | done value, next => next value
  | send request resume, next => send request fun delivery => (resume delivery).bind next

instance : Monad Session where
  pure := done
  bind := bind

/-- The exchange of one request. -/
def exchange (request : Request) : Session Delivery :=
  send request done

/-! ## Peers -/

/-- The value of a session with a peer that answers every request in a fixed way. -/
def valueFrom (peer : Request → Delivery) : Session α → α
  | done value => value
  | send request resume => (resume (peer request)).valueFrom peer

/-- The requests that such a peer gets, in order. -/
def requestsTo (peer : Request → Delivery) : Session α → List Request
  | done _ => []
  | send request resume => request :: (resume (peer request)).requestsTo peer

/-- The peer that cannot be reached. -/
def unreachable (reason : String) : Request → Delivery :=
  fun _ => .error reason

/-- The session in a monad that delivers its requests. -/
def runIn {m : Type → Type} [Monad m] (deliver : Request → m Delivery) : Session α → m α
  | done value => pure value
  | send request resume => do
    let delivery ← deliver request
    (resume delivery).runIn deliver

/-! ## Laws -/

theorem done_bind (value : α) (next : α → Session β) : done value >>= next = next value := rfl

theorem send_bind (request : Request) (resume : Delivery → Session α) (next : α → Session β) :
    send request resume >>= next = send request fun delivery => resume delivery >>= next := rfl

theorem bind_done (session : Session α) : session >>= done = session := by
  induction session with
  | done value => rfl
  | send request resume ih => simp only [send_bind, ih]

theorem bind_bind {γ : Type} (session : Session α) (first : α → Session β)
    (second : β → Session γ) :
    session >>= first >>= second = session >>= fun value => first value >>= second := by
  induction session with
  | done value => rfl
  | send request resume ih => simp only [send_bind, ih]

instance : LawfulMonad Session :=
  LawfulMonad.mk' Session bind_done done_bind bind_bind

/-- The value of one session after another is that of the second, begun with the
value of the first. -/
theorem valueFrom_bind (peer : Request → Delivery) (session : Session α)
    (next : α → Session β) :
    (session >>= next).valueFrom peer = (next (session.valueFrom peer)).valueFrom peer := by
  induction session with
  | done value => rfl
  | send request resume ih => simp only [send_bind, valueFrom, ih]

/-- The requests of one session after another are those of both, in order. -/
theorem requestsTo_bind (peer : Request → Delivery) (session : Session α)
    (next : α → Session β) :
    (session >>= next).requestsTo peer =
      session.requestsTo peer ++ (next (session.valueFrom peer)).requestsTo peer := by
  induction session with
  | done value => rfl
  | send request resume ih => simp only [send_bind, valueFrom, requestsTo, ih, List.cons_append]

end Session

end CloudInventory
