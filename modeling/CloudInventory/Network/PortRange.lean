import CloudInventory.Network.AddressMatch
import CloudInventory.Scalar.Basic

/-!
# Port ranges

The source or destination ports of a firewall rule: a port, or two ports with a
colon between them, or with a leading `!` the ports outside. A blank text
restricts nothing. The first port is never above the last.
-/

namespace CloudInventory

/-- An inclusive range of ports, possibly inverted. -/
structure PortRange where
  first : UInt16
  last : UInt16
  negated : Bool
  first_le_last : first ≤ last
  deriving DecidableEq

namespace PortRange

/-- One port. -/
def single (port : UInt16) : PortRange :=
  ⟨port, port, false, UInt16.le_refl port⟩

/-- The ports from `first` to `last`; an error if there are none. -/
def range (first last : UInt16) : Except DecodeError PortRange :=
  if h : first ≤ last then .ok ⟨first, last, false, h⟩
  else .error (.port (Text.numeralText first.toNat ++ ":" ++ Text.numeralText last.toNat))

/-- The same bounds with the inverse match. -/
def negate (x : PortRange) : PortRange :=
  { x with negated := !x.negated }

/-- A port: a numeral up to 65535 with an optional plus sign, blanks around it ignored. -/
def readPort? (cs : List Char) : Option UInt16 :=
  (Text.readPlusNumeral? (Text.trim cs)).bind fun n =>
    if n < 65536 then some (UInt16.ofNat n) else none

/-- The bounds of a text without negation. -/
def readBounds? (cs : List Char) : Option PortRange := do
  let isColon (c : Char) : Bool := c == ':'
  let first ← readPort? (cs.takeWhile fun c => !isColon c)
  match cs.dropWhile fun c => !isColon c with
  | [] => pure (single first)
  | _ :: lastChars =>
    let last ← readPort? lastChars
    (range first last).toOption

/-- The range that a text denotes; `none` for a blank text. -/
def parse (text : String) : Except DecodeError (Option PortRange) :=
  match Text.trim text.toList with
  | [] => .ok none
  | c :: cs =>
    let (negated, body) := stripNegation (c :: cs)
    match readBounds? body with
    | some bounds => .ok (some (if negated then bounds.negate else bounds))
    | none => .error (.port (String.ofList (c :: cs)))

/-- The range of a field that may be unset, text or a number. -/
def decode : Option Scalar → Except DecodeError (Option PortRange)
  | none => .ok none
  | some (.text written) => parse written
  | some (.number (.integer value fits)) =>
    if 0 ≤ value ∧ value < 65536 then .ok (some (single (UInt16.ofNat value.toNat)))
    else .error (.port (Number.integer value fits).plainText)
  | some (.number (.float x)) => .error (.port (Number.float x).plainText)

/-- Whether the port lies in the bounds, whether the match is inverted or not. -/
def contains (x : PortRange) (port : UInt16) : Bool :=
  decide (x.first ≤ port) && decide (port ≤ x.last)

def isSingle (x : PortRange) : Bool :=
  x.first == x.last

/-- The bounds as text; one number if they are equal. -/
def boundsText (x : PortRange) : String :=
  if x.isSingle then Text.numeralText x.first.toNat
  else Text.numeralText x.first.toNat ++ ":" ++ Text.numeralText x.last.toNat

/-- The text that is sent and shown. -/
def text (x : PortRange) : String :=
  if x.negated then "!" ++ x.boundsText else x.boundsText

/-- A port as a JSON number. -/
def portJson (port : UInt16) : Json :=
  .number (.integer port.toNat ⟨by omega, by have := port.toNat_lt; omega⟩)

/-- The form in records. -/
def toJson (x : PortRange) : Json :=
  .object [("from", portJson x.first), ("negated", .bool x.negated), ("to", portJson x.last)]

end PortRange

end CloudInventory
