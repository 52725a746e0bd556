import CloudInventory.Network.Block

/-!
# Address matches

The source or destination of a firewall rule: an address block, or with a leading
`!` every address of the family outside the block. A blank text restricts nothing.
-/

namespace CloudInventory

/-- A leading `!` with the blanks after it, and the text that it negates. -/
def stripNegation : List Char → Bool × List Char
  | '!' :: cs => (true, Text.trimStart cs)
  | cs => (false, cs)

/-- An address block, possibly inverted. -/
structure AddressMatch where
  network : AddressBlock
  negated : Bool
  deriving DecidableEq

namespace AddressMatch

/-- The match that a text denotes; `none` for a blank text. -/
def parse (text : String) : Except DecodeError (Option AddressMatch) := do
  match Text.trim text.toList with
  | [] => pure none
  | c :: cs =>
    let (negated, body) := stripNegation (c :: cs)
    let network ← AddressBlock.ofChars (Text.trim body)
    pure (some ⟨network, negated⟩)

/-- The match of a field that may be unset. -/
def decode : Option String → Except DecodeError (Option AddressMatch)
  | some text => parse text
  | none => pure none

/-- The smallest block that covers the match: an inverted block is widened to the
whole family. -/
def collapsed (x : AddressMatch) : AddressBlock :=
  if x.negated then .unrestricted x.network.isIpv6 else x.network

/-- The text that is sent and shown. -/
def text (x : AddressMatch) : String :=
  if x.negated then "!" ++ x.network.cidr else x.network.cidr

/-- The form in records. -/
def toJson (x : AddressMatch) : Json :=
  .object [("negated", .bool x.negated), ("network", x.network.toJson)]

end AddressMatch

end CloudInventory
