import CloudInventory.Text.Digits
import CloudInventory.Text.Hex

/-!
# IP addresses

Addresses of both families with their text forms. An IPv4 address is four decimal
numbers without leading zeros. An IPv6 address is eight hexadecimal groups; its
longest run of two or more zero groups is written `::`, and an address that maps
an IPv4 address shows that one in decimal. Reading accepts every text form of the
standard, including an embedded IPv4 tail, but no zone.
-/

namespace CloudInventory

/-- An IPv4 address by its four bytes. -/
structure Ipv4 where
  a : UInt8
  b : UInt8
  c : UInt8
  d : UInt8
  deriving DecidableEq, Repr

/-- An IPv6 address by its eight groups of sixteen bits. -/
structure Ipv6 where
  groups : Vector UInt16 8
  deriving DecidableEq, Repr

/-- An address of either family. -/
inductive IpAddress where
  | v4 (address : Ipv4)
  | v6 (address : Ipv6)
  deriving DecidableEq, Repr

namespace Ipv4

/-- The address as a number of 32 bits. -/
def toNat (x : Ipv4) : Nat :=
  ((x.a.toNat * 256 + x.b.toNat) * 256 + x.c.toNat) * 256 + x.d.toNat

/-- The address `0.0.0.0`. -/
def unspecified : Ipv4 := ⟨0, 0, 0, 0⟩

/-! ## Text -/

/-- Four decimal numbers with points between them. -/
def chars (x : Ipv4) : List Char :=
  Text.numeral x.a.toNat ++ '.' :: (Text.numeral x.b.toNat ++ '.' :: (Text.numeral x.c.toNat ++
    '.' :: Text.numeral x.d.toNat))

/-- A number up to 255 of at most three digits, without leading zeros. -/
def scanByte? (cs : List Char) : Option (UInt8 × List Char) :=
  let digits := cs.takeWhile Char.isDigit
  let value := Text.digitsValue digits
  if digits = [] ∨ 3 < digits.length ∨ (digits.head? = some '0' ∧ 1 < digits.length) ∨ 255 < value
  then none
  else some (UInt8.ofNat value, cs.dropWhile Char.isDigit)

/-- A number up to 255 behind a point. -/
def scanPointByte? : List Char → Option (UInt8 × List Char)
  | '.' :: cs => scanByte? cs
  | _ => none

/-- The address at the start of a text and what follows it. -/
def scan? (cs : List Char) : Option (Ipv4 × List Char) := do
  let (a, cs) ← scanByte? cs
  let (b, cs) ← scanPointByte? cs
  let (c, cs) ← scanPointByte? cs
  let (d, cs) ← scanPointByte? cs
  pure (⟨a, b, c, d⟩, cs)

end Ipv4

namespace Ipv6

/-- The address as a number of 128 bits. -/
def toNat (x : Ipv6) : Nat :=
  x.groups.toList.foldl (fun sofar group => sofar * 65536 + group.toNat) 0

/-- The address `::`. -/
def unspecified : Ipv6 := ⟨Vector.replicate 8 0⟩

/-- The address with the given groups; `none` unless there are eight. -/
def ofGroups? (groups : List UInt16) : Option Ipv6 :=
  if h : groups.length = 8 then some ⟨⟨groups.toArray, by simpa using h⟩⟩ else none

/-! ## Writing -/

/-- A group in lower case hexadecimal without leading zeros. -/
def groupChars (group : UInt16) : List Char :=
  Nat.toDigits 16 group.toNat

/-- Groups with colons between them. -/
def groupsChars : List UInt16 → List Char
  | [] => []
  | [group] => groupChars group
  | group :: groups => groupChars group ++ ':' :: groupsChars groups

/-- The number of zero groups at the start. -/
def zeroRun (groups : List UInt16) : Nat :=
  (groups.takeWhile (· == 0)).length

/-- The first of the longest runs of zero groups: where it starts, and its length. -/
def longestZeroRun : List UInt16 → Nat × Nat
  | [] => (0, 0)
  | group :: groups =>
    let here := zeroRun (group :: groups)
    let (start, length) := longestZeroRun groups
    if length ≤ here then (0, here) else (start + 1, length)

/-- The IPv4 address that the address maps, if it maps one. -/
def mapped? (x : Ipv6) : Option Ipv4 :=
  match x.groups.toList with
  | [0, 0, 0, 0, 0, 0xFFFF, high, low] =>
    some ⟨(high / 256).toUInt8, high.toUInt8, (low / 256).toUInt8, low.toUInt8⟩
  | _ => none

/-- The canonical text. -/
def chars (x : Ipv6) : List Char :=
  match x.mapped? with
  | some v4 => ':' :: ':' :: 'f' :: 'f' :: 'f' :: 'f' :: ':' :: v4.chars
  | none =>
    let groups := x.groups.toList
    let (start, length) := longestZeroRun groups
    if 1 < length then
      groupsChars (groups.take start) ++ ':' :: ':' :: groupsChars (groups.drop (start + length))
    else
      groupsChars groups

/-! ## Reading -/

/-- A group: one to four hexadecimal digits. -/
def scanGroup? (cs : List Char) : Option (UInt16 × List Char) :=
  let digits := cs.takeWhile Text.isHexDigit
  if digits = [] ∨ 4 < digits.length then none
  else some (UInt16.ofNat (Text.hexDigitsValue digits), cs.dropWhile Text.isHexDigit)

/-- The text behind the colon that stands before every group but the first. -/
def afterSeparator? (first : Bool) (cs : List Char) : Option (List Char) :=
  if first then some cs
  else
    match cs with
    | ':' :: cs => some cs
    | _ => none

/-- Groups with colons between them, at most `room` of them, as far as they go.
An IPv4 address may stand in the place of the last two groups and ends them; the
flag tells whether one did. -/
def scanGroups : (room : Nat) → (first : Bool) → List Char → List UInt16 × Bool × List Char
  | 0, _, cs => ([], false, cs)
  | room + 1, first, cs =>
    let embedded := if room = 0 then none else (afterSeparator? first cs).bind Ipv4.scan?
    match embedded with
    | some (v4, rest) =>
      ([v4.a.toUInt16 * 256 + v4.b.toUInt16, v4.c.toUInt16 * 256 + v4.d.toUInt16], true, rest)
    | none =>
      match (afterSeparator? first cs).bind scanGroup? with
      | none => ([], false, cs)
      | some (group, rest) =>
        let (groups, ended, rest) := scanGroups room false rest
        (group :: groups, ended, rest)

/-- The address at the start of a text and what follows it. -/
def scan? (cs : List Char) : Option (Ipv6 × List Char) :=
  let (head, embedded, rest) := scanGroups 8 true cs
  if head.length = 8 then (ofGroups? head).map (·, rest)
  else if embedded then none
  else
    match rest with
    | ':' :: ':' :: rest =>
      let (tail, _, rest) := scanGroups (7 - head.length) true rest
      let zeros := List.replicate (8 - head.length - tail.length) 0
      (ofGroups? (head ++ zeros ++ tail)).map (·, rest)
    | _ => none

end Ipv6

namespace IpAddress

/-- The number of bits of an address of the family. -/
def width : IpAddress → Nat
  | .v4 _ => 32
  | .v6 _ => 128

/-- The address as a number of `width` bits. -/
def toNat : IpAddress → Nat
  | .v4 x => x.toNat
  | .v6 x => x.toNat

def isIpv6 : IpAddress → Bool
  | .v4 _ => false
  | .v6 _ => true

/-- The address of the family with all bits zero. -/
def unspecified (ipv6 : Bool) : IpAddress :=
  if ipv6 then .v6 .unspecified else .v4 .unspecified

/-- The canonical text. -/
def chars : IpAddress → List Char
  | .v4 x => x.chars
  | .v6 x => x.chars

def text (x : IpAddress) : String :=
  String.ofList x.chars

/-- The address that a text denotes. -/
def read? (cs : List Char) : Option IpAddress :=
  match Ipv4.scan? cs with
  | some (x, rest) => if rest = [] then some (.v4 x) else none
  | none =>
    match Ipv6.scan? cs with
    | some (x, []) => some (.v6 x)
    | _ => none

end IpAddress

end CloudInventory
