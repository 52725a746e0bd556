import CloudInventory.Text.Blank

/-!
# URLs

How an identifier becomes one segment of a path (`segment`), and what part of a URL
a server is asked for (`target`). A client resolves the segments `.` and `..` of a
path before it sends a request, escapes what a path or a query may not hold, and
keeps the fragment to itself. An identifier is escaped so that it cannot leave its
segment, except that the points of `.` and `..` need no escape.
-/

namespace CloudInventory.Url

/-! ## Escapes -/

/-- A hexadecimal digit, upper case. -/
def upperHexDigit (n : Nat) : Char :=
  (Nat.digitChar n).toUpper

/-- The escape of a byte. -/
def escapedByte (byte : UInt8) : List Char :=
  ['%', upperHexDigit (byte.toNat / 16), upperHexDigit (byte.toNat % 16)]

/-- A character as it is, or the escapes of its bytes in UTF-8. -/
def escapedUnless (isPlain : Char → Bool) (c : Char) : List Char :=
  if isPlain c then [c] else (String.utf8EncodeChar c).flatMap escapedByte

/-- Whether the character stands for itself everywhere in a URL. -/
def isUnreserved (c : Char) : Bool :=
  c.isAlphanum || c == '-' || c == '_' || c == '.' || c == '~'

/-- The characters of the segment that an identifier becomes. -/
def segmentChars (id : List Char) : List Char :=
  id.flatMap (escapedUnless isUnreserved)

/-- An identifier as a segment of a path. -/
def segment (id : String) : String :=
  String.ofList (segmentChars id.toList)

/-! ## The target of a request -/

/-- Whether the character separates segments. -/
def isSeparator (c : Char) : Bool :=
  c == '/' || c == '\\'

/-- Whether the character ends the path. -/
def endsPath (c : Char) : Bool :=
  c == '?' || c == '#'

/-- Whether the character is dropped wherever it stands. -/
def isIgnored (c : Char) : Bool :=
  c == '\t' || c == '\n' || c == '\r'

/-- Whether the character is printable ASCII and none of the given ones. -/
def isPrintableExcept (excluded : List Char) (c : Char) : Bool :=
  0x20 < c.toNat && c.toNat < 0x7F && !excluded.contains c

/-- Whether a path may hold the character. -/
def isPathChar : Char → Bool :=
  isPrintableExcept ['\x22', '#', '<', '>', '?', '\x60', '\x7b', '\x7d']

/-- Whether a query may hold the character. -/
def isQueryChar : Char → Bool :=
  isPrintableExcept ['\x22', '#', '\x27', '<', '>']

/-- A segment with the escapes of points undone and in lower case, as far as it is
needed to recognize `.` and `..`. -/
def plainPoints : List Char → List Char
  | '%' :: '2' :: 'e' :: cs => '.' :: plainPoints cs
  | '%' :: '2' :: 'E' :: cs => '.' :: plainPoints cs
  | c :: cs => c :: plainPoints cs
  | [] => []

def isCurrent (segment : List Char) : Bool :=
  plainPoints segment == ['.']

def isParent (segment : List Char) : Bool :=
  plainPoints segment == ['.', '.']

/-- The segments of a path. -/
def segments : List Char → List (List Char)
  | [] => [[]]
  | c :: cs =>
    if isSeparator c then [] :: segments cs
    else
      match segments cs with
      | [] => [[c]]
      | first :: rest => (c :: first) :: rest

/-- The segments, with `.` and `..` resolved, behind those that are already done,
which come last first. A path that ends in one of the two ends in a slash. -/
def resolve (done : List (List Char)) : List (List Char) → List (List Char)
  | [] => done.reverse
  | [last] =>
    if isParent last then ([] :: done.tail).reverse
    else if isCurrent last then ([] :: done).reverse
    else (last :: done).reverse
  | segment :: rest =>
    if isParent segment then resolve done.tail rest
    else if isCurrent segment then resolve done rest
    else resolve (segment :: done) rest

/-- The path that is asked for, of the text between the authority and the query. -/
def pathChars (cs : List Char) : List Char :=
  (resolve [] (segments (cs.drop 1))).flatMap fun segment =>
    '/' :: segment.flatMap (escapedUnless isPathChar)

/-- The query that is asked for, with its question mark, of the text after the path. -/
def queryChars : List Char → List Char
  | '?' :: cs => '?' :: (cs.takeWhile (· != '#')).flatMap (escapedUnless isQueryChar)
  | _ => []

/-- The characters of a URL that are read: all but those that are dropped. -/
def readChars (url : List Char) : List Char :=
  url.filter fun c => !isIgnored c

/-- The text after the scheme and the separators behind it, however many they are. -/
def afterScheme (cs : List Char) : List Char :=
  ((cs.dropWhile (· != ':')).drop 1).dropWhile isSeparator

/-- Whether the authority goes on with the character. -/
def isAuthorityChar (c : Char) : Bool :=
  !isSeparator c && !endsPath c

/-- The text after the scheme and the authority. -/
def afterAuthority (cs : List Char) : List Char :=
  (afterScheme cs).dropWhile isAuthorityChar

/-- The path and the query that a server is asked for. -/
def target (url : String) : String :=
  let rest := afterAuthority (readChars url.toList)
  String.ofList (pathChars (rest.takeWhile fun c => !endsPath c) ++
    queryChars (rest.dropWhile fun c => !endsPath c))

end CloudInventory.Url
