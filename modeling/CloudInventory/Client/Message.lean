import CloudInventory.Client.Session
import CloudInventory.Text.Digits

/-!
# Messages

Requests and responses as the text that goes over a connection. One connection
serves one request: the message says so by its protocol version, so a response
ends where the connection ends.
-/

namespace CloudInventory

namespace Url

/-- The host of a URL, with its port if it names one. -/
def authorityChars (url : List Char) : List Char :=
  let authority := (afterScheme (readChars url)).takeWhile isAuthorityChar
  (authority.reverse.takeWhile (· != '@')).reverse

/-- The name or the address of a host, without the brackets of an IPv6 address. -/
def hostChars : List Char → List Char
  | '[' :: cs => cs.takeWhile (· != ']')
  | cs => cs.takeWhile (· != ':')

/-- The port behind a host, if it has one. -/
def portChars : List Char → List Char
  | '[' :: cs => ((cs.dropWhile (· != ']')).drop 1).drop 1
  | cs => (cs.dropWhile (· != ':')).drop 1

/-- The port of a URL; 80 if it names none. -/
def port (url : String) : Option UInt16 :=
  match portChars (authorityChars url.toList) with
  | [] => some 80
  | cs => (Text.readNumeral? cs).bind fun n =>
      if n < 65536 then some (UInt16.ofNat n) else none

/-- The name or the address of the host of a URL. -/
def host (url : String) : String :=
  String.ofList (hostChars (authorityChars url.toList))

end Url

namespace Request

/-- The lines before the body. -/
def headLines (x : Request) (body : String) : List String := [
  x.method.text ++ " " ++ x.target ++ " HTTP/1.0",
  "Host: " ++ String.ofList (Url.authorityChars x.url.toList),
  "Authorization: " ++ x.authorization,
  "Content-Type: " ++ contentType,
  "Content-Length: " ++ Text.numeralText body.utf8ByteSize]

/-- The message that is sent. -/
def message (x : Request) : String :=
  let body := (x.body.map Json.compact).getD ""
  "\r\n".intercalate (x.headLines body) ++ "\r\n\r\n" ++ body

end Request

namespace Response

/-- The text after the first empty line. -/
def bodyChars : List Char → List Char
  | '\r' :: '\n' :: '\r' :: '\n' :: body => body
  | _ :: cs => bodyChars cs
  | [] => []

/-- The response that a message is: a version and a status, and the body behind the
header. -/
def ofMessage? (message : String) : Option Response :=
  let cs := message.toList
  let status := ((cs.dropWhile (· != ' ')).drop 1).takeWhile Char.isDigit
  (Text.readNumeral? status).map fun code => ⟨code, String.ofList (bodyChars cs)⟩

end Response

end CloudInventory
