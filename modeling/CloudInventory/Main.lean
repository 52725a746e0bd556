import CloudInventory.Client.Message
import CloudInventory.Inventory
import Std.Async.DNS
import Std.Async.TCP
import Std.Async.Timer

/-!
# The program

Reads the environment, delivers the requests of the inventory over TCP, and prints
what the inventory yields: the nodes on the standard output, the log and the reason
of a failure on the standard error. Encrypted connections are not supported, so an
endpoint has to be reached through a local gateway.
-/

namespace CloudInventory.Program

open Std.Async Std.Net

/-- The environment variables that describe the configuration. -/
def variableNames : List String :=
  ["CLOUDSIGMA_ENDPOINT", "CLOUDSIGMA_USERNAME", "CLOUDSIGMA_PASSWORD",
    "CLOUDSIGMA_TIMEOUT_SECS"]

/-- Everything that comes over a connection until its end. -/
partial def receive (socket : TCP.Socket.Client) (received : ByteArray) : Async ByteArray := do
  match ← socket.recv? 65536 with
  | some bytes => receive socket (received ++ bytes)
  | none => pure received

/-- The address of a socket. -/
def socketAddress (address : IPAddr) (port : UInt16) : SocketAddress :=
  match address with
  | .v4 address => .v4 ⟨address, port⟩
  | .v6 address => .v6 ⟨address, port⟩

/-- Sends a request over a connection of its own, and reads the response. -/
def exchange (request : Request) : Async Delivery := do
  if !"http://".toList.isPrefixOf request.url.toList then
    return .error "encrypted connections are not supported"
  let some port := Url.port request.url | return .error "invalid port number"
  let addresses ← DNS.getAddrInfo (Url.host request.url) ""
  let some address := addresses[0]? | return .error "no address for the host"
  let socket ← TCP.Socket.Client.mk
  socket.connect (socketAddress address port)
  socket.send request.message.toUTF8
  let received ← receive socket .empty
  match (String.fromUTF8? received).bind Response.ofMessage? with
  | some response => return .ok response
  | none => return .error "Failed to read response: no HTTP message"

/-- The end of the time for a request. -/
def expiry (request : Request) : Async Delivery := do
  sleep (.ofInt (request.timeoutSeconds.toNat * 1000))
  return .error "CloudSigma API error: operation timed out"

/-- What comes of a request within its time. -/
def deliver (request : Request) : IO Delivery := do
  try
    Async.block (Async.race (exchange request) (expiry request))
  catch e =>
    return .error ("CloudSigma API error: " ++ toString e)

/-- Prints a report and yields the exit code. -/
def print (report : Report) : IO UInt32 := do
  for entry in report.log do
    IO.eprintln (entry.level.text ++ " " ++ entry.message)
  for node in report.nodes do
    IO.println node.line
  for line in (report.failure.map RunFailure.lines).getD [] do
    IO.eprintln line
  return report.exitCode

end CloudInventory.Program

def main : IO UInt32 := do
  let environment ← CloudInventory.Program.variableNames.mapM fun name => do
    return (name, ← IO.getEnv name)
  let report ← (CloudInventory.inventory .newest fun name =>
    (environment.lookup name).join).runIn CloudInventory.Program.deliver
  CloudInventory.Program.print report
