import CloudInventory.Resource.Basic

/-!
# Servers and the addresses bound to them

The summary of a server with its runtime state. A running server shows the
addresses of its interfaces, and an address shows the server that it is assigned
to, so these records nest to any depth. Decoding ends because every nested record
is smaller than the one around it.
-/

namespace CloudInventory

/-- Traffic counters of an interface. -/
structure IoStats where
  bytesReceived : Option Magnitude := none
  bytesSent : Option Magnitude := none
  packetsReceived : Option Magnitude := none
  packetsSent : Option Magnitude := none
  deriving DecidableEq, Repr, Inhabited

mutual

/-- A server: identity, state and runtime. -/
structure Server where
  uuid : Option String := none
  resourceUri : Option String := none
  owner : Option Owner := none
  name : Option String := none
  status : Option ServerStatus := none
  runtime : Option ServerRuntime := none

/-- The runtime state of a server. -/
structure ServerRuntime where
  activeSince : Option Instant := none
  nics : List NicStats := []
  status : Option ServerStatus := none

/-- The runtime state of an interface. -/
structure NicStats where
  interfaceType : Option InterfaceType := none
  io : Option IoStats := none
  ipv4 : Option Ip := none
  ipv6 : Option Ip := none
  mac : Option String := none

/-- An address of the account; its uuid is the address itself. -/
structure Ip where
  uuid : Option String := none
  resourceUri : Option String := none
  owner : Option Owner := none
  /-- The server that the address is assigned to. -/
  server : Option Server := none

end

instance : Inhabited Server := ⟨{}⟩
instance : Inhabited ServerRuntime := ⟨{}⟩
instance : Inhabited NicStats := ⟨{}⟩
instance : Inhabited Ip := ⟨{}⟩

/-! ## Decoding -/

def IoStats.ofRecord (record : Json) : Except DecodeError IoStats := do
  let bytesReceived ← record.magnitudeField "bytes_recv"
  let bytesSent ← record.magnitudeField "bytes_sent"
  let packetsReceived ← record.magnitudeField "packets_recv"
  let packetsSent ← record.magnitudeField "packets_sent"
  pure { bytesReceived, bytesSent, packetsReceived, packetsSent }

mutual

def Server.ofRecord (record : Json) : Except DecodeError Server := do
  let owner ← record.recordField Owner.ofRecord "owner"
  let runtime ← (record.child? "runtime").mapM fun ⟨json, _⟩ => ServerRuntime.ofRecord json
  pure {
    uuid := record.textField "uuid"
    resourceUri := record.textField "resource_uri"
    owner
    name := record.textField "name"
    status := record.tokenField "status"
    runtime
  }
  termination_by sizeOf record

def ServerRuntime.ofRecord (record : Json) : Except DecodeError ServerRuntime := do
  let activeSince ← record.instantField "active_since"
  let nics ← (record.children "nics").mapM fun ⟨json, _⟩ => NicStats.ofRecord json
  pure { activeSince, nics, status := record.tokenField "status" }
  termination_by sizeOf record

def NicStats.ofRecord (record : Json) : Except DecodeError NicStats := do
  let io ← record.recordField IoStats.ofRecord "io"
  let ipv4 ← (record.child? "ip_v4").mapM fun ⟨json, _⟩ => Ip.ofRecord json
  let ipv6 ← (record.child? "ip_v6").mapM fun ⟨json, _⟩ => Ip.ofRecord json
  pure {
    interfaceType := record.tokenField "interface_type"
    io
    ipv4
    ipv6
    mac := record.textField "mac"
  }
  termination_by sizeOf record

def Ip.ofRecord (record : Json) : Except DecodeError Ip := do
  let owner ← record.recordField Owner.ofRecord "owner"
  let server ← (record.child? "server").mapM fun ⟨json, _⟩ => Server.ofRecord json
  pure {
    uuid := record.textField "uuid"
    resourceUri := record.textField "resource_uri"
    owner
    server
  }
  termination_by sizeOf record

end

/-! ## JSON -/

def Instant.toJson (t : Instant) : Json :=
  .string t.utcText

def IoStats.toJson (x : IoStats) : Json :=
  .ofFields [
    ("bytes_recv", x.bytesReceived.map Magnitude.toJson),
    ("bytes_sent", x.bytesSent.map Magnitude.toJson),
    ("packets_recv", x.packetsReceived.map Magnitude.toJson),
    ("packets_sent", x.packetsSent.map Magnitude.toJson)]

mutual

def Server.fields : Server → List (String × Option Json)
  | ⟨uuid, resourceUri, owner, name, status, runtime⟩ => [
    ("uuid", Member.text uuid),
    ("resource_uri", Member.text resourceUri),
    ("owner", owner.map Owner.toJson),
    ("name", Member.text name),
    ("status", status.map Token.toJson),
    ("runtime", match runtime with
      | some runtime => some (.ofFields runtime.fields)
      | none => none)]

def ServerRuntime.fields : ServerRuntime → List (String × Option Json)
  | ⟨activeSince, nics, status⟩ => [
    ("active_since", activeSince.map Instant.toJson),
    ("nics", match nics with
      | [] => none
      | nic :: nics => some (.array (.ofFields nic.fields :: NicStats.listJson nics))),
    ("status", status.map Token.toJson)]

def NicStats.listJson : List NicStats → List Json
  | [] => []
  | nic :: nics => .ofFields nic.fields :: NicStats.listJson nics

def NicStats.fields : NicStats → List (String × Option Json)
  | ⟨interfaceType, io, ipv4, ipv6, mac⟩ => [
    ("interface_type", interfaceType.map Token.toJson),
    ("io", io.map IoStats.toJson),
    ("ip_v4", match ipv4 with
      | some ip => some (.ofFields ip.fields)
      | none => none),
    ("ip_v6", match ipv6 with
      | some ip => some (.ofFields ip.fields)
      | none => none),
    ("mac", Member.text mac)]

def Ip.fields : Ip → List (String × Option Json)
  | ⟨uuid, resourceUri, owner, server⟩ => [
    ("uuid", Member.text uuid),
    ("resource_uri", Member.text resourceUri),
    ("owner", owner.map Owner.toJson),
    ("server", match server with
      | some server => some (.ofFields server.fields)
      | none => none)]

end

instance : Resource IoStats where
  kind := .ioStats
  ofRecord := IoStats.ofRecord
  toJson := IoStats.toJson

instance : Resource Server where
  kind := .server
  ofRecord := Server.ofRecord
  toJson x := .ofFields x.fields

instance : Resource ServerRuntime where
  kind := .serverRuntime
  ofRecord := ServerRuntime.ofRecord
  toJson x := .ofFields x.fields

instance : Resource NicStats where
  kind := .nicStats
  ofRecord := NicStats.ofRecord
  toJson x := .ofFields x.fields

instance : Resource Ip where
  kind := .ip
  ofRecord := Ip.ofRecord
  toJson x := .ofFields x.fields

end CloudInventory
