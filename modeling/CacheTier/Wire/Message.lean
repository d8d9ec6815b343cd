import CacheTier.Cache.PolicyKind
import CacheTier.Wire.Registry

/-!
# Requests and responses on the wire

The bodies that the services of the fleet exchange beside the registry's own
records.
-/

namespace CacheTier

open Json

/-- A pulse of a cache node. -/
structure PulseRequest where
  nodeId : NodeId
  report : CapacityReport
  deriving DecidableEq, Repr, Inhabited

namespace PulseRequest

def toDoc (r : PulseRequest) : Doc := .object [
  ("node_id", r.nodeId.toDoc), ("report", r.report.toDoc)]

/-- A request whose fields are read one by one. -/
structure Parts where
  nodeId : Option NodeId := none
  report : Option CapacityReport := none

/-- The fields of a pulse. -/
def wireFields : List (RecordField Parts) := [
  .of "node_id" Parts.nodeId (fun p x => { p with nodeId := some x }) NodeId.fromValue,
  .of "report" Parts.report (fun p x => { p with report := some x }) CapacityReport.fromValue]

def fromValue (v : Value) : Reading PulseRequest := do
  let p ← v.readRecord wireFields {}
  return { nodeId := ← required p.nodeId, report := ← required p.report }

end PulseRequest

/-- The question for a snapshot, with the checksum the caller has. -/
structure SnapshotQuery where
  checksum : Option String
  deriving DecidableEq, Repr, Inhabited

namespace SnapshotQuery

def toDoc (q : SnapshotQuery) : Doc := .object [("checksum", .ofOption .text q.checksum)]

def fromValue (v : Value) : Reading SnapshotQuery := do
  let field : RecordField (Option (Option String)) :=
    { RecordField.of "checksum" id (fun _ x => some x) (Value.readOption Value.readText) with
      droppable := true }
  let found ← v.readRecord [field] none
  return ⟨found.getD none⟩

end SnapshotQuery

/-- The registry endpoints that an authority knows. -/
structure PeersResponse where
  endpoints : List String
  deriving DecidableEq, Repr, Inhabited

namespace PeersResponse

def toDoc (r : PeersResponse) : Doc := .object [("endpoints", .texts r.endpoints)]

def fromValue (v : Value) : Reading PeersResponse :=
  PeersResponse.mk <$> v.readOnly "endpoints" (Value.readList Value.readText)

end PeersResponse

/-- The place of one key. -/
structure LocateResponse where
  key : String
  nodeId : NodeId
  checksum : String
  deriving DecidableEq, Repr, Inhabited

namespace LocateResponse

def toDoc (r : LocateResponse) : Doc := .object [
  ("key", .text r.key), ("node_id", r.nodeId.toDoc), ("checksum", .text r.checksum)]

/-- A response whose fields are read one by one. -/
structure Parts where
  key : Option String := none
  nodeId : Option NodeId := none
  checksum : Option String := none

/-- The fields of a key's place. -/
def wireFields : List (RecordField Parts) := [
  .of "key" Parts.key (fun p x => { p with key := some x }) Value.readText,
  .of "node_id" Parts.nodeId (fun p x => { p with nodeId := some x }) NodeId.fromValue,
  .of "checksum" Parts.checksum (fun p x => { p with checksum := some x }) Value.readText]

def fromValue (v : Value) : Reading LocateResponse := do
  let p ← v.readRecord wireFields {}
  return {
    key := ← required p.key
    nodeId := ← required p.nodeId
    checksum := ← required p.checksum }

end LocateResponse

/-- The answer to a health check. -/
structure HealthResponse where
  status : String
  version : String
  deriving DecidableEq, Repr, Inhabited

namespace HealthResponse

def toDoc (r : HealthResponse) : Doc := .object [
  ("status", .text r.status), ("version", .text r.version)]

/-- A response whose fields are read one by one. -/
structure Parts where
  status : Option String := none
  version : Option String := none

/-- The fields of a health check's answer. -/
def wireFields : List (RecordField Parts) := [
  .of "status" Parts.status (fun p x => { p with status := some x }) Value.readText,
  .of "version" Parts.version (fun p x => { p with version := some x }) Value.readText]

def fromValue (v : Value) : Reading HealthResponse := do
  let p ← v.readRecord wireFields {}
  return { status := ← required p.status, version := ← required p.version }

end HealthResponse

/-- The body of a failed request. -/
structure ErrorResponse where
  error : String
  message : String
  requestId : Option String
  deriving DecidableEq, Repr, Inhabited

namespace ErrorResponse

/-- The document of a failure; an absent request id is left out. -/
def toDoc (r : ErrorResponse) : Doc := .object <|
  [("error", .text r.error), ("message", .text r.message)] ++
    match r.requestId with
    | some id => [("request_id", .text id)]
    | none => []

/-- A response whose fields are read one by one. -/
structure Parts where
  error : Option String := none
  message : Option String := none
  requestId : Option (Option String) := none

/-- The fields of a failure's body. -/
def wireFields : List (RecordField Parts) := [
  .of "error" Parts.error (fun p x => { p with error := some x }) Value.readText,
  .of "message" Parts.message (fun p x => { p with message := some x }) Value.readText,
  .of "request_id" Parts.requestId (fun p x => { p with requestId := some x })
    (Value.readOption Value.readText)]

def fromValue (v : Value) : Reading ErrorResponse := do
  let p ← v.readRecord wireFields {}
  return {
    error := ← required p.error
    message := ← required p.message
    requestId := p.requestId.getD none }

end ErrorResponse

namespace PolicyKind

def toDoc (kind : PolicyKind) : Doc := .text kind.name

/-- Reads a kind from its exact name, alone or as the one key of an object. -/
def fromValue : Value → Reading PolicyKind
  | .text (some name) =>
    if name == "lru" then .ok .lru
    else if name == "lfu" then .ok .lfu
    else .error .mismatch
  | v =>
    let named (kind : PolicyKind) : Value → Reading PolicyKind
      | .null => .ok kind
      | v => v.misfit
    v.readVariant [("lru", named .lru), ("lfu", named .lfu)]

end PolicyKind

/-- The kinds of messages. -/
inductive MessageKind where
  | capacityReport
  | nodeRecord
  | nodeId
  | policyKind
  | snapshot
  | snapshotReply
  | pulseOutcome
  | registryEvent
  | pulseRequest
  | snapshotQuery
  | peersResponse
  | locateResponse
  | healthResponse
  | errorResponse
  deriving DecidableEq, Repr, Inhabited

/-- The messages that can be read from text and written again. -/
inductive Message where
  | capacityReport (m : CapacityReport)
  | nodeRecord (m : NodeRecord)
  | nodeId (m : NodeId)
  | policyKind (m : PolicyKind)
  | snapshot (m : Snapshot)
  | snapshotReply (m : SnapshotReply)
  | pulseOutcome (m : PulseOutcome)
  | registryEvent (m : RegistryEvent)
  | pulseRequest (m : PulseRequest)
  | snapshotQuery (m : SnapshotQuery)
  | peersResponse (m : PeersResponse)
  | locateResponse (m : LocateResponse)
  | healthResponse (m : HealthResponse)
  | errorResponse (m : ErrorResponse)

namespace Message

/-- Reads a message of a kind. -/
def read (v : Value) : MessageKind → Reading Message
  | .capacityReport => capacityReport <$> CapacityReport.fromValue v
  | .nodeRecord => nodeRecord <$> NodeRecord.fromValue v
  | .nodeId => nodeId <$> NodeId.fromValue v
  | .policyKind => policyKind <$> PolicyKind.fromValue v
  | .snapshot => snapshot <$> Snapshot.fromValue v
  | .snapshotReply => snapshotReply <$> SnapshotReply.fromValue v
  | .pulseOutcome => pulseOutcome <$> PulseOutcome.fromValue v
  | .registryEvent => registryEvent <$> RegistryEvent.fromValue v
  | .pulseRequest => pulseRequest <$> PulseRequest.fromValue v
  | .snapshotQuery => snapshotQuery <$> SnapshotQuery.fromValue v
  | .peersResponse => peersResponse <$> PeersResponse.fromValue v
  | .locateResponse => locateResponse <$> LocateResponse.fromValue v
  | .healthResponse => healthResponse <$> HealthResponse.fromValue v
  | .errorResponse => errorResponse <$> ErrorResponse.fromValue v

def toDoc : Message → Doc
  | capacityReport m => m.toDoc
  | nodeRecord m => m.toDoc
  | nodeId m => m.toDoc
  | policyKind m => m.toDoc
  | snapshot m => m.toDoc
  | snapshotReply m => m.toDoc
  | pulseOutcome m => m.toDoc
  | registryEvent m => m.toDoc
  | pulseRequest m => m.toDoc
  | snapshotQuery m => m.toDoc
  | peersResponse m => m.toDoc
  | locateResponse m => m.toDoc
  | healthResponse m => m.toDoc
  | errorResponse m => m.toDoc

end Message
end CacheTier
