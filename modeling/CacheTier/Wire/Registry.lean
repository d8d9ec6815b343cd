import CacheTier.Registry.Event
import CacheTier.Registry.Record
import CacheTier.Wire.Instant

/-!
# The registry's records on the wire

Each type has its document, with the fields in a fixed order, and a reader that
takes the fields in any order.
-/

namespace CacheTier

open Json

namespace CapacityReport

def toDoc (r : CapacityReport) : Doc := .object [
  ("total_bytes", .word r.totalBytes),
  ("used_bytes", .word r.usedBytes),
  ("file_count", .word r.fileCount),
  ("reported_at", r.reportedAt.toDoc)]

/-- A report whose fields are read one by one. -/
structure Parts where
  totalBytes : Option UInt64 := none
  usedBytes : Option UInt64 := none
  fileCount : Option UInt64 := none
  reportedAt : Option Instant := none

/-- The fields of a report. -/
def wireFields : List (RecordField Parts) := [
  .of "total_bytes" Parts.totalBytes (fun p x => { p with totalBytes := some x }) Value.readWord,
  .of "used_bytes" Parts.usedBytes (fun p x => { p with usedBytes := some x }) Value.readWord,
  .of "file_count" Parts.fileCount (fun p x => { p with fileCount := some x }) Value.readWord,
  .of "reported_at" Parts.reportedAt (fun p x => { p with reportedAt := some x })
    Instant.fromValue]

def fromValue (v : Value) : Reading CapacityReport := do
  let p ← v.readRecord wireFields {}
  return {
    totalBytes := ← required p.totalBytes
    usedBytes := ← required p.usedBytes
    fileCount := ← required p.fileCount
    reportedAt := ← required p.reportedAt }

end CapacityReport

namespace NodeRecord

def toDoc (r : NodeRecord) : Doc := .object [
  ("node_id", r.id.toDoc),
  ("total_bytes", .word r.totalBytes),
  ("used_bytes", .word r.usedBytes),
  ("file_count", .word r.fileCount),
  ("last_update", r.lastUpdate.toDoc),
  ("priority", .float r.priority)]

/-- A record whose fields are read one by one. -/
structure Parts where
  id : Option NodeId := none
  totalBytes : Option UInt64 := none
  usedBytes : Option UInt64 := none
  fileCount : Option UInt64 := none
  lastUpdate : Option Instant := none
  priority : Option Float := none

/-- The fields of a node's record. -/
def wireFields : List (RecordField Parts) := [
  .of "node_id" Parts.id (fun p x => { p with id := some x }) NodeId.fromValue,
  .of "total_bytes" Parts.totalBytes (fun p x => { p with totalBytes := some x }) Value.readWord,
  .of "used_bytes" Parts.usedBytes (fun p x => { p with usedBytes := some x }) Value.readWord,
  .of "file_count" Parts.fileCount (fun p x => { p with fileCount := some x }) Value.readWord,
  .of "last_update" Parts.lastUpdate (fun p x => { p with lastUpdate := some x })
    Instant.fromValue,
  .of "priority" Parts.priority (fun p x => { p with priority := some x }) Value.readFloat]

def fromValue (v : Value) : Reading NodeRecord := do
  let p ← v.readRecord wireFields {}
  return {
    id := ← required p.id
    totalBytes := ← required p.totalBytes
    usedBytes := ← required p.usedBytes
    fileCount := ← required p.fileCount
    lastUpdate := ← required p.lastUpdate
    priority := ← required p.priority }

end NodeRecord

namespace Snapshot

/-- The fields of a snapshot's document. -/
def docFields (s : Snapshot) : List (String × Doc) := [
  ("checksum", .text s.checksum),
  ("nodes", .array (s.nodes.map NodeRecord.toDoc))]

def toDoc (s : Snapshot) : Doc := .object s.docFields

/-- A snapshot whose fields are read one by one. -/
structure Parts where
  checksum : Option String := none
  nodes : Option (List NodeRecord) := none

/-- The fields of a snapshot. -/
def wireFields : List (RecordField Parts) := [
  .of "checksum" Parts.checksum (fun p x => { p with checksum := some x }) Value.readText,
  .of "nodes" Parts.nodes (fun p x => { p with nodes := some x })
    (Value.readList NodeRecord.fromValue)]

def fromValue (v : Value) : Reading Snapshot := do
  let p ← v.readRecord wireFields {}
  return { checksum := ← required p.checksum, nodes := ← required p.nodes }

end Snapshot

/-- The one field of a record that has a single field. -/
def Json.Value.readOnly {α : Type} (name : String) (read : Value → Reading α)
    (v : Value) : Reading α := do
  let found ← v.readRecord [RecordField.of name id (fun _ x => some x) read] none
  required found

namespace SnapshotReply

/-- The document of a reply; its field `status` tells which reply it is. -/
def toDoc : SnapshotReply → Doc
  | unchanged checksum => .object [("status", .text "unchanged"), ("checksum", .text checksum)]
  | full snapshot => .object (("status", .text "full") :: snapshot.docFields)

def fromValue : Value → Reading SnapshotReply :=
  Value.readTagged "status" [
    ("unchanged", fun v => unchanged <$> v.readOnly "checksum" Value.readText),
    ("full", fun v => full <$> Snapshot.fromValue v)]

end SnapshotReply

namespace PulseOutcome

/-- The document of an outcome; its field `outcome` tells which outcome it is. -/
def toDoc : PulseOutcome → Doc
  | joined weight => .object [("outcome", .text "joined"), ("weight", .float weight)]
  | updated => .object [("outcome", .text "updated")]
  | stale => .object [("outcome", .text "stale")]

def fromValue : Value → Reading PulseOutcome :=
  Value.readTagged "outcome" [
    ("joined", fun v => joined <$> v.readOnly "weight" Value.readFloat),
    ("updated", Value.readUnit updated),
    ("stale", Value.readUnit stale)]

end PulseOutcome

namespace RegistryEvent

/-- The document of an event: one field, named for the kind of event. -/
def toDoc : RegistryEvent → Doc
  | joined id weight => .object [("NodeJoined",
      .object [("node_id", id.toDoc), ("weight", .float weight)])]
  | updated id => .object [("NodeUpdated", .object [("node_id", id.toDoc)])]
  | expired id idleSeconds => .object [("NodeExpired",
      .object [("node_id", id.toDoc), ("idle_seconds", .int idleSeconds.toInt)])]
  | removed id => .object [("NodeRemoved", .object [("node_id", id.toDoc)])]
  | staleIgnored id reportedAt lastUpdate => .object [("StalePulseIgnored",
      .object [("node_id", id.toDoc), ("reported_at", reportedAt.toDoc),
        ("last_update", lastUpdate.toDoc)])]

/-- The parts of an event that are read one by one. -/
structure Parts where
  id : Option NodeId := none
  weight : Option Float := none
  idleSeconds : Option Int64 := none
  reportedAt : Option Instant := none
  lastUpdate : Option Instant := none

/-- The fields that events can have. -/
def idField : RecordField Parts :=
  .of "node_id" Parts.id (fun p x => { p with id := some x }) NodeId.fromValue

def weightField : RecordField Parts :=
  .of "weight" Parts.weight (fun p x => { p with weight := some x }) Value.readFloat

def idleField : RecordField Parts :=
  .of "idle_seconds" Parts.idleSeconds (fun p x => { p with idleSeconds := some x })
    Value.readInt

def reportedField : RecordField Parts :=
  .of "reported_at" Parts.reportedAt (fun p x => { p with reportedAt := some x })
    Instant.fromValue

def updatedField : RecordField Parts :=
  .of "last_update" Parts.lastUpdate (fun p x => { p with lastUpdate := some x })
    Instant.fromValue

def fromValue : Value → Reading RegistryEvent :=
  Value.readVariant [
    ("NodeJoined", fun v => do
      let p ← v.readRecord [idField, weightField] {}
      return joined (← required p.id) (← required p.weight)),
    ("NodeUpdated", fun v => updated <$> v.readOnly "node_id" NodeId.fromValue),
    ("NodeExpired", fun v => do
      let p ← v.readRecord [idField, idleField] {}
      return expired (← required p.id) (← required p.idleSeconds)),
    ("NodeRemoved", fun v => removed <$> v.readOnly "node_id" NodeId.fromValue),
    ("StalePulseIgnored", fun v => do
      let p ← v.readRecord [idField, reportedField, updatedField] {}
      return staleIgnored (← required p.id) (← required p.reportedAt)
        (← required p.lastUpdate))]

end RegistryEvent
end CacheTier
