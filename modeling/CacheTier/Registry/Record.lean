import CacheTier.FleetError
import CacheTier.NodeId
import CacheTier.Time.Instant

/-!
# Records of cache nodes

What a node reports about itself in a pulse, what the registry keeps of it, and
what the registry answers to pulses and to snapshot requests.
-/

namespace CacheTier

/-- The capacity carried by a pulse. -/
structure CapacityReport where
  totalBytes : UInt64
  usedBytes : UInt64
  fileCount : UInt64
  /-- The sender's clock when the report was taken. -/
  reportedAt : Instant
  deriving DecidableEq, Repr, Inhabited

/-- What the registry knows about a node. -/
structure NodeRecord where
  id : NodeId
  totalBytes : UInt64
  usedBytes : UInt64
  fileCount : UInt64
  lastUpdate : Instant
  /-- The ring weight, fixed when the node joined. -/
  priority : Float
  deriving Repr, Inhabited

namespace NodeRecord

/-- The record of a node that joins with a report. -/
def ofReport (id : NodeId) (report : CapacityReport) (priority : Float) : NodeRecord :=
  ⟨id, report.totalBytes, report.usedBytes, report.fileCount, report.reportedAt, priority⟩

/-- The record after a later report; identifier and priority stay. -/
def apply (record : NodeRecord) (report : CapacityReport) : NodeRecord :=
  ofReport record.id report record.priority

/-- The nanoseconds since the last accepted pulse. -/
def idle (record : NodeRecord) (now : Instant) : Int := now.since record.lastUpdate

/-- Whole milliseconds since the last accepted pulse, toward zero. -/
def idleMillis (record : NodeRecord) (now : Instant) : Int :=
  Int.tdiv (record.idle now) 1000000

/-- Whole seconds since the last accepted pulse, toward zero. -/
def idleSeconds (record : NodeRecord) (now : Instant) : Int :=
  Int.tdiv (record.idle now) 1000000000

end NodeRecord

/-- A list of nodes with the checksum of their identifiers. -/
structure Snapshot where
  checksum : String
  nodes : List NodeRecord
  deriving Repr, Inhabited

/-- The answer to a snapshot request. -/
inductive SnapshotReply where
  /-- The caller's checksum is current. -/
  | unchanged (checksum : String)
  /-- The membership differs; this is all of it. -/
  | full (snapshot : Snapshot)
  deriving Repr, Inhabited

namespace SnapshotReply

/-- The checksum that a reply names. -/
def checksum : SnapshotReply → String
  | unchanged c => c
  | full s => s.checksum

def isUnchanged : SnapshotReply → Bool
  | unchanged _ => true
  | full _ => false

end SnapshotReply

/-- What a pulse did. -/
inductive PulseOutcome where
  /-- The node joined the ring with a weight. -/
  | joined (weight : Float)
  /-- The capacity of a known node was renewed. -/
  | updated
  /-- The pulse was older than the record and was ignored. -/
  | stale
  deriving Repr, Inhabited

/-- Why a pulse came to nothing. -/
inductive PulseFailure where
  /-- The pulse was refused. -/
  | refused (cause : FleetError)
  /-- A node was to join with more positions than can be listed, and the program
  panicked. -/
  | panicked
  deriving DecidableEq, Repr, Inhabited

/-- How a pulse ends. -/
abbrev PulseEnding := Except PulseFailure PulseOutcome

end CacheTier
