import CacheTier.Digest.Placement
import CacheTier.Registry.Event
import CacheTier.Registry.Feed
import CacheTier.Registry.Record
import CacheTier.Ring
import CacheTier.Table

/-!
# The node registry

The authority on the membership of the fleet.  Nodes send pulses with their
capacity; the first pulse of a node places it on the ring with a weight relative
to the first capacity that a node was to join with.  Nodes leave when they are removed or
have been idle for too long.  Snapshots carry a checksum of the member list, so that
a caller that knows the current one is told so instead of getting the list.
-/

namespace CacheTier

/-- What a registry is built from. -/
structure RegistryConfig where
  livenessTimeout : Span := .ofSeconds 30
  sweepInterval : Span := .ofSeconds 5
  /-- Added to every node's relative capacity. -/
  priorityAdjust : Float := 0
  /-- How many events a subscriber may fall behind. -/
  eventCapacity : Nat := 1024
  ring : RingConfig := {}
  deriving Repr, Inhabited

/-- The running totals of a registry. -/
structure RegistryCounters where
  pulses : UInt64 := 0
  joins : UInt64 := 0
  updates : UInt64 := 0
  stalePulses : UInt64 := 0
  expirations : UInt64 := 0
  removals : UInt64 := 0
  deriving DecidableEq, Repr, Inhabited

/-- A registry's counters together with its size at one moment. -/
structure RegistryStats where
  nodeCount : UInt64
  virtualNodes : UInt64
  counters : RegistryCounters
  deriving DecidableEq, Repr, Inhabited

namespace Digest

/-- The position of a text on the fleet's ring. -/
def ofText : RingHash := fun s => position s.toUTF8.toList

end Digest

/-- The ring that the fleet uses. -/
abbrev FleetRing := Ring Digest.ofText

/-- Members with their records, the ring they are placed on, the checksum of
their identifiers, and the capacity that weights are relative to. -/
structure Registry where
  config : RegistryConfig
  ring : FleetRing
  nodes : Table NodeId NodeRecord
  checksum : String
  /-- The first capacity other than zero that a node was to join with. -/
  anchor : Option UInt64
  counters : RegistryCounters
  feed : Feed RegistryEvent

namespace Registry

/-- The registry without members. -/
def create (config : RegistryConfig) : Registry where
  config := config
  ring := .ofConfig Digest.ofText config.ring
  nodes := .empty
  checksum := Digest.checksum []
  anchor := none
  counters := {}
  feed := .ofCapacity config.eventCapacity

/-- The members' identifiers in ascending order. -/
def nodeIds (registry : Registry) : List NodeId := registry.nodes.keys

def size (registry : Registry) : Nat := registry.nodes.size

def isEmpty (registry : Registry) : Bool := registry.nodes.isEmpty

def contains (registry : Registry) (id : NodeId) : Bool := registry.nodes.contains id

/-- The record of a member. -/
def get? (registry : Registry) (id : NodeId) : Option NodeRecord := registry.nodes.get? id

/-- The member that serves a key. -/
def locate? (registry : Registry) (key : String) : Option NodeId := registry.ring.route? key

/-- Computes the checksum of the present members. -/
def withChecksum (registry : Registry) : Registry :=
  { registry with checksum := Digest.checksum registry.nodeIds }

/-- Publishes events to the subscribers. -/
def publish (registry : Registry) (events : List RegistryEvent) : Registry :=
  { registry with feed := registry.feed.sendAll events }

/-- The capacity that weights are relative to once a node is to join with a capacity. -/
def anchorWith (registry : Registry) (totalBytes : UInt64) : Option UInt64 :=
  match registry.anchor with
  | some a => some a
  | none => if totalBytes > 0 then some totalBytes else none

/-- The weight of a node with a capacity, relative to an anchor. -/
def weightOf {α : Type} [Weighing α] (anchor : Option UInt64) (totalBytes : UInt64)
    (adjust : α) : α :=
  match anchor with
  | some a => Weighing.ofWord totalBytes / Weighing.ofWord a + adjust
  | none => adjust

/-- The weight that a node joins with. -/
def joinWeight (registry : Registry) (report : CapacityReport) : Float :=
  weightOf (registry.anchorWith report.totalBytes) report.totalBytes
    registry.config.priorityAdjust

/-- The registry once a weight has been found for a new node. -/
def anchored (registry : Registry) (report : CapacityReport) : Registry :=
  { registry with anchor := registry.anchorWith report.totalBytes }

/-- Whether the positions of a new node cannot be listed, so that its join ends in a panic. -/
def joinPanics (registry : Registry) (id : NodeId) (report : CapacityReport) : Bool :=
  registry.ring.addPanics id (registry.joinWeight report)

/-- Takes a new node in. -/
def join (registry : Registry) (id : NodeId) (report : CapacityReport) : Registry :=
  let weight := registry.joinWeight report
  let registry := registry.anchored report
  let counters := { registry.counters with joins := registry.counters.joins + 1 }
  let registry := { registry with
    counters
    ring := (registry.ring.add id weight).1
    nodes := registry.nodes.insert id (.ofReport id report weight) }
  registry.withChecksum.publish [.joined id weight]

/-- Renews the capacity of a known node. -/
def renew (registry : Registry) (record : NodeRecord) (id : NodeId)
    (report : CapacityReport) : Registry :=
  let counters := { registry.counters with updates := registry.counters.updates + 1 }
  let nodes := registry.nodes.insert id (record.apply report)
  { registry with counters, nodes }.publish [.updated id]

/-- Drops a pulse that is older than the record. -/
def ignoreStale (registry : Registry) (record : NodeRecord) (id : NodeId)
    (report : CapacityReport) : Registry :=
  let counters := { registry.counters with stalePulses := registry.counters.stalePulses + 1 }
  { registry with counters }.publish
    [.staleIgnored id report.reportedAt record.lastUpdate]

/-- The registry with one more pulse counted. -/
def countPulse (registry : Registry) : Registry :=
  { registry with
    counters := { registry.counters with pulses := registry.counters.pulses + 1 } }

/-- Takes a pulse in: an unknown node joins, a known one renews its capacity, and a
pulse older than the record is ignored.  A join whose positions cannot be listed panics
after the pulse has been counted and the anchor set; nothing else has been done then. -/
def pulse (registry : Registry) (id : NodeId) (report : CapacityReport) :
    Registry × PulseEnding :=
  if id.isEmpty then
    (registry, .error (.refused (.invalidArgument "node id must not be empty")))
  else
    let registry := registry.countPulse
    match registry.get? id with
    | none =>
      if registry.joinPanics id report then (registry.anchored report, .error .panicked)
      else (registry.join id report, .ok (.joined (registry.joinWeight report)))
    | some record =>
      if report.reportedAt < record.lastUpdate then
        (registry.ignoreStale record id report, .ok .stale)
      else (registry.renew record id report, .ok .updated)

/-- The largest number of milliseconds that an idle time is compared with. -/
def timeoutLimit : Int := Int64.maxValue.toInt

/-- Whether a node has been idle for more whole milliseconds than a timeout has. -/
def isExpired (record : NodeRecord) (now : Instant) (timeout : Span) : Bool :=
  record.idleMillis now > min (timeout.millis : Int) timeoutLimit

/-- The members that a sweep would expire, in ascending order. -/
def expiredAt (registry : Registry) (now : Instant) (timeout : Span) : List NodeRecord :=
  registry.nodes.values.filter fun record => isExpired record now timeout

/-- Takes a member off the ring and out of the table. -/
def drop (registry : Registry) (id : NodeId) : Registry :=
  { registry with
    ring := (registry.ring.remove id).1
    nodes := registry.nodes.erase id }

/-- Expires the members that have been idle for longer than a timeout, and gives
their identifiers in ascending order. -/
def sweep (registry : Registry) (now : Instant) (timeout : Span) :
    Registry × List NodeId :=
  match registry.expiredAt now timeout with
  | [] => (registry, [])
  | expired =>
    let ids := expired.map NodeRecord.id
    let events := expired.map fun record =>
      RegistryEvent.expired record.id (Int64.ofInt (record.idleSeconds now))
    let registry := (ids.foldl drop registry).withChecksum
    let counters := { registry.counters with
      expirations := registry.counters.expirations + UInt64.ofNat ids.length }
    ({ registry with counters }.publish events, ids)

/-- Removes a member; false if there is none with the identifier. -/
def remove (registry : Registry) (id : NodeId) : Registry × Bool :=
  if registry.contains id then
    let registry := (registry.drop id).withChecksum
    let counters := { registry.counters with removals := registry.counters.removals + 1 }
    ({ registry with counters }.publish [.removed id], true)
  else (registry, false)

/-- Answers a snapshot request of a caller that knows a checksum or none. -/
def snapshot (registry : Registry) (known : Option String) : SnapshotReply :=
  if known == some registry.checksum then .unchanged registry.checksum
  else .full ⟨registry.checksum, registry.nodes.values⟩

/-- The counters and the size of the registry. -/
def stats (registry : Registry) : RegistryStats where
  nodeCount := UInt64.ofNat registry.size
  virtualNodes := UInt64.ofNat registry.ring.entryCount
  counters := registry.counters

/-- The registry as a line of text. -/
def summary (registry : Registry) : String :=
  "NodeRegistry \x7b nodes: " ++ toString registry.size ++
    ", checksum: \"" ++ registry.checksum ++ "\" \x7d"

end Registry
end CacheTier
