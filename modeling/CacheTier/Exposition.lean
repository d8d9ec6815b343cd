import CacheTier.Cache.Counters
import CacheTier.Decimal.Shortest
import CacheTier.Prober
import CacheTier.Registry

/-!
# Metrics in the text exposition format

Gauges show the last value observed, as signed words.  Counters show the largest
total observed for their label and never go back.  Families are written in the
order of their names, and the samples of a family in the order of their labels.
-/

namespace CacheTier

/-- Everything that has been observed: the levels and totals of each series. -/
structure Exposition where
  /-- Bytes of the store by kind. -/
  storeBytes : Table String Int64 := .empty
  storeEvictedBytes : UInt64 := 0
  storeEntries : Int64 := 0
  storeOperations : Table String UInt64 := .empty
  storeHitRatio : Float := 0
  registryNodes : Int64 := 0
  registryVirtualNodes : Int64 := 0
  registryEvents : Table String UInt64 := .empty
  /-- Endpoints of the prober by state. -/
  proberEndpoints : Table String Int64 := .empty
  proberEvents : Table String UInt64 := .empty
  deriving Repr, Inhabited

namespace Exposition

/-- Nothing observed yet. -/
def empty : Exposition := {}

/-- A word as the signed word with the same bits. -/
def signed (n : UInt64) : Int64 := n.toInt64

/-- Moves a counter up to a total; a smaller total leaves it. -/
def raised (counter total : UInt64) : UInt64 :=
  if counter < total then total else counter

/-- Moves the counter of a label up to a total. -/
def advanceLabel (counters : Table String UInt64) (label : String) (total : UInt64) :
    Table String UInt64 :=
  counters.insert label (raised ((counters.get? label).getD 0) total)

/-- Moves the counters of several labels. -/
def advanceAll (counters : Table String UInt64) (totals : List (String × UInt64)) :
    Table String UInt64 :=
  totals.foldl (fun counters total => advanceLabel counters total.1 total.2) counters

/-- The totals of a store by operation. -/
def storeTotals (c : StoreCounters) : List (String × UInt64) := [
  ("hit", c.hits), ("miss", c.misses), ("put", c.puts), ("eviction", c.evictions),
  ("over_capacity", c.overCapacity)]

/-- The totals of a registry by event. -/
def registryTotals (c : RegistryCounters) : List (String × UInt64) := [
  ("pulse", c.pulses), ("join", c.joins), ("update", c.updates),
  ("stale_pulse", c.stalePulses), ("expiration", c.expirations), ("removal", c.removals)]

/-- The totals of a prober by event. -/
def proberTotals (s : ProberStats) : List (String × UInt64) := [
  ("cycle", s.cycles), ("all_failed", s.allFailed), ("failure_reported", s.failuresReported)]

def withStore (m : Exposition) (s : StoreStats) : Exposition :=
  { m with
    storeBytes := (m.storeBytes.insert "size" (signed s.sizeBytes)).insert "capacity"
      (signed s.capacityBytes)
    storeEntries := signed s.entryCount
    storeHitRatio := s.hitRatio
    storeEvictedBytes := raised m.storeEvictedBytes s.counters.bytesEvicted
    storeOperations := advanceAll m.storeOperations (storeTotals s.counters) }

def withRegistry (m : Exposition) (s : RegistryStats) : Exposition :=
  { m with
    registryNodes := signed s.nodeCount
    registryVirtualNodes := signed s.virtualNodes
    registryEvents := advanceAll m.registryEvents (registryTotals s.counters) }

def withProber (m : Exposition) (s : ProberStats) : Exposition :=
  { m with
    proberEndpoints := (m.proberEndpoints.insert "active" (signed s.activeEndpoints)).insert
      "known" (signed s.knownEndpoints)
    proberEvents := advanceAll m.proberEvents (proberTotals s) }

/-- The two kinds of series. -/
inductive Kind where
  | counter
  | gauge
  deriving DecidableEq, Repr

/-- The name of a kind in the text. -/
def Kind.name : Kind → String
  | counter => "counter"
  | gauge => "gauge"

/-- The samples of one name: a label's value, or none, with the sample's value. -/
structure Family where
  name : String
  help : String
  kind : Kind
  label : String
  samples : List (Option String × Float)

/-- The families of what has been observed, in the order of their names. -/
def families (m : Exposition) : List Family :=
  let levels (t : Table String Int64) := t.entries.map fun (k, v) => (some k, v.toFloat)
  let totals (t : Table String UInt64) := t.entries.map fun (k, v) => (some k, v.toFloat)
  let alone (x : Float) : List (Option String × Float) := [(none, x)]
  [ ⟨"prober_endpoints", "Endpoints known to the prober by state", .gauge, "state",
      levels m.proberEndpoints⟩,
    ⟨"prober_events_total", "Prober activity since start", .counter, "event",
      totals m.proberEvents⟩,
    ⟨"registry_events_total", "Registry membership events since start", .counter, "event",
      totals m.registryEvents⟩,
    ⟨"registry_nodes", "Live cache nodes on the ring", .gauge, "",
      alone m.registryNodes.toFloat⟩,
    ⟨"registry_virtual_nodes", "Virtual nodes on the ring", .gauge, "",
      alone m.registryVirtualNodes.toFloat⟩,
    ⟨"store_bytes", "Block store bytes by kind (size, capacity)", .gauge, "kind",
      levels m.storeBytes⟩,
    ⟨"store_entries", "Blocks held by the store", .gauge, "",
      alone m.storeEntries.toFloat⟩,
    ⟨"store_evicted_bytes_total", "Bytes evicted from the block store", .counter, "",
      alone m.storeEvictedBytes.toFloat⟩,
    ⟨"store_hit_ratio", "Block store hit ratio", .gauge, "", alone m.storeHitRatio⟩,
    ⟨"store_operations_total", "Block store operations since start", .counter, "op",
      totals m.storeOperations⟩ ]

/-- What every name begins with. -/
def namespaceName : String := "cache_fleet_"

/-- The line of a sample. -/
def sampleLine (name label : String) (sample : Option String × Float) : String :=
  let labels := match sample.1 with
    | some value => "\x7b" ++ label ++ "=\"" ++ value ++ "\"\x7d"
    | none => ""
  name ++ labels ++ " " ++ Decimal.plainText sample.2

/-- The lines of a family; a family without samples is left out. -/
def Family.lines (f : Family) : List String :=
  if f.samples.isEmpty then []
  else
    let name := namespaceName ++ f.name
    ("# HELP " ++ name ++ " " ++ f.help) :: ("# TYPE " ++ name ++ " " ++ f.kind.name) ::
      f.samples.map (sampleLine name f.label)

/-- The lines of the whole text. -/
def lines (m : Exposition) : List String := m.families.flatMap Family.lines

/-- The text of everything observed, each line ended by a line break. -/
def render (m : Exposition) : String :=
  String.join (m.lines.map (· ++ "\n"))

/-- The metrics as a line of text. -/
def summary : String := "FleetMetrics \x7b .. \x7d"

end Exposition
end CacheTier
