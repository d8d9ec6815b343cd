import CacheTier.Cache.Store
import CacheTier.Json.Doc
import CacheTier.Registry

/-!
# Statistics on the wire

What the services tell about themselves.
-/

namespace CacheTier

open Json

namespace RegistryStats

def toDoc (s : RegistryStats) : Doc := .object [
  ("node_count", .word s.nodeCount), ("virtual_nodes", .word s.virtualNodes),
  ("pulses", .word s.counters.pulses), ("joins", .word s.counters.joins),
  ("updates", .word s.counters.updates), ("stale_pulses", .word s.counters.stalePulses),
  ("expirations", .word s.counters.expirations), ("removals", .word s.counters.removals)]

end RegistryStats

namespace StoreStats

def toDoc (s : StoreStats) : Doc := .object [
  ("policy", .text s.policy), ("capacity_bytes", .word s.capacityBytes),
  ("size_bytes", .word s.sizeBytes), ("entry_count", .word s.entryCount),
  ("hits", .word s.counters.hits), ("misses", .word s.counters.misses),
  ("puts", .word s.counters.puts), ("evictions", .word s.counters.evictions),
  ("bytes_evicted", .word s.counters.bytesEvicted),
  ("over_capacity", .word s.counters.overCapacity)]

end StoreStats

namespace PutOutcome

def toDoc (o : PutOutcome) : Doc := .object [
  ("evicted", .texts o.evicted), ("replaced", .bool o.replaced),
  ("over_capacity", .bool o.overCapacity)]

end PutOutcome
end CacheTier
