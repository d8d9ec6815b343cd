/-!
# Store counters

What a store has done since its start, as words of 64 bits that wrap around,
and the ratios shown in statistics.
-/

namespace CacheTier

/-- A quotient of words as a float; zero when nothing is divided by. -/
def wordRatio (part whole : UInt64) : Float :=
  if whole == 0 then 0 else part.toFloat / whole.toFloat

/-- The running totals of a store. -/
structure StoreCounters where
  hits : UInt64 := 0
  misses : UInt64 := 0
  puts : UInt64 := 0
  evictions : UInt64 := 0
  bytesEvicted : UInt64 := 0
  overCapacity : UInt64 := 0
  deriving DecidableEq, Repr, Inhabited

namespace StoreCounters

/-- No activity yet. -/
def zero : StoreCounters := {}

def countHit (c : StoreCounters) : StoreCounters := { c with hits := c.hits + 1 }

def countMiss (c : StoreCounters) : StoreCounters := { c with misses := c.misses + 1 }

def countPut (c : StoreCounters) : StoreCounters := { c with puts := c.puts + 1 }

def countEviction (c : StoreCounters) (size : UInt64) : StoreCounters :=
  { c with evictions := c.evictions + 1, bytesEvicted := c.bytesEvicted + size }

def countOverCapacity (c : StoreCounters) : StoreCounters :=
  { c with overCapacity := c.overCapacity + 1 }

/-- The share of lookups that found a block. -/
def hitRatio (c : StoreCounters) : Float := wordRatio c.hits (c.hits + c.misses)

end StoreCounters

/-- A store's counters together with its shape at one moment. -/
structure StoreStats where
  policy : String
  capacityBytes : UInt64
  sizeBytes : UInt64
  entryCount : UInt64
  counters : StoreCounters
  deriving DecidableEq, Repr, Inhabited

namespace StoreStats

def hitRatio (s : StoreStats) : Float := s.counters.hitRatio

/-- The share of the capacity in use. -/
def utilization (s : StoreStats) : Float := wordRatio s.sizeBytes s.capacityBytes

end StoreStats
end CacheTier
