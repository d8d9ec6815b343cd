import CacheTier.Cache.Arena
import CacheTier.Cache.Policy
import CacheTier.Table

/-!
# The least frequently used policy

Keys are kept in buckets by their number of hits, each bucket a recency list.
The victim is the key at the tail of the lowest bucket, so equal frequencies
fall back to recency.
-/

namespace CacheTier

/-- The buckets by frequency, the node of each key and the lowest frequency. -/
structure Lfu where
  arena : Arena
  index : Table String Nat
  buckets : Table Nat ArenaList
  lowest : Nat
  deriving DecidableEq, Repr

namespace Lfu

/-- The policy that tracks nothing. -/
def empty : Lfu := ⟨.empty, .empty, .empty, 0⟩

instance : Inhabited Lfu := ⟨empty⟩

/-- The frequency of a tracked key. -/
def frequency? (lfu : Lfu) (key : String) : Option Nat :=
  (lfu.index.get? key).map lfu.arena.frequency

/-- The lowest frequency of a tracked key. -/
def leastFrequency? (lfu : Lfu) : Option Nat :=
  if lfu.index.isEmpty then none else some lfu.lowest

/-- Puts a node at the head of a frequency's bucket. -/
def enter (lfu : Lfu) (i frequency : Nat) : Lfu :=
  let bucket := (lfu.buckets.get? frequency).getD .empty
  let (arena, bucket) := lfu.arena.pushFront bucket i
  { lfu with arena, buckets := lfu.buckets.insert frequency bucket }

/-- Takes a node off its bucket and drops the bucket if that emptied it. -/
def leave (lfu : Lfu) (i : Nat) : Lfu × Bool :=
  let frequency := lfu.arena.frequency i
  match lfu.buckets.get? frequency with
  | none => (lfu, false)
  | some bucket =>
    let (arena, bucket) := lfu.arena.unlink bucket i
    if bucket.isEmpty then
      ({ lfu with arena, buckets := lfu.buckets.erase frequency }, true)
    else
      ({ lfu with arena, buckets := lfu.buckets.insert frequency bucket }, false)

/-- Takes the lowest frequency from the buckets. -/
def recomputeLowest (lfu : Lfu) : Lfu :=
  { lfu with lowest := lfu.buckets.keys.head?.getD 0 }

def insert (lfu : Lfu) (key : String) : Lfu :=
  match lfu.index.get? key with
  | some i => (lfu.leave i).1.enter i (lfu.arena.frequency i)
  | none =>
    let (arena, i) := lfu.arena.alloc key 0
    let lfu := { lfu with arena }.enter i 0
    { lfu with index := lfu.index.insert key i, lowest := 0 }

/-- The frequency after one more hit: a word of 64 bits that wraps around. -/
def raised (frequency : Nat) : Nat := (frequency + 1) % UInt64.size

def access (lfu : Lfu) (key : String) : Lfu × Bool :=
  match lfu.index.get? key with
  | none => (lfu, false)
  | some i =>
    let frequency := lfu.arena.frequency i
    let (lfu, emptied) := lfu.leave i
    let lfu := { lfu with arena := lfu.arena.setFrequency i (raised frequency) }
    let lfu := lfu.enter i (raised frequency)
    if emptied && lfu.lowest == frequency then
      ({ lfu with lowest := raised frequency }, true)
    else (lfu, true)

def remove (lfu : Lfu) (key : String) : Lfu × Bool :=
  match lfu.index.get? key with
  | none => (lfu, false)
  | some i =>
    let frequency := lfu.arena.frequency i
    let (lfu, emptied) := { lfu with index := lfu.index.erase key }.leave i
    let lfu := { lfu with arena := (lfu.arena.release i).1 }
    if emptied && lfu.lowest == frequency then (lfu.recomputeLowest, true)
    else (lfu, true)

/-- The bucket of the lowest frequency and the node at its tail. -/
def victim? (lfu : Lfu) : Option (ArenaList × Nat) := do
  let bucket ← lfu.buckets.get? lfu.lowest
  let i ← bucket.back?
  return (bucket, i)

def evict (lfu : Lfu) : Lfu × Option String :=
  if lfu.index.isEmpty then (lfu, none)
  else match lfu.victim? with
    | none => (lfu, none)
    | some (bucket, i) =>
      let (arena, bucket) := lfu.arena.unlink bucket i
      let lfu := { lfu with arena }
      let lfu :=
        if bucket.isEmpty then
          { lfu with buckets := lfu.buckets.erase lfu.lowest }.recomputeLowest
        else { lfu with buckets := lfu.buckets.insert lfu.lowest bucket }
      let (arena, key) := lfu.arena.release i
      ({ lfu with arena, index := lfu.index.erase key }, some key)

def size (lfu : Lfu) : Nat := lfu.index.size

instance : EvictionPolicy Lfu where
  name _ := "lfu"
  insert := insert
  access := access
  remove := remove
  evict := evict
  clear _ := empty
  size := size
  supply := size

end Lfu
end CacheTier
