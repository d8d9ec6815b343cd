import CacheTier.Cache.Block
import CacheTier.Cache.Counters
import CacheTier.Cache.PolicyKind
import CacheTier.FleetError
import CacheTier.Table

/-!
# The bounded block store

A store keeps blocks under keys within a budget of bytes.  Inserting a block
evicts others until it fits; when the policy has no victim left the block is
stored all the same, and the store is over capacity until later evictions.
-/

namespace CacheTier

/-- What a store is built from. -/
structure StoreConfig where
  capacityBytes : UInt64 := 536870912
  policy : PolicyKind := .lru
  deriving DecidableEq, Repr, Inhabited

/-- What an insertion did. -/
structure PutOutcome where
  /-- The evicted keys in the order of eviction. -/
  evicted : List String
  /-- Whether an older block was replaced. -/
  replaced : Bool
  /-- Whether the policy ran out of victims. -/
  overCapacity : Bool
  deriving DecidableEq, Repr, Inhabited

/-- A store over an eviction policy. -/
structure Store (σ : Type) where
  capacityBytes : UInt64
  policy : σ
  index : Table String Block
  sizeBytes : UInt64
  counters : StoreCounters
  /-- The tick that the next block is stamped with. -/
  clock : Nat

namespace Store

variable {σ : Type}

/-- An empty store over a policy; the capacity must be positive. -/
def create (capacityBytes : UInt64) (policy : σ) : Except FleetError (Store σ) :=
  if capacityBytes == 0 then
    .error (.invalidArgument "block store capacity must be positive")
  else .ok ⟨capacityBytes, policy, .empty, 0, .zero, 0⟩

/-- An empty store of a configuration. -/
def ofConfig (config : StoreConfig) : Except FleetError (Store BuiltinPolicy) :=
  create config.capacityBytes (.ofKind config.policy)

/-- How many blocks are stored. -/
def size (store : Store σ) : Nat := store.index.size

def isEmpty (store : Store σ) : Bool := store.index.isEmpty

def contains (store : Store σ) (key : String) : Bool := store.index.contains key

/-- The size of the block under a key, zero if there is none. -/
def blockSize (store : Store σ) (key : String) : UInt64 :=
  ((store.index.get? key).map Block.sizeBytes).getD 0

/-- Takes a victim's block out of the index and counts the eviction. -/
def dropVictim (store : Store σ) (victim : String) : Store σ × List String :=
  match store.index.get? victim with
  | none => (store, [])
  | some block =>
    ({ store with
        index := store.index.erase victim
        sizeBytes := store.sizeBytes - block.sizeBytes
        counters := store.counters.countEviction block.sizeBytes }, [victim])

/-- Whether a block fits once the one it replaces is gone. -/
def fits (store : Store σ) (previous incoming : UInt64) : Bool :=
  let kept := if store.sizeBytes < previous then 0 else store.sizeBytes - previous
  kept + incoming ≤ store.capacityBytes

section Policy

variable [EvictionPolicy σ]

/-- Evicts until a block fits or the policy has no victim left.  Gives the store,
the evicted keys and whether victims ran out; fails after `fuel` nominations. -/
def makeRoom (previous incoming : UInt64) :
    Nat → Store σ → Option (Store σ × List String × Bool)
  | fuel, store =>
    if store.fits previous incoming then some (store, [], false)
    else match fuel with
    | 0 => none
    | fuel + 1 =>
      match EvictionPolicy.evict store.policy with
      | (policy, none) =>
        some ({ store with policy, counters := store.counters.countOverCapacity }, [], true)
      | (policy, some victim) => do
        let (store, dropped) := { store with policy }.dropVictim victim
        let (store, evicted, exhausted) ← makeRoom previous incoming fuel store
        return (store, dropped ++ evicted, exhausted)

/-- Stores a block in place of the one under its key. -/
def place (store : Store σ) (key : String) (payload : ByteArray) : Store σ × Bool :=
  let block := Block.create key payload store.clock
  let kept := store.sizeBytes - store.blockSize key
  ({ store with
      index := store.index.insert key block
      policy := EvictionPolicy.insert store.policy key
      sizeBytes := kept + block.sizeBytes
      counters := store.counters.countPut
      clock := store.clock + 1 }, store.contains key)

/-- Inserts a block with at most `fuel` nominations; `none` if they do not
suffice. -/
def putWithin (fuel : Nat) (store : Store σ) (key : String) (payload : ByteArray) :
    Option (Store σ × Except FleetError PutOutcome) :=
  if key.isEmpty then
    some (store, .error (.invalidArgument "block key must not be empty"))
  else do
    let incoming := UInt64.ofNat payload.size
    let previous := store.blockSize key
    let store := { store with policy := (EvictionPolicy.remove store.policy key).1 }
    let (store, evicted, overCapacity) ← makeRoom previous incoming fuel store
    let (store, replaced) := store.place key payload
    return (store, .ok ⟨evicted, replaced, overCapacity⟩)

/-- Inserts or replaces a block, evicting until it fits. -/
def put? (store : Store σ) (key : String) (payload : ByteArray) :
    Option (Store σ × Except FleetError PutOutcome) :=
  store.putWithin (EvictionPolicy.supply store.policy + 1) key payload

/-- Looks a block up and counts the hit or the miss. -/
def get (store : Store σ) (key : String) : Store σ × Option ByteArray :=
  match store.index.get? key with
  | none => ({ store with counters := store.counters.countMiss }, none)
  | some block =>
    ({ store with
        index := store.index.insert key (block.touched store.clock)
        policy := (EvictionPolicy.access store.policy key).1
        counters := store.counters.countHit
        clock := store.clock + 1 }, some block.payload)

/-- Removes a block; false if there is none. -/
def remove (store : Store σ) (key : String) : Store σ × Bool :=
  match store.index.get? key with
  | none => (store, false)
  | some block =>
    ({ store with
        index := store.index.erase key
        policy := (EvictionPolicy.remove store.policy key).1
        sizeBytes := store.sizeBytes - block.sizeBytes }, true)

/-- Drops every block. -/
def clear (store : Store σ) : Store σ :=
  { store with
    index := .empty
    policy := EvictionPolicy.clear store.policy
    sizeBytes := 0 }

/-- The counters and the shape of the store. -/
def stats (store : Store σ) : StoreStats :=
  { policy := EvictionPolicy.name store.policy
    capacityBytes := store.capacityBytes
    sizeBytes := store.sizeBytes
    entryCount := UInt64.ofNat store.size
    counters := store.counters }

end Policy

/-- The store's shape as a line of text. -/
def summary (store : Store σ) : String :=
  "BlockStore \x7b capacity_bytes: " ++ toString store.capacityBytes.toNat ++
    ", size_bytes: " ++ toString store.sizeBytes.toNat ++
    ", entries: " ++ toString store.size ++ " \x7d"

end Store
end CacheTier
