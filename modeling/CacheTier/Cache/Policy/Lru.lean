import CacheTier.Cache.Arena
import CacheTier.Cache.Policy
import CacheTier.Table

/-!
# The least recently used policy

One list of all keys: an insertion or a hit moves a key to the head, and the
victim is the key at the tail.
-/

namespace CacheTier

/-- The recency list and the node of each key. -/
structure Lru where
  arena : Arena
  index : Table String Nat
  order : ArenaList
  deriving DecidableEq, Repr

namespace Lru

/-- The policy that tracks nothing. -/
def empty : Lru := ⟨.empty, .empty, .empty⟩

instance : Inhabited Lru := ⟨empty⟩

/-- The tracked keys from most to least recently used. -/
def keysByRecency (lru : Lru) : List String := lru.arena.keys lru.order

/-- Moves a node to the head. -/
def moveToFront (lru : Lru) (i : Nat) : Lru :=
  let (arena, order) := lru.arena.unlink lru.order i
  let (arena, order) := arena.pushFront order i
  { lru with arena, order }

def insert (lru : Lru) (key : String) : Lru :=
  match lru.index.get? key with
  | some i => lru.moveToFront i
  | none =>
    let (arena, i) := lru.arena.alloc key 0
    let (arena, order) := arena.pushFront lru.order i
    ⟨arena, lru.index.insert key i, order⟩

def access (lru : Lru) (key : String) : Lru × Bool :=
  match lru.index.get? key with
  | some i => (lru.moveToFront i, true)
  | none => (lru, false)

def remove (lru : Lru) (key : String) : Lru × Bool :=
  match lru.index.get? key with
  | some i =>
    let (arena, order) := lru.arena.unlink lru.order i
    (⟨(arena.release i).1, lru.index.erase key, order⟩, true)
  | none => (lru, false)

def evict (lru : Lru) : Lru × Option String :=
  match lru.order.back? with
  | some i =>
    let (arena, order) := lru.arena.unlink lru.order i
    let (arena, key) := arena.release i
    (⟨arena, lru.index.erase key, order⟩, some key)
  | none => (lru, none)

def size (lru : Lru) : Nat := lru.index.size

instance : EvictionPolicy Lru where
  name _ := "lru"
  insert := insert
  access := access
  remove := remove
  evict := evict
  clear _ := empty
  size := size
  supply := size

end Lru
end CacheTier
