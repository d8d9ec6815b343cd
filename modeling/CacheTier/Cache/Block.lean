/-!
# Cached blocks

A block is one byte range cached under a key.  It counts its hits and keeps
the ticks of its insertion and of its latest hit.
-/

namespace CacheTier

/-- A cached payload with its bookkeeping. -/
structure Block where
  key : String
  payload : ByteArray
  insertedAt : Nat
  lastAccessed : Nat
  accessCount : UInt64

namespace Block

/-- A block that has not been hit. -/
def create (key : String) (payload : ByteArray) (now : Nat) : Block :=
  ⟨key, payload, now, now, 0⟩

/-- Counts a hit. -/
def touched (block : Block) (now : Nat) : Block :=
  { block with lastAccessed := now, accessCount := block.accessCount + 1 }

/-- The length of the payload. -/
def sizeBytes (block : Block) : UInt64 := UInt64.ofNat block.payload.size

/-- Whether the block has not been hit since its insertion. -/
def isFresh (block : Block) : Bool := block.insertedAt == block.lastAccessed

/-- Whether the latest hit is not before the insertion. -/
def isOrdered (block : Block) : Bool := block.insertedAt ≤ block.lastAccessed

end Block
end CacheTier
