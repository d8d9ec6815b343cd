/-!
# Linked lists in an arena

Doubly-linked lists whose nodes are slots of one array and point at each other
by index.  Released slots are used again, the last released first.  A list is
known by its two ends and its length; several lists can share one arena.
-/

namespace CacheTier

/-- A node of some list, or a released slot. -/
structure Slot where
  key : String
  frequency : Nat
  prev : Option Nat
  next : Option Nat
  deriving DecidableEq, Repr

namespace Slot

/-- What a released slot holds. -/
def vacant : Slot := ⟨"", 0, none, none⟩

instance : Inhabited Slot := ⟨vacant⟩

end Slot

/-- The ends and the length of a list in an arena. -/
structure ArenaList where
  head : Option Nat
  tail : Option Nat
  length : Nat
  deriving DecidableEq, Repr

namespace ArenaList

/-- The list without nodes. -/
def empty : ArenaList := ⟨none, none, 0⟩

instance : Inhabited ArenaList := ⟨empty⟩

def isEmpty (list : ArenaList) : Bool := list.length == 0

/-- The node at the tail. -/
def back? (list : ArenaList) : Option Nat := list.tail

end ArenaList

/-- Slots and the stack of those that are free. -/
structure Arena where
  slots : Array Slot
  free : List Nat
  deriving DecidableEq, Repr

namespace Arena

/-- The arena without slots. -/
def empty : Arena := ⟨#[], []⟩

instance : Inhabited Arena := ⟨empty⟩

/-- Whether an index names a slot, in use or not. -/
def holds (arena : Arena) (i : Nat) : Bool := i < arena.slots.size

/-- The slot at an index. -/
def slot (arena : Arena) (i : Nat) : Slot := arena.slots.getD i Slot.vacant

/-- The key of a node. -/
def key (arena : Arena) (i : Nat) : String := (arena.slot i).key

/-- The frequency of a node. -/
def frequency (arena : Arena) (i : Nat) : Nat := (arena.slot i).frequency

/-- Changes the slot at an index. -/
def modify (arena : Arena) (i : Nat) (change : Slot → Slot) : Arena :=
  { arena with slots := arena.slots.modify i change }

/-- How many slots are in use. -/
def live (arena : Arena) : Nat := arena.slots.size - arena.free.length

/-- Takes a slot for a new node that is on no list. -/
def alloc (arena : Arena) (key : String) (frequency : Nat) : Arena × Nat :=
  let fresh : Slot := ⟨key, frequency, none, none⟩
  match arena.free with
  | i :: free => (⟨arena.slots.setIfInBounds i fresh, free⟩, i)
  | [] => (⟨arena.slots.push fresh, []⟩, arena.slots.size)

/-- Frees the slot of a node that is on no list, and gives back its key. -/
def release (arena : Arena) (i : Nat) : Arena × String :=
  (⟨arena.slots.setIfInBounds i Slot.vacant, i :: arena.free⟩, arena.key i)

/-- Gives a node another frequency. -/
def setFrequency (arena : Arena) (i frequency : Nat) : Arena :=
  arena.modify i fun s => { s with frequency }

/-- Links a node at the head of a list. -/
def pushFront (arena : Arena) (list : ArenaList) (i : Nat) : Arena × ArenaList :=
  let arena := arena.modify i fun s => { s with prev := none, next := list.head }
  match list.head with
  | some h =>
    (arena.modify h fun s => { s with prev := some i },
      ⟨some i, list.tail, list.length + 1⟩)
  | none => (arena, ⟨some i, some i, list.length + 1⟩)

/-- Takes a node off the list that it is on. -/
def unlink (arena : Arena) (list : ArenaList) (i : Nat) : Arena × ArenaList :=
  let prev := (arena.slot i).prev
  let next := (arena.slot i).next
  let (arena, head) := match prev with
    | some p => (arena.modify p fun s => { s with next }, list.head)
    | none => (arena, next)
  let (arena, tail) := match next with
    | some n => (arena.modify n fun s => { s with prev }, list.tail)
    | none => (arena, prev)
  (arena.modify i fun s => { s with prev := none, next := none },
    ⟨head, tail, list.length - 1⟩)

/-- The nodes met by following `next` for at most `fuel` steps. -/
def walk (arena : Arena) : Nat → Option Nat → List Nat
  | fuel + 1, some i => i :: arena.walk fuel (arena.slot i).next
  | _, _ => []

/-- The nodes of a list from head to tail. -/
def nodes (arena : Arena) (list : ArenaList) : List Nat :=
  arena.walk arena.slots.size list.head

/-- The keys of a list from head to tail. -/
def keys (arena : Arena) (list : ArenaList) : List String :=
  (arena.nodes list).map arena.key

end Arena
end CacheTier
