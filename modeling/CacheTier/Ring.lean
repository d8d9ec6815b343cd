import CacheTier.NodeId
import CacheTier.Table

/-!
# The weighted consistent-hash ring

A ring maps keys to nodes.  A node of weight `w` holds
`entriesPerWeight * (1 + w)` entries, each at the hash of one of its
labels; a key belongs to the first entry at or after its own hash, and to the
lowest entry when there is none.  The hash function is a parameter.
-/

namespace CacheTier

/-- The shape of a ring. -/
structure RingConfig where
  entriesPerWeight : Nat := 150
  deriving DecidableEq, Repr, Inhabited

/-- Numbers that weights are reckoned in.  They come from words and are rounded down to
words. -/
class Weighing (α : Type) extends Add α, Mul α, Div α where
  ofWord : UInt64 → α
  /-- Whether a number is finite and positive. -/
  isPositive : α → Bool
  /-- The largest word up to a number. -/
  toWord : α → UInt64

instance : Weighing Float where
  ofWord := UInt64.toFloat
  isPositive weight := weight.isFinite && 0 < weight
  toWord := Float.toUInt64

namespace Ring

/-- A position on the ring together with the node that holds it. -/
structure Entry where
  position : UInt64
  owner : NodeId
  deriving DecidableEq, Repr

/-- Entries are ordered by position, and by owner at one position. -/
def Entry.before (a b : Entry) : Bool :=
  a.position < b.position || (a.position == b.position && decide (a.owner < b.owner))

/-- Adds an entry to an ascending list unless it is there already. -/
def insertEntry (e : Entry) : List Entry → List Entry
  | [] => [e]
  | x :: xs =>
    if e.before x then e :: x :: xs
    else if x.before e then x :: insertEntry e xs
    else x :: xs

/-- A node on the ring with its weight and the positions it was given. -/
structure Member where
  id : NodeId
  weight : Float
  positions : List UInt64
  deriving Repr

section Weights

variable {α : Type} [Weighing α]

/-- The weight that counts: a finite positive one, and zero otherwise. -/
def effectiveWeight (weight : α) : α :=
  if Weighing.isPositive weight then weight else Weighing.ofWord 0

/-- How many virtual nodes a weight stands for, rounded down, and at least one. -/
def virtualNodes (entriesPerWeight : Nat) (weight : α) : Nat :=
  -- the conversion to a whole number is what rounds down
  let count : α := Weighing.ofWord (UInt64.ofNat entriesPerWeight) *
    (Weighing.ofWord 1 + effectiveWeight weight)
  max (Weighing.toWord count).toNat 1

end Weights

/-- Whether so many positions can be listed: each takes eight bytes, and no list takes
more bytes than a signed word can count. -/
def isListable (count : Nat) : Bool := count * 8 < Nat.pow 2 63

end Ring

/-- Hashes the label of a virtual node, or a key. -/
abbrev RingHash := String → UInt64

/-- A ring over a hash function: its entries in ascending order and its members. -/
structure Ring (hash : RingHash) where
  entriesPerWeight : Nat
  entries : List Ring.Entry
  members : List Ring.Member

namespace Ring

variable {hash : RingHash}

/-- The ring without members; at least one virtual node per weight is used. -/
def ofConfig (hash : RingHash) (config : RingConfig) : Ring hash :=
  ⟨max config.entriesPerWeight 1, [], []⟩

/-- How many virtual nodes a node of this weight gets. -/
def quota (ring : Ring hash) (weight : Float) : Nat :=
  virtualNodes ring.entriesPerWeight weight

/-- The member with an identifier. -/
def member? (ring : Ring hash) (id : NodeId) : Option Member :=
  ring.members.find? (·.id == id)

def contains (ring : Ring hash) (id : NodeId) : Bool :=
  (ring.member? id).isSome

def weight? (ring : Ring hash) (id : NodeId) : Option Float :=
  (ring.member? id).map Member.weight

/-- How many members the ring has. -/
def size (ring : Ring hash) : Nat := ring.members.length

def isEmpty (ring : Ring hash) : Bool := ring.members.isEmpty

/-- How many distinct entries the ring has. -/
def entryCount (ring : Ring hash) : Nat := ring.entries.length

/-- The members' identifiers in ascending order. -/
def nodeIds (ring : Ring hash) : List NodeId :=
  (ring.members.map Member.id).mergeSort fun a b => !decide (b < a)

/-- The label of a node's virtual node. -/
def label (id : NodeId) (index : Nat) : String :=
  id.text ++ "#" ++ toString index

/-- The positions of a node's first `count` virtual nodes. -/
def positions (hash : RingHash) (id : NodeId) (count : Nat) : List UInt64 :=
  (List.range count).map fun index => hash (label id index)

/-- Adds a node with a weight; a node that is a member already stays as it is. -/
def add (ring : Ring hash) (id : NodeId) (weight : Float) : Ring hash × Bool :=
  if ring.contains id then (ring, false)
  else
    let given := positions hash id (ring.quota weight)
    let entries := given.foldl (fun entries p => insertEntry ⟨p, id⟩ entries) ring.entries
    ({ ring with entries, members := ring.members ++ [⟨id, weight, given⟩] }, true)

/-- Whether a node cannot be added because its positions cannot be listed.  The program
ends in a panic then. -/
def addPanics (ring : Ring hash) (id : NodeId) (weight : Float) : Bool :=
  !ring.contains id && !isListable (ring.quota weight)

/-- Takes a member and its entries off the ring. -/
def remove (ring : Ring hash) (id : NodeId) : Ring hash × Bool :=
  match ring.member? id with
  | none => (ring, false)
  | some member =>
    let entries := member.positions.foldl (fun entries p => entries.erase ⟨p, id⟩) ring.entries
    ({ ring with entries, members := ring.members.filter (·.id != id) }, true)

/-- The ring of the same shape without members. -/
def clear (ring : Ring hash) : Ring hash :=
  { ring with entries := [], members := [] }

/-- The first entry at or after a position, or the lowest entry. -/
def successor? (ring : Ring hash) (position : UInt64) : Option Entry :=
  (ring.entries.find? fun e => position ≤ e.position).orElse fun _ => ring.entries.head?

/-- The node that serves a key. -/
def route? (ring : Ring hash) (key : String) : Option NodeId :=
  (ring.successor? (hash key)).map Entry.owner

/-- How many of some keys each node serves that serves any. -/
def load (ring : Ring hash) (keys : List String) : Table NodeId Nat :=
  (keys.filterMap ring.route?).foldl (fun load id =>
    load.insert id ((load.get? id).getD 0 + 1)) .empty

end Ring
end CacheTier
