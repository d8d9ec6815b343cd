/-!
# Node identifiers

A cache node is known by an arbitrary text.  Identifiers are ordered by their
characters, which is also the order of their encoded bytes.
-/

namespace CacheTier

/-- The identifier of a cache node. -/
structure NodeId where
  text : String
  deriving DecidableEq, Repr, Inhabited, Hashable

namespace NodeId

/-- The identifier with no characters, below all others. -/
def empty : NodeId := ⟨""⟩

def isEmpty (id : NodeId) : Bool := id.text.isEmpty

/-- The bytes of an identifier's text. -/
def bytes (id : NodeId) : List UInt8 := id.text.toUTF8.toList

instance : LT NodeId := ⟨fun a b => a.text < b.text⟩

instance (a b : NodeId) : Decidable (a < b) :=
  inferInstanceAs (Decidable (a.text < b.text))

instance : ToString NodeId := ⟨NodeId.text⟩

/-- Where the first identifier stands relative to the second. -/
def compare (a b : NodeId) : Ordering :=
  if a < b then .lt else if b < a then .gt else .eq

end NodeId
end CacheTier
