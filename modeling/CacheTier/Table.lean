/-!
# Tables in key order

A finite map kept as a list of pairs in ascending order of their keys, with at
most one pair for a key.
-/

namespace CacheTier

/-- A finite map as an ascending list of pairs. -/
structure Table (κ : Type) (α : Type) where
  entries : List (κ × α)
  deriving Repr, DecidableEq

namespace Table

variable {κ α : Type}

/-- The table without pairs. -/
def empty : Table κ α := ⟨[]⟩

instance : Inhabited (Table κ α) := ⟨empty⟩

/-- The keys in ascending order. -/
def keys (t : Table κ α) : List κ := t.entries.map Prod.fst

/-- The values in the order of their keys. -/
def values (t : Table κ α) : List α := t.entries.map Prod.snd

def size (t : Table κ α) : Nat := t.entries.length

def isEmpty (t : Table κ α) : Bool := t.entries.isEmpty

section Lookup

variable [BEq κ]

/-- The value stored under a key. -/
def get? (t : Table κ α) (k : κ) : Option α := t.entries.lookup k

def contains (t : Table κ α) (k : κ) : Bool := (t.get? k).isSome

/-- The table without a key. -/
def erase (t : Table κ α) (k : κ) : Table κ α :=
  ⟨t.entries.filter fun pair => pair.1 != k⟩

end Lookup

section Order

variable [LT κ] [DecidableLT κ]

/-- Puts a pair into an ascending list in place of the one with its key. -/
def insertPair (k : κ) (v : α) : List (κ × α) → List (κ × α)
  | [] => [(k, v)]
  | pair :: rest =>
    if k < pair.1 then (k, v) :: pair :: rest
    else if pair.1 < k then pair :: insertPair k v rest
    else (k, v) :: rest

/-- Stores a value under a key in place of the one stored before. -/
def insert (t : Table κ α) (k : κ) (v : α) : Table κ α :=
  ⟨insertPair k v t.entries⟩

/-- The table of a list of pairs, where later pairs replace earlier ones. -/
def ofList (pairs : List (κ × α)) : Table κ α :=
  pairs.foldl (fun t pair => t.insert pair.1 pair.2) empty

end Order

end Table
end CacheTier
