import CacheTier.Cache.Policy.Lfu
import CacheTier.Cache.Policy.Lru
import CacheTier.FleetError
import CacheTier.Text.LowerCase

/-!
# The built-in policies

A store is configured with one of the built-in policies, which is chosen by
name in any case.
-/

namespace CacheTier

/-- The policies that can be chosen by name. -/
inductive PolicyKind where
  | lru
  | lfu
  deriving DecidableEq, Repr

namespace PolicyKind

/-- The kind used when none is chosen. -/
def standard : PolicyKind := lru

instance : Inhabited PolicyKind := ⟨standard⟩

/-- The name of a kind. -/
def name : PolicyKind → String
  | lru => "lru"
  | lfu => "lfu"

/-- The kind with a name, in any case. -/
def ofName? (name : String) : Except FleetError PolicyKind :=
  let lowered := LetterCase.lower name
  if lowered == "lru" then .ok lru
  else if lowered == "lfu" then .ok lfu
  else .error (.configuration
    ("unknown eviction policy: " ++ lowered ++ " (expected lru or lfu)"))

end PolicyKind

/-- The state of a built-in policy. -/
inductive BuiltinPolicy where
  | lru (state : Lru)
  | lfu (state : Lfu)
  deriving DecidableEq, Repr

namespace BuiltinPolicy

/-- The policy of a kind that tracks nothing. -/
def ofKind : PolicyKind → BuiltinPolicy
  | .lru => lru .empty
  | .lfu => lfu .empty

instance : Inhabited BuiltinPolicy := ⟨ofKind .standard⟩

instance : EvictionPolicy BuiltinPolicy where
  name
    | lru s => EvictionPolicy.name s
    | lfu s => EvictionPolicy.name s
  insert
    | lru s, key => lru (s.insert key)
    | lfu s, key => lfu (s.insert key)
  access
    | lru s, key => let (s, hit) := s.access key; (lru s, hit)
    | lfu s, key => let (s, hit) := s.access key; (lfu s, hit)
  remove
    | lru s, key => let (s, tracked) := s.remove key; (lru s, tracked)
    | lfu s, key => let (s, tracked) := s.remove key; (lfu s, tracked)
  evict
    | lru s => let (s, victim) := s.evict; (lru s, victim)
    | lfu s => let (s, victim) := s.evict; (lfu s, victim)
  clear
    | lru _ => lru .empty
    | lfu _ => lfu .empty
  size
    | lru s => s.size
    | lfu s => s.size
  supply
    | lru s => s.size
    | lfu s => s.size

end BuiltinPolicy
end CacheTier
