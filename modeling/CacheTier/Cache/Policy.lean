/-!
# Eviction policies

A policy tracks the keys of a store and nominates the next victim when room is
needed.  Every operation is a function on the policy's state.
-/

namespace CacheTier

/-- Victim selection for a bounded store. -/
class EvictionPolicy (σ : Type) where
  /-- The name shown in statistics. -/
  name : σ → String
  /-- Starts tracking a key, or renews one that is tracked. -/
  insert : σ → String → σ
  /-- Records a hit; false if the key is not tracked. -/
  access : σ → String → σ × Bool
  /-- Stops tracking a key; false if it was not tracked. -/
  remove : σ → String → σ × Bool
  /-- Nominates a victim and stops tracking it. -/
  evict : σ → σ × Option String
  /-- Forgets every key. -/
  clear : σ → σ
  /-- How many keys are tracked. -/
  size : σ → Nat
  /-- A bound on the nominations that can follow each other. -/
  supply : σ → Nat

namespace EvictionPolicy

/-- Whether a policy tracks no key. -/
def isEmpty {σ : Type} [EvictionPolicy σ] (policy : σ) : Bool := size policy == 0

/-- Every victim in the order of nomination, up to the policy's supply. -/
def drain {σ : Type} [EvictionPolicy σ] (policy : σ) : σ × List String :=
  go (supply policy + 1) policy
where
  go : Nat → σ → σ × List String
    | 0, policy => (policy, [])
    | fuel + 1, policy =>
      match evict policy with
      | (policy, none) => (policy, [])
      | (policy, some victim) =>
        let (policy, victims) := go fuel policy
        (policy, victim :: victims)

end EvictionPolicy
end CacheTier
