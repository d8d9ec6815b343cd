import CacheTier.Cache.Policy

/-!
# Runs of eviction policies

Calls on a policy, what they return, and when two policies cannot be told apart by
them: when some relation of their states is kept by every call and makes both return
the same.
-/

namespace CacheTier
namespace EvictionPolicy

/-- A call that may change a policy. -/
inductive Call where
  | insert (key : String)
  | access (key : String)
  | remove (key : String)
  | evict
  | clear
  deriving DecidableEq, Repr

/-- What a call returns. -/
inductive Reply where
  | done
  /-- Whether the key was tracked. -/
  | tracked (known : Bool)
  | victim (key : Option String)
  deriving DecidableEq, Repr

variable {σ τ : Type} [EvictionPolicy σ] [EvictionPolicy τ]

/-- The policy after a call, and what the call returns. -/
def call (policy : σ) : Call → σ × Reply
  | .insert key => (insert policy key, .done)
  | .access key => ((access policy key).1, .tracked (access policy key).2)
  | .remove key => ((remove policy key).1, .tracked (remove policy key).2)
  | .evict => ((evict policy).1, .victim (evict policy).2)
  | .clear => (clear policy, .done)

/-- The policy after a sequence of calls. -/
def run (policy : σ) (calls : List Call) : σ :=
  calls.foldl (fun policy next => (call policy next).1) policy

/-- What the calls of a sequence return. -/
def replies (policy : σ) : List Call → List Reply
  | [] => []
  | first :: rest => (call policy first).2 :: replies (call policy first).1 rest

/-- How many hits a sequence of calls records at most. -/
def accesses (calls : List Call) : Nat :=
  calls.countP fun
    | .access _ => true
    | _ => false

/-- A relation of two policies' states that every call keeps while both return the same.
It may depend on the number of hits still to come. -/
def Simulation (related : Nat → σ → τ → Prop) : Prop :=
  ∀ first hits policy reference, related (accesses [first] + hits) policy reference →
    related hits (call policy first).1 (call reference first).1 ∧
      (call policy first).2 = (call reference first).2

/-- Related states return the same through every sequence of calls, and end in related
states. -/
theorem Simulation.run {related : Nat → σ → τ → Prop} (h : Simulation related)
    (calls : List Call) (hits : Nat) (policy : σ) (reference : τ)
    (hstart : related (accesses calls + hits) policy reference) :
    related hits (run policy calls) (run reference calls) ∧
      replies policy calls = replies reference calls := by
  induction calls generalizing policy reference with
  | nil =>
      rw [accesses, List.countP_nil, Nat.zero_add] at hstart
      exact ⟨hstart, rfl⟩
  | cons first rest ih =>
      have hsplit : accesses (first :: rest) + hits = accesses [first] + (accesses rest + hits) := by
        rw [← List.singleton_append, accesses, List.countP_append, Nat.add_assoc]
        rfl
      rw [hsplit] at hstart
      obtain ⟨hnext, hreply⟩ := h first _ policy reference hstart
      obtain ⟨hend, hreplies⟩ := ih _ _ hnext
      exact ⟨hend, by rw [replies, replies, hreply, hreplies]⟩

end EvictionPolicy
end CacheTier
