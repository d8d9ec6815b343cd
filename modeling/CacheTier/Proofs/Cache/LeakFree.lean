import CacheTier.Proofs.Cache.Faithful
import CacheTier.Proofs.Cache.SharedArena

/-!
# No slot is lost

Both policies keep their nodes in an arena, the one on a single recency list, the other on one
list for each frequency.  Whatever calls are made, every slot that is not free is on exactly one
of the lists, and there are as many of them as there are tracked keys.  For the frequencies this
needs no bound on the hits: a node whose frequency wraps around is filed under the wrapped one.

The policies are two of the many ways to thread lists through one arena.  The main result puts
beside them what holds for all of them.
-/

namespace CacheTier

/-! ## One list -/

namespace Lru

/-- The slots in use are the nodes of the recency list, and as many as there are keys. -/
structure LeakFree (lru : Lru) : Prop where
  wellFormed : lru.arena.WellFormed
  threads : lru.arena.Threads lru.order (lru.arena.nodes lru.order)
  inUse_iff : ∀ i, lru.arena.InUse i ↔ i ∈ lru.arena.nodes lru.order
  live : lru.arena.live = lru.size

variable {lru : Lru} {nodes : List Nat}

theorem Orders.leakFree (h : lru.Orders nodes) : lru.LeakFree where
  wellFormed := h.wellFormed
  threads := by
    rw [h.lists.nodes_eq]
    exact h.lists.threads
  inUse_iff := by
    rw [h.lists.nodes_eq]
    exact h.inUse_iff
  live := h.indexed.live_eq_size h.wellFormed h.inUse_iff

theorem leakFree_run (calls : List EvictionPolicy.Call) :
    (EvictionPolicy.run Lru.empty calls).LeakFree := by
  have hempty : empty.Tracks empty.keysByRecency := tracks_empty
  obtain ⟨nodes, horders, -⟩ := faithful.run hempty calls
  exact horders.leakFree

end Lru

/-! ## A list for each frequency -/

namespace Lfu

/-- Every slot in use is a node of the bucket of its frequency and of no other, no bucket is
empty, and there are as many slots in use as keys. -/
structure LeakFree (lfu : Lfu) : Prop where
  wellFormed : lfu.arena.WellFormed
  threads : ∀ f bucket, lfu.buckets.get? f = some bucket →
    lfu.arena.Threads bucket (lfu.arena.nodes bucket)
  nonempty : ∀ f bucket, lfu.buckets.get? f = some bucket → lfu.arena.nodes bucket ≠ []
  filed : ∀ i, lfu.arena.InUse i →
    ∃ bucket, lfu.buckets.get? (lfu.arena.frequency i) = some bucket ∧
      i ∈ lfu.arena.nodes bucket
  belongs : ∀ f bucket, lfu.buckets.get? f = some bucket → ∀ i ∈ lfu.arena.nodes bucket,
    lfu.arena.InUse i ∧ lfu.arena.frequency i = f
  live : lfu.arena.live = lfu.size

variable {lfu : Lfu} {nodes : Nat → List Nat}

theorem Arranged.leakFree (h : lfu.Arranged nodes) : lfu.LeakFree := by
  have hlists := h.filed.lists
  have hnodes : ∀ f bucket, lfu.buckets.get? f = some bucket →
      lfu.arena.nodes bucket = nodes f := fun f bucket hget => (hlists f bucket hget).nodes_eq
  refine ⟨h.filed.wellFormed, ?_, ?_, ?_, ?_, ?_⟩
  · intro f bucket hget
    rw [hnodes f bucket hget]
    exact (hlists f bucket hget).threads
  · intro f bucket hget
    rw [hnodes f bucket hget, ← h.filed.isSome_iff, hget]
    rfl
  · intro i hi
    obtain ⟨f, hf⟩ := (h.inUse_iff i).mp hi
    obtain ⟨bucket, hget⟩ : ∃ bucket, lfu.buckets.get? f = some bucket :=
      Option.isSome_iff_exists.mp ((h.filed.isSome_iff f).mpr (List.ne_nil_of_mem hf))
    refine ⟨bucket, ?_, hnodes f bucket hget ▸ hf⟩
    rw [h.filed.frequency f i hf]
    exact hget
  · intro f bucket hget i hi
    rw [hnodes f bucket hget] at hi
    exact ⟨h.filed.inUse f i hi, h.filed.frequency f i hi⟩
  · exact h.indexed.live_eq_size h.filed.wellFormed h.inUse_iff

theorem leakFree_run (calls : List EvictionPolicy.Call) :
    (EvictionPolicy.run Lfu.empty calls).LeakFree := by
  obtain ⟨shelf, hshelved⟩ := faithful.run ⟨_, shelved_empty⟩ calls
  obtain ⟨nodes, harranged, -⟩ := hshelved.arranged
  exact harranged.leakFree

end Lfu

/-! ## Any lists -/

namespace SharedArena

/-- Calls that are made on nodes as they may be leave the arena and its lists accounted for by
plain lists: slots are free or handed out, the links lead through the plain nodes both ways, and
the keys come in the plain order.  A call on one list changes no other one, and a slot that is
handed out again holds nothing of its former node.  In both policies the slots in use are the
nodes of their lists, each on one list, and as many as the tracked keys. -/
theorem lists_stay_threaded :
    (∀ {ι : Type} [DecidableEq ι] (calls : List (ArenaCall ι)),
      (empty : SharedArena ι).PermitsAll .empty calls →
      let shared := (empty : SharedArena ι).run calls
      let plain := (PlainLists.empty : PlainLists ι).run calls
      shared.Accounted plain ∧
        (∀ call name, shared.Permits plain call → call.list? ≠ some name →
          (shared.call call).lists name = shared.lists name ∧
            (shared.call call).arena.keys ((shared.call call).lists name) =
              shared.arena.keys (shared.lists name) ∧
            ∀ i ∈ plain.nodes name, (shared.call call).arena.slot i = shared.arena.slot i) ∧
        ∀ key frequency,
          let (arena, i) := shared.arena.alloc key frequency
          plain.labels i = none ∧ arena.slot i = ⟨key, frequency, none, none⟩) ∧
      (∀ calls, (EvictionPolicy.run Lru.empty calls).LeakFree) ∧
      ∀ calls, (EvictionPolicy.run Lfu.empty calls).LeakFree := by
  refine ⟨?_, Lru.leakFree_run, Lfu.leakFree_run⟩
  intro ι _ calls hpermits shared plain
  have hmatches : shared.Matches plain := matches_empty.run hpermits
  refine ⟨hmatches.accounted, ?_, ?_⟩
  · intro call name hcall hname
    obtain ⟨hends, hslots⟩ := hmatches.call_frame hcall hname
    exact ⟨hends, hmatches.keys_call hcall hname, hslots⟩
  · intro key frequency
    have hfresh := hmatches.wellFormed.inUse_alloc_iff (j := 0) key frequency
    exact ⟨hmatches.labels_eq_none_iff.mpr hfresh.1,
      Arena.slot_alloc_self hmatches.wellFormed key frequency⟩

/-- Three nodes on two lists; the one at the tail of the first list is given back, and its slot
is handed out again for a node that goes in front of the second list. -/
def handovers : List (ArenaCall Bool) :=
  [.alloc 0 "a" 3, .alloc 1 "b" 0, .alloc 2 "c" 1, .pushFront true 0, .pushFront true 1,
    .pushFront false 2, .unlink true 0, .release 0, .alloc 0 "d" 7, .pushFront false 0]

theorem handovers_stay_threaded :
    (empty : SharedArena Bool).PermitsAll .empty handovers ∧
      let shared := (empty : SharedArena Bool).run handovers
      shared.arena.keys (shared.lists true) = ["b"] ∧
        shared.arena.keys (shared.lists false) = ["d", "c"] ∧
        (shared.lists false).length = 2 ∧
        (shared.call (.unlink false 2)).arena.keys (shared.lists true) = ["b"] := by
  have hpermits : (empty : SharedArena Bool).PermitsAll .empty handovers := by decide
  obtain ⟨haccounted, hframe, -⟩ := lists_stay_threaded.1 handovers hpermits
  obtain ⟨hends, hkeys, -⟩ := hframe (.unlink false 2) true (by decide) (by decide)
  refine ⟨hpermits, ?_, ?_, ?_, ?_⟩
  · exact (haccounted.keys true).trans (by decide)
  · exact (haccounted.keys false).trans (by decide)
  · exact (haccounted.threads false).length.trans (by decide)
  · rw [← hends, hkeys]
    exact (haccounted.keys true).trans (by decide)

end SharedArena
end CacheTier
