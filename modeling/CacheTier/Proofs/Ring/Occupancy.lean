import CacheTier.Proofs.Ring.Membership
import Mathlib

/-!
# How many entries a ring has

Every member brings its positions to the ring, and equal ones count once.  So a ring has at
most as many entries as its members have virtual nodes, and exactly as many if the labels of
each member hash to different positions.  Positions that two members share do not matter.
-/

namespace CacheTier
namespace Ring

variable {hash : RingHash} {ring : Ring hash}

theorem length_positions (hash : RingHash) (id : NodeId) (count : Nat) :
    (positions hash id count).length = count := by
  rw [positions, List.length_map, List.length_range]

theorem nodup_positions_iff {id : NodeId} {count : Nat} :
    (positions hash id count).Nodup ↔
      ∀ i < count, ∀ j < count, hash (label id i) = hash (label id j) → i = j := by
  rw [positions, List.nodup_map_iff_inj_on List.nodup_range]
  simp only [List.mem_range]

/-- The entries of a ring are the different positions of its members. -/
theorem Placed.entries_perm (h : ring.Placed) :
    ring.entries.Perm
      (ring.members.flatMap fun m => m.positions.dedup.map (Entry.mk · m.id)) := by
  apply (List.perm_ext_iff_of_nodup h.ascending.nodup ?_).mpr
  · intro e
    rw [h.owned, List.mem_flatMap]
    simp only [List.mem_map, List.mem_dedup]
    constructor
    · rintro ⟨m, hm, howner, hposition⟩
      exact ⟨m, hm, e.position, hposition, by rw [howner]⟩
    · rintro ⟨m, hm, p, hp, rfl⟩
      exact ⟨m, hm, rfl, hp⟩
  · rw [List.nodup_flatMap]
    constructor
    · intro m _
      apply (List.nodup_dedup m.positions).map
      intro p q heq
      exact (Entry.mk.inj heq).1
    · apply (List.pairwise_map.mp h.distinct).imp
      intro m m' hne e he he'
      obtain ⟨p, -, rfl⟩ := List.mem_map.mp he
      obtain ⟨q, -, heq⟩ := List.mem_map.mp he'
      exact hne (Entry.mk.inj heq).2.symm

theorem Placed.entryCount_eq (h : ring.Placed) :
    ring.entryCount = (ring.members.map fun m => m.positions.dedup.length).sum := by
  rw [entryCount, h.entries_perm.length_eq, List.length_flatMap]
  simp only [List.length_map]

theorem Placed.entryCount_le (h : ring.Placed) :
    ring.entryCount ≤ (ring.members.map fun m => ring.quota m.weight).sum := by
  rw [h.entryCount_eq]
  apply List.sum_le_sum
  intro m hm
  calc
    m.positions.dedup.length ≤ m.positions.length := (List.dedup_sublist _).length_le
    _ = ring.quota m.weight := by rw [h.given m hm, length_positions]

theorem Placed.entryCount_of_nodup (h : ring.Placed)
    (hnodup : ∀ m ∈ ring.members, (positions hash m.id (ring.quota m.weight)).Nodup) :
    ring.entryCount = (ring.members.map fun m => ring.quota m.weight).sum := by
  rw [h.entryCount_eq]
  congr 1
  apply List.map_congr_left
  intro m hm
  rw [h.given m hm, (hnodup m hm).dedup, length_positions]

end Ring
end CacheTier
