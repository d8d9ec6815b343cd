import CacheTier.Proofs.Cache.Arena
import CacheTier.Proofs.Table
import Mathlib.Data.String.Basic

/-!
# Indexes of an arena's nodes

A policy finds the node of a key in an index.  The index is that of some nodes when
it maps the key of each of them to the node and has no other key; no two of them then
have the same key.
-/

namespace CacheTier

/-- The index maps the keys of these nodes to the nodes, and has no other key. -/
structure Arena.Indexed (arena : Arena) (index : Table String Nat) (used : Nat → Prop) :
    Prop where
  ascending : index.Ascending
  get?_iff : ∀ key i, index.get? key = some i ↔ used i ∧ arena.key i = key

namespace Arena.Indexed

variable {arena other : Arena} {index : Table String Nat} {used used' : Nat → Prop} {i : Nat}
  {key : String}

theorem get?_eq_none_iff (h : arena.Indexed index used) :
    index.get? key = none ↔ ∀ i, used i → arena.key i ≠ key := by
  simp only [Option.eq_none_iff_forall_ne_some, ne_eq, h.get?_iff, not_and]

/-- Nodes with the same key are the same. -/
theorem key_inj (h : arena.Indexed index used) {j : Nat} (hi : used i) (hj : used j)
    (hkey : arena.key i = arena.key j) : i = j := by
  have hgeti := (h.get?_iff (arena.key j) i).mpr ⟨hi, hkey⟩
  have hgetj := (h.get?_iff (arena.key j) j).mpr ⟨hj, rfl⟩
  exact Option.some.inj (hgeti.symm.trans hgetj)

/-- Different nodes have different keys. -/
theorem nodup_map (h : arena.Indexed index used) {nodes : List Nat} (hnodup : nodes.Nodup)
    (hused : ∀ i ∈ nodes, used i) : (nodes.map arena.key).Nodup :=
  List.Nodup.map_on (fun i hi j hj hkey => h.key_inj (hused i hi) (hused j hj) hkey) hnodup

/-- Erasing a node erases its key. -/
theorem map_erase (h : arena.Indexed index used) (hget : index.get? key = some i)
    {nodes : List Nat} (hnodup : nodes.Nodup) (hused : ∀ j ∈ nodes, used j) :
    (nodes.erase i).map arena.key = (nodes.map arena.key).erase key := by
  obtain ⟨hi, rfl⟩ := (h.get?_iff key i).mp hget
  rw [hnodup.erase_eq_filter, (h.nodup_map hnodup hused).erase_eq_filter, List.filter_map]
  congr 1
  apply List.filter_congr
  intro j hj
  have hsame : j = i ↔ arena.key j = arena.key i :=
    ⟨congrArg arena.key, h.key_inj (hused j hj) hi⟩
  rw [Function.comp_apply, Bool.eq_iff_iff, bne_iff_ne, bne_iff_ne, Ne, hsame]

theorem congr (h : arena.Indexed index used) (hused : ∀ i, used' i ↔ used i)
    (hkey : ∀ i, used i → other.key i = arena.key i) : other.Indexed index used' := by
  refine ⟨h.ascending, ?_⟩
  intro key i
  rw [h.get?_iff, hused]
  refine and_congr_right ?_
  intro hi
  rw [hkey i hi]

/-- A node with a new key comes in. -/
theorem insert (h : arena.Indexed index used) (hnone : index.get? key = none)
    (hnode : other.key i = key) (hkey : ∀ j, used j → other.key j = arena.key j)
    (hused : ∀ j, used' j ↔ j = i ∨ used j) :
    other.Indexed (index.insert key i) used' := by
  refine ⟨Table.ascending_insert h.ascending key i, ?_⟩
  intro key' j
  rw [Table.get?_insert, hused]
  split_ifs with hk
  · subst hk
    constructor
    · intro heq
      obtain rfl := Option.some.inj heq
      exact ⟨Or.inl rfl, hnode⟩
    · rintro ⟨rfl | hj, hjkey⟩
      · rfl
      · rw [hkey j hj] at hjkey
        exact absurd hjkey (h.get?_eq_none_iff.mp hnone j hj)
  · rw [h.get?_iff]
    constructor
    · rintro ⟨hj, rfl⟩
      exact ⟨Or.inr hj, hkey j hj⟩
    · rintro ⟨rfl | hj, rfl⟩
      · exact absurd hnode hk
      · exact ⟨hj, (hkey j hj).symm⟩

/-- A node goes out. -/
theorem erase (h : arena.Indexed index used) (hget : index.get? key = some i)
    (hkey : ∀ j, used j → j ≠ i → other.key j = arena.key j)
    (hused : ∀ j, used' j ↔ j ≠ i ∧ used j) :
    other.Indexed (index.erase key) used' := by
  obtain ⟨hi, hikey⟩ := (h.get?_iff key i).mp hget
  refine ⟨Table.ascending_erase h.ascending key, ?_⟩
  intro key' j
  rw [Table.get?_erase, hused]
  split_ifs with hk
  · subst hk
    refine ⟨fun heq => absurd heq (by simp), ?_⟩
    rintro ⟨⟨hne, hj⟩, hjkey⟩
    rw [hkey j hj hne] at hjkey
    exact absurd (h.key_inj hj hi (hjkey.trans hikey.symm)) hne
  · rw [h.get?_iff]
    constructor
    · rintro ⟨hj, rfl⟩
      have hne : j ≠ i := by
        rintro rfl
        exact hk hikey
      exact ⟨⟨hne, hj⟩, hkey j hj hne⟩
    · rintro ⟨⟨hne, hj⟩, rfl⟩
      exact ⟨hj, (hkey j hj hne).symm⟩

/-- An index has as many keys as there are different keys of its nodes. -/
theorem size_eq (h : arena.Indexed index used) {keys : List String} (hnodup : keys.Nodup)
    (hmem : ∀ key, key ∈ keys ↔ ∃ i, used i ∧ arena.key i = key) :
    index.size = keys.length := by
  have hperm : index.keys.Perm keys := by
    rw [List.perm_ext_iff_of_nodup h.ascending.nodup hnodup]
    intro key
    rw [← Table.contains_iff_mem_keys, Table.contains, Option.isSome_iff_exists, hmem]
    simp only [h.get?_iff]
  rw [← hperm.length_eq]
  simp [Table.size, Table.keys]

/-- An index of the nodes in use has as many keys as there are slots in use. -/
theorem live_eq_size (h : arena.Indexed index used) (hwell : arena.WellFormed)
    (hused : ∀ i, arena.InUse i ↔ used i) : arena.live = index.size := by
  have hmem : ∀ i, i ∈ arena.used ↔ used i := fun i => mem_used_iff.trans (hused i)
  have hnodup := h.nodup_map (nodup_used arena) fun i hi => (hmem i).mp hi
  have hsize := h.size_eq hnodup fun key => by simp only [List.mem_map, hmem]
  rw [hwell.live_eq, hsize, List.length_map]

end Arena.Indexed
end CacheTier
