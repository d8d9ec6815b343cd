import CacheTier.Cache.Policy.Lru
import CacheTier.Proofs.Cache.KeyIndex
import CacheTier.Proofs.Cache.PolicyRun

/-!
# Recency lists

The least recently used policy behaves as a plain list of distinct keys: insertions
and hits move a key to the front, and the victim is the last key.  What the arena adds
to the list, its slots, its links and its free slots, cannot be told from outside.
-/

namespace CacheTier

/-! ## The plain list -/

/-- The tracked keys, from most to least recently used. -/
structure RecencyList where
  keys : List String
  deriving DecidableEq, Repr

namespace RecencyList

/-- Puts a key to the front. -/
def touch (list : RecencyList) (key : String) : RecencyList := ⟨key :: list.keys.erase key⟩

instance : EvictionPolicy RecencyList where
  name _ := "lru"
  insert := touch
  access list key := if key ∈ list.keys then (list.touch key, true) else (list, false)
  remove list key := (⟨list.keys.erase key⟩, decide (key ∈ list.keys))
  evict list := (⟨list.keys.dropLast⟩, list.keys.getLast?)
  clear _ := ⟨[]⟩
  size list := list.keys.length
  supply list := list.keys.length

end RecencyList

namespace Lru

variable {lru : Lru} {nodes : List Nat} {i : Nat} {key : String}

/-! ## Nodes in order of recency -/

/-- The nodes of the recency list are those in use, and the index is theirs. -/
structure Orders (lru : Lru) (nodes : List Nat) : Prop where
  wellFormed : lru.arena.WellFormed
  lists : lru.arena.Lists lru.order nodes
  inUse_iff : ∀ i, lru.arena.InUse i ↔ i ∈ nodes
  indexed : lru.arena.Indexed lru.index (· ∈ nodes)

theorem orders_empty : empty.Orders [] where
  wellFormed := Arena.wellFormed_empty
  lists := Arena.lists_empty .empty
  inUse_iff := by simp [Arena.InUse, empty, Arena.empty]
  indexed := ⟨Table.ascending_empty, by simp [empty]⟩

theorem Orders.nodup (h : lru.Orders nodes) : (nodes.map lru.arena.key).Nodup :=
  h.indexed.nodup_map h.lists.nodup fun _ hi => hi

theorem Orders.mem_keys_iff (h : lru.Orders nodes) :
    key ∈ nodes.map lru.arena.key ↔ ∃ i, lru.index.get? key = some i := by
  simp only [List.mem_map, h.indexed.get?_iff]

theorem Orders.map_erase (h : lru.Orders nodes) (hget : lru.index.get? key = some i) :
    (nodes.erase i).map lru.arena.key = (nodes.map lru.arena.key).erase key :=
  h.indexed.map_erase hget h.lists.nodup fun _ hj => hj

theorem Orders.moveToFront (h : lru.Orders nodes) (hi : i ∈ nodes) :
    (lru.moveToFront i).Orders (i :: nodes.erase i) ∧
      ∀ j, (lru.moveToFront i).arena.key j = lru.arena.key j := by
  have hunlinked := Arena.relinked_unlink lru.arena lru.order i
  have hrelinked := hunlinked.trans (Arena.relinked_pushFront _ (lru.arena.unlink lru.order i).2 i)
  have hmem : ∀ j, j ∈ i :: nodes.erase i ↔ j ∈ nodes := fun j =>
    (List.perm_cons_erase hi).symm.mem_iff
  refine ⟨⟨hrelinked.wellFormed h.wellFormed, ?_, ?_, ?_⟩, hrelinked.key⟩
  · apply (h.lists.unlink hi).pushFront
    · rw [hunlinked.size]
      exact h.lists.lt_size i hi
    · exact h.lists.nodup.not_mem_erase
  · intro j
    rw [hmem, ← h.inUse_iff]
    exact hrelinked.inUse_iff
  · exact h.indexed.congr hmem (fun j _ => hrelinked.key j)

/-- A new key gets a node of its own at the head. -/
theorem Orders.insert_new (h : lru.Orders nodes) (hnone : lru.index.get? key = none) :
    let i := (lru.arena.alloc key 0).2
    (lru.insert key).Orders (i :: nodes) ∧ (lru.insert key).arena.key i = key ∧
      ∀ j ∈ nodes, (lru.insert key).arena.key j = lru.arena.key j := by
  intro i
  have hfresh := fun j => h.wellFormed.inUse_alloc_iff (j := j) key 0
  have hrelinked := Arena.relinked_pushFront (lru.arena.alloc key 0).1 lru.order i
  have hi : i ∉ nodes := fun hmem => (hfresh i).1 ((h.inUse_iff i).mpr hmem)
  have hinUse : (lru.arena.alloc key 0).1.InUse i := (hfresh i).2.mpr (Or.inl rfl)
  have hkey : ((lru.arena.alloc key 0).1.pushFront lru.order i).1.key i = key := by
    rw [hrelinked.key, Arena.key, Arena.slot_alloc_self h.wellFormed]
  have hkeys : ∀ j ∈ nodes,
      ((lru.arena.alloc key 0).1.pushFront lru.order i).1.key j = lru.arena.key j := by
    intro j hj
    rw [hrelinked.key, Arena.key, Arena.slot_alloc key 0 ((h.inUse_iff j).mpr hj), Arena.key]
  have hlists := h.lists.alloc (fun j hj => (h.inUse_iff j).mpr hj) key 0
  simp only [Lru.insert, hnone]
  refine ⟨⟨hrelinked.wellFormed (h.wellFormed.alloc key 0), ?_, ?_, ?_⟩, hkey, hkeys⟩
  · exact hlists.pushFront hinUse.1 hi
  · intro j
    rw [hrelinked.inUse_iff, (hfresh j).2, h.inUse_iff, List.mem_cons]
  · exact h.indexed.insert hnone hkey hkeys (fun j => List.mem_cons)

/-- The node of a key goes out, and its slot is free. -/
theorem Orders.drop (h : lru.Orders nodes) (hget : lru.index.get? key = some i) :
    let unlinked := lru.arena.unlink lru.order i
    Orders ⟨(unlinked.1.release i).1, lru.index.erase key, unlinked.2⟩ (nodes.erase i) ∧
      ∀ j ∈ nodes.erase i, (unlinked.1.release i).1.key j = lru.arena.key j := by
  intro unlinked
  obtain ⟨hi, -⟩ := (h.indexed.get?_iff key i).mp hget
  have hrelinked := Arena.relinked_unlink lru.arena lru.order i
  have hinUse : unlinked.1.InUse i := hrelinked.inUse_iff.mpr ((h.inUse_iff i).mpr hi)
  have hkeys : ∀ j ≠ i, (unlinked.1.release i).1.key j = lru.arena.key j := by
    intro j hj
    rw [Arena.key, Arena.slot_release hj]
    exact hrelinked.key j
  refine ⟨⟨(hrelinked.wellFormed h.wellFormed).release hinUse, ?_, ?_, ?_⟩, ?_⟩
  · exact (h.lists.unlink hi).release h.lists.nodup.not_mem_erase
  · intro j
    rw [Arena.inUse_release_iff, hrelinked.inUse_iff, h.inUse_iff, h.lists.nodup.mem_erase_iff]
  · exact h.indexed.erase hget (fun j _ hj => hkeys j hj) (fun j => h.lists.nodup.mem_erase_iff)
  · intro j hj
    exact hkeys j (h.lists.nodup.mem_erase_iff.mp hj).1

/-! ## Keys in order of recency -/

/-- The policy tracks these keys, in order of recency. -/
def Tracks (lru : Lru) (keys : List String) : Prop :=
  ∃ nodes, lru.Orders nodes ∧ nodes.map lru.arena.key = keys

variable {keys : List String}

theorem tracks_empty : empty.Tracks [] := ⟨[], orders_empty, rfl⟩

theorem Tracks.nodup (h : lru.Tracks keys) : keys.Nodup := by
  obtain ⟨nodes, horders, rfl⟩ := h
  exact horders.nodup

theorem Tracks.keysByRecency_eq (h : lru.Tracks keys) : lru.keysByRecency = keys := by
  obtain ⟨nodes, horders, rfl⟩ := h
  exact horders.lists.keys_eq

theorem Tracks.size_eq (h : lru.Tracks keys) : lru.size = keys.length := by
  obtain ⟨nodes, horders, rfl⟩ := h
  exact horders.indexed.size_eq horders.nodup (by simp)

theorem Tracks.get?_eq_none (h : lru.Tracks keys) (hkey : key ∉ keys) :
    lru.index.get? key = none := by
  obtain ⟨nodes, horders, rfl⟩ := h
  rw [Option.eq_none_iff_forall_ne_some]
  intro i hget
  exact hkey (horders.mem_keys_iff.mpr ⟨i, hget⟩)

theorem Tracks.get?_eq_some (h : lru.Tracks keys) (hkey : key ∈ keys) :
    ∃ i, lru.index.get? key = some i := by
  obtain ⟨nodes, horders, rfl⟩ := h
  exact horders.mem_keys_iff.mp hkey

theorem Tracks.moveToFront (h : lru.Tracks keys) (hget : lru.index.get? key = some i) :
    (lru.moveToFront i).Tracks (key :: keys.erase key) := by
  obtain ⟨nodes, horders, rfl⟩ := h
  obtain ⟨hi, hkey⟩ := (horders.indexed.get?_iff key i).mp hget
  obtain ⟨hmoved, hkeys⟩ := horders.moveToFront hi
  refine ⟨_, hmoved, ?_⟩
  rw [List.map_cons, hkeys, hkey, ← horders.map_erase hget]
  congr 1
  exact List.map_congr_left fun j _ => hkeys j

theorem Tracks.insert (h : lru.Tracks keys) (key : String) :
    (lru.insert key).Tracks (key :: keys.erase key) := by
  by_cases hkey : key ∈ keys
  · obtain ⟨i, hget⟩ := h.get?_eq_some hkey
    rw [Lru.insert, hget]
    exact h.moveToFront hget
  · have hnone := h.get?_eq_none hkey
    rw [List.erase_of_not_mem hkey]
    obtain ⟨nodes, horders, rfl⟩ := h
    obtain ⟨hinserted, hnode, hkeys⟩ := horders.insert_new hnone
    refine ⟨_, hinserted, ?_⟩
    rw [List.map_cons, hnode]
    congr 1
    exact List.map_congr_left hkeys

theorem Tracks.access (h : lru.Tracks keys) (key : String) :
    (lru.access key).1.Tracks (if key ∈ keys then key :: keys.erase key else keys) ∧
      (lru.access key).2 = decide (key ∈ keys) := by
  by_cases hkey : key ∈ keys
  · obtain ⟨i, hget⟩ := h.get?_eq_some hkey
    rw [Lru.access, hget, if_pos hkey]
    exact ⟨h.moveToFront hget, by simp [hkey]⟩
  · rw [Lru.access, h.get?_eq_none hkey, if_neg hkey]
    exact ⟨h, by simp [hkey]⟩

theorem Tracks.drop (h : lru.Tracks keys) (hget : lru.index.get? key = some i) :
    let unlinked := lru.arena.unlink lru.order i
    Tracks ⟨(unlinked.1.release i).1, lru.index.erase key, unlinked.2⟩ (keys.erase key) := by
  obtain ⟨nodes, horders, rfl⟩ := h
  obtain ⟨hdropped, hkeys⟩ := horders.drop hget
  refine ⟨_, hdropped, ?_⟩
  rw [← horders.map_erase hget]
  exact List.map_congr_left hkeys

theorem Tracks.remove (h : lru.Tracks keys) (key : String) :
    (lru.remove key).1.Tracks (keys.erase key) ∧
      (lru.remove key).2 = decide (key ∈ keys) := by
  by_cases hkey : key ∈ keys
  · obtain ⟨i, hget⟩ := h.get?_eq_some hkey
    rw [Lru.remove, hget]
    exact ⟨h.drop hget, by simp [hkey]⟩
  · rw [Lru.remove, h.get?_eq_none hkey, List.erase_of_not_mem hkey]
    exact ⟨h, by simp [hkey]⟩

theorem Tracks.evict (h : lru.Tracks keys) :
    lru.evict.1.Tracks keys.dropLast ∧ lru.evict.2 = keys.getLast? := by
  obtain ⟨nodes, horders, hkeys⟩ := h
  have hback : lru.order.back? = nodes.getLast? := horders.lists.tail
  rcases List.eq_nil_or_concat' nodes with rfl | ⟨front, i, rfl⟩
  · rw [Lru.evict, hback, ← hkeys]
    exact ⟨⟨[], horders, rfl⟩, rfl⟩
  · rw [List.map_append, List.map_singleton] at hkeys
    have hget : lru.index.get? (lru.arena.key i) = some i :=
      (horders.indexed.get?_iff _ i).mpr ⟨by simp, rfl⟩
    have hvictim : ((lru.arena.unlink lru.order i).1.release i).2 = lru.arena.key i :=
      (Arena.relinked_unlink lru.arena lru.order i).key i
    have hnodup : (front.map lru.arena.key ++ [lru.arena.key i]).Nodup := by
      simpa using horders.nodup
    have hlast : keys.dropLast = keys.erase (lru.arena.key i) := by
      rw [← hkeys, List.dropLast_concat, List.erase_append_right]
      · simp
      · intro hmem
        exact (List.nodup_append.mp hnodup).2.2 _ hmem _ (by simp) rfl
    rw [Lru.evict, hback, List.getLast?_concat, hlast]
    simp only [hvictim]
    refine ⟨Tracks.drop ⟨_, horders, by simpa using hkeys⟩ hget, ?_⟩
    rw [← hkeys, List.getLast?_concat]

/-! ## Refinement -/

/-- The policy and a plain list of the keys that it tracks answer alike. -/
theorem simulation_recencyList :
    EvictionPolicy.Simulation fun _ (lru : Lru) (list : RecencyList) => lru.Tracks list.keys := by
  intro call _ lru list h
  cases call with
  | insert key => exact ⟨h.insert key, rfl⟩
  | access key =>
      obtain ⟨htracks, hknown⟩ := h.access key
      simp only [EvictionPolicy.call, EvictionPolicy.access, hknown]
      split_ifs at htracks ⊢ with hkey
      · exact ⟨htracks, by simp [hkey]⟩
      · exact ⟨htracks, by simp [hkey]⟩
  | remove key =>
      obtain ⟨htracks, hknown⟩ := h.remove key
      exact ⟨htracks, congrArg EvictionPolicy.Reply.tracked hknown⟩
  | evict =>
      obtain ⟨htracks, hvictim⟩ := h.evict
      exact ⟨htracks, congrArg EvictionPolicy.Reply.victim hvictim⟩
  | clear => exact ⟨tracks_empty, rfl⟩

/-- Every sequence of calls on a fresh policy returns what it returns on a plain list of
distinct keys, and leaves the policy with the keys of the list in the order of the
list. -/
theorem run_refines_recencyList (calls : List EvictionPolicy.Call) :
    let lru := EvictionPolicy.run Lru.empty calls
    let list := EvictionPolicy.run (RecencyList.mk []) calls
    EvictionPolicy.replies Lru.empty calls = EvictionPolicy.replies (RecencyList.mk []) calls ∧
      lru.keysByRecency = list.keys ∧ lru.size = list.keys.length ∧ list.keys.Nodup := by
  intro lru list
  obtain ⟨htracks, hreplies⟩ := simulation_recencyList.run calls 0 Lru.empty ⟨[]⟩ tracks_empty
  exact ⟨hreplies, htracks.keysByRecency_eq, htracks.size_eq, htracks.nodup⟩

end Lru
end CacheTier
