import CacheTier.Proofs.Cache.Lfu.Buckets

/-!
# Keys by frequency

Seen from outside, the least frequently used policy shelves its keys by frequency, the
latest placed first, and knows a frequency whose shelf is not empty as long as it
tracks a key at all.  That frequency is the lowest one for as long as no frequency
wraps around.
-/

namespace CacheTier
namespace Lfu

variable {lfu : Lfu} {nodes : Nat → List Nat} {shelf : Nat → List String} {i f : Nat}
  {key : String}

/-! ## Calls as moves of nodes -/

theorem leave_withIndex (lfu : Lfu) (index : Table String Nat) (i : Nat) :
    { lfu with index }.leave i = ({ (lfu.leave i).1 with index }, (lfu.leave i).2) := by
  simp only [leave]
  split
  · rfl
  · split_ifs
    · rfl
    · rfl

/-- A tracked key that is inserted again moves to the front of its bucket. -/
theorem Arranged.insert_eq_refile (h : lfu.Arranged nodes)
    (hget : lfu.index.get? key = some i) :
    lfu.insert key = lfu.refile i (lfu.arena.frequency i) := by
  obtain ⟨⟨f, hi⟩, -⟩ := (h.indexed.get?_iff key i).mp hget
  obtain ⟨-, hrelinked, -⟩ := h.filed.leave hi
  have hsame : (lfu.leave i).1.arena.setFrequency i (lfu.arena.frequency i) =
      (lfu.leave i).1.arena := by
    rw [← hrelinked.frequency]
    exact Arena.setFrequency_frequency _ i
  rw [Lfu.insert, hget, Lfu.refile, hsame]

theorem access_eq_refile (hget : lfu.index.get? key = some i) :
    lfu.access key =
      ({ lfu.refile i (raised (lfu.arena.frequency i)) with
          lowest :=
            if (lfu.leave i).2 = true ∧ lfu.lowest = lfu.arena.frequency i then
              raised (lfu.arena.frequency i)
            else lfu.lowest }, true) := by
  simp only [access, hget, refile, enter, lowest_leave, Bool.and_eq_true, beq_iff_eq]
  split_ifs
  · rfl
  · rfl

theorem remove_eq_drop (hget : lfu.index.get? key = some i) :
    lfu.remove key =
      (if (lfu.leave i).2 = true ∧ lfu.lowest = lfu.arena.frequency i then
          (lfu.drop i key).recomputeLowest
        else lfu.drop i key, true) := by
  simp only [remove, hget, leave_withIndex, drop, lowest_leave, Bool.and_eq_true, beq_iff_eq]
  split_ifs
  · rfl
  · rfl

/-- The victim is the key whose node is last in the lowest bucket, and is removed. -/
theorem Arranged.evict_eq_remove (h : lfu.Arranged nodes)
    (hlast : (nodes lfu.lowest).getLast? = some i) :
    lfu.evict = ((lfu.remove (lfu.arena.key i)).1, some (lfu.arena.key i)) := by
  have hi : i ∈ nodes lfu.lowest := List.mem_of_getLast? hlast
  have hfrequency : lfu.arena.frequency i = lfu.lowest := h.filed.frequency _ i hi
  have hget : lfu.index.get? (lfu.arena.key i) = some i :=
    (h.indexed.get?_iff _ i).mpr ⟨⟨_, hi⟩, rfl⟩
  have hsome : lfu.index.isEmpty = false := by
    by_contra hempty
    rw [Bool.not_eq_false, Table.isEmpty, List.isEmpty_iff] at hempty
    simp [Table.get?, hempty] at hget
  obtain ⟨bucket, hbucket⟩ : ∃ bucket, lfu.buckets.get? lfu.lowest = some bucket :=
    Option.isSome_iff_exists.mp ((h.filed.isSome_iff _).mpr (List.ne_nil_of_mem hi))
  have hback : bucket.back? = some i := (h.filed.lists _ bucket hbucket).tail.trans hlast
  have hkey : (lfu.arena.unlink bucket i).1.key i = lfu.arena.key i :=
    (Arena.relinked_unlink lfu.arena bucket i).key i
  have hleave : lfu.leave i = if (lfu.arena.unlink bucket i).2.isEmpty then
      ({ lfu with
          arena := (lfu.arena.unlink bucket i).1
          buckets := lfu.buckets.erase lfu.lowest }, true)
    else
      ({ lfu with
          arena := (lfu.arena.unlink bucket i).1
          buckets := lfu.buckets.insert lfu.lowest (lfu.arena.unlink bucket i).2 }, false) := by
    rw [leave, hfrequency, hbucket]
  rw [remove_eq_drop hget, Lfu.drop, hleave, hfrequency, ← hkey]
  have hvictim : lfu.victim? = some (bucket, i) := by
    simp [victim?, hbucket, hback]
  simp only [Lfu.evict, hsome, hvictim]
  by_cases hempty : (lfu.arena.unlink bucket i).2.isEmpty = true
  · simp only [hempty]
    rfl
  · simp only [hempty]
    rfl

/-! ## Shelves of keys -/

/-- The keys of each frequency are those on its shelf, and the frequency that counts as
the lowest has a key if any has. -/
structure Shelved (lfu : Lfu) (shelf : Nat → List String) : Prop where
  arranged : ∃ nodes, lfu.Arranged nodes ∧ ∀ f, (nodes f).map lfu.arena.key = shelf f
  lowest : ∀ f, shelf f ≠ [] → shelf lfu.lowest ≠ []

theorem shelved_empty : empty.Shelved fun _ => [] where
  arranged := ⟨_, arranged_empty, fun _ => rfl⟩
  lowest _ h := absurd rfl h

/-- No tracked key has a frequency below the one that counts as the lowest. -/
def Bottomed (lfu : Lfu) (shelf : Nat → List String) : Prop :=
  ∀ f, shelf f ≠ [] → lfu.lowest ≤ f

theorem without_ne_nil {n : Nat} (h : without shelf key n ≠ []) : shelf n ≠ [] := by
  intro hempty
  simp [without, hempty] at h

/-- Nothing comes to lie below the lowest frequency if a key stays where it is or goes
up by one. -/
theorem Bottomed.place (h : lfu.Bottomed shelf) (hf : key ∈ shelf f) {g : Nat}
    (hg : g = f ∨ g = f + 1) :
    ∀ n, place (without shelf key) g key n ≠ [] →
      (if without shelf key f = [] ∧ lfu.lowest = f then g else lfu.lowest) ≤ n := by
  intro n hn
  have hfn : lfu.lowest ≤ f := h f (List.ne_nil_of_mem hf)
  rcases place_ne_nil_iff.mp hn with rfl | hn
  · split_ifs
    · exact Nat.le_refl n
    · omega
  · have hlow : lfu.lowest ≤ n := h n (without_ne_nil hn)
    split_ifs with hcond
    · obtain ⟨hempty, rfl⟩ := hcond
      have hne : n ≠ lfu.lowest := by
        rintro rfl
        exact hn hempty
      omega
    · exact hlow

/-- After taking the lowest frequency from the buckets, it is the lowest. -/
theorem Arranged.recomputeLowest (h : lfu.Arranged nodes)
    (hshelf : ∀ f, (nodes f).map lfu.arena.key = shelf f) :
    lfu.recomputeLowest.Shelved shelf ∧ lfu.recomputeLowest.Bottomed shelf := by
  have hkeys : ∀ f, f ∈ lfu.buckets.keys ↔ shelf f ≠ [] := by
    intro f
    rw [h.filed.mem_keys_iff, ← hshelf, Ne, Ne, List.map_eq_nil_iff]
  have hascending := h.filed.ascending
  rw [Table.Ascending] at hascending
  have harranged : lfu.recomputeLowest.Arranged nodes :=
    ⟨h.filed, h.inUse_iff, h.indexed⟩
  cases hbuckets : lfu.buckets.keys with
  | nil =>
      have hnone : ∀ f, ¬ shelf f ≠ [] := by simp [← hkeys, hbuckets]
      exact ⟨⟨⟨nodes, harranged, hshelf⟩, fun f hf => absurd hf (hnone f)⟩,
        fun f hf => absurd hf (hnone f)⟩
  | cons first rest =>
      have hlowest : lfu.recomputeLowest.lowest = first := by
        rw [Lfu.recomputeLowest, hbuckets]
        rfl
      refine ⟨⟨⟨nodes, harranged, hshelf⟩, ?_⟩, ?_⟩
      · intro _ _
        rw [hlowest, ← hkeys, hbuckets]
        exact List.mem_cons_self
      · intro f hf
        rw [hlowest]
        rw [← hkeys, hbuckets] at hf
        rw [hbuckets, List.pairwise_cons] at hascending
        rcases List.mem_cons.mp hf with rfl | hf
        · exact Nat.le_refl f
        · exact Nat.le_of_lt (hascending.1 f hf)

namespace Shelved

theorem nodup (h : lfu.Shelved shelf) (f : Nat) : (shelf f).Nodup := by
  obtain ⟨nodes, harranged, hshelf⟩ := h.arranged
  rw [← hshelf]
  exact harranged.indexed.nodup_map (harranged.filed.nodup f) fun i hi => ⟨f, hi⟩

theorem mem_iff (h : lfu.Shelved shelf) :
    key ∈ shelf f ↔ ∃ i, lfu.index.get? key = some i ∧ lfu.arena.frequency i = f := by
  obtain ⟨nodes, harranged, hshelf⟩ := h.arranged
  rw [← hshelf, List.mem_map]
  constructor
  · rintro ⟨i, hi, rfl⟩
    exact ⟨i, (harranged.indexed.get?_iff _ i).mpr ⟨⟨f, hi⟩, rfl⟩, harranged.filed.frequency f i hi⟩
  · rintro ⟨i, hget, rfl⟩
    exact ⟨i, harranged.get?_eq_some_iff.mp hget⟩

theorem frequency?_eq_some_iff (h : lfu.Shelved shelf) :
    lfu.frequency? key = some f ↔ key ∈ shelf f := by
  rw [h.mem_iff, frequency?, Option.map_eq_some_iff]

theorem eq_of_mem (h : lfu.Shelved shelf) {g : Nat} (hf : key ∈ shelf f) (hg : key ∈ shelf g) :
    g = f := by
  rw [← h.frequency?_eq_some_iff] at hf hg
  exact Option.some.inj (hg.symm.trans hf)

theorem mem_buckets_iff (h : lfu.Shelved shelf) : f ∈ lfu.buckets.keys ↔ shelf f ≠ [] := by
  obtain ⟨nodes, harranged, hshelf⟩ := h.arranged
  rw [harranged.filed.mem_keys_iff, ← hshelf, Ne, Ne, List.map_eq_nil_iff]

theorem keys_bucket (h : lfu.Shelved shelf) {bucket : ArenaList}
    (hbucket : lfu.buckets.get? f = some bucket) : lfu.arena.keys bucket = shelf f := by
  obtain ⟨nodes, harranged, hshelf⟩ := h.arranged
  rw [← hshelf]
  exact (harranged.filed.lists f bucket hbucket).keys_eq

theorem size_eq (h : lfu.Shelved shelf) {keys : List String} (hnodup : keys.Nodup)
    (hmem : ∀ key, key ∈ keys ↔ ∃ f, key ∈ shelf f) : lfu.size = keys.length := by
  obtain ⟨nodes, harranged, hshelf⟩ := h.arranged
  apply harranged.indexed.size_eq hnodup
  intro key
  rw [hmem]
  simp only [← hshelf, List.mem_map]
  constructor
  · rintro ⟨f, i, hi, hkey⟩
    exact ⟨i, ⟨f, hi⟩, hkey⟩
  · rintro ⟨i, ⟨f, hi⟩, hkey⟩
    exact ⟨f, i, hi, hkey⟩

/-! ### Moving a key -/

/-- Where a key leaves the lowest frequency empty for another one, that one takes its
place. -/
theorem lowest_place (h : lfu.Shelved shelf) (hf : key ∈ shelf f) (g : Nat) :
    place (without shelf key) g key
      (if without shelf key f = [] ∧ lfu.lowest = f then g else lfu.lowest) ≠ [] := by
  rw [place_ne_nil_iff]
  split_ifs with hlow
  · exact Or.inl rfl
  · right
    by_cases hlowest : lfu.lowest = f
    · rw [hlowest]
      exact fun hempty => hlow ⟨hempty, hlowest⟩
    · have hnot : key ∉ shelf lfu.lowest := fun hmem => hlowest (h.eq_of_mem hf hmem)
      rw [without, List.erase_of_not_mem hnot]
      exact h.lowest f (List.ne_nil_of_mem hf)

/-! ### Calls -/

theorem get?_eq_none_iff (h : lfu.Shelved shelf) :
    lfu.index.get? key = none ↔ ∀ f, key ∉ shelf f := by
  rw [Option.eq_none_iff_forall_ne_some]
  constructor
  · intro hnone f hmem
    obtain ⟨i, hget, -⟩ := h.mem_iff.mp hmem
    exact hnone i hget
  · intro hnot i hget
    exact hnot _ (h.mem_iff.mpr ⟨i, hget, rfl⟩)

/-- A node that goes to another frequency takes its key there. -/
theorem refile (h : lfu.Shelved shelf) (hget : lfu.index.get? key = some i) (g : Nat) :
    ∃ nodes, (lfu.refile i g).Arranged nodes ∧
      ∀ f, (nodes f).map (lfu.refile i g).arena.key = place (without shelf key) g key f := by
  obtain ⟨nodes, harranged, hshelf⟩ := h.arranged
  obtain ⟨⟨f, hi⟩, hkey⟩ := (harranged.indexed.get?_iff key i).mp hget
  obtain ⟨hrefiled, hkeys⟩ := harranged.refile hi g
  refine ⟨_, hrefiled, ?_⟩
  intro n
  have hrest : (fun n => (without nodes i n).map (lfu.refile i g).arena.key) =
      without shelf key := by
    funext n
    rw [List.map_congr_left fun j _ => hkeys j, without, without, ← hshelf]
    exact harranged.indexed.map_erase hget (harranged.filed.nodup n) fun j hj => ⟨n, hj⟩
  rw [map_place, hrest, hkeys, hkey]

/-- A bucket is dropped when it has no other key. -/
theorem leave_emptied_iff (h : lfu.Shelved shelf) (hget : lfu.index.get? key = some i) :
    (lfu.leave i).2 = true ↔ without shelf key (lfu.arena.frequency i) = [] := by
  obtain ⟨nodes, harranged, hshelf⟩ := h.arranged
  have hi := (harranged.get?_eq_some_iff.mp hget).1
  obtain ⟨-, -, hemptied⟩ := harranged.filed.leave hi
  rw [hemptied, decide_eq_true_iff, without, without, ← hshelf,
    ← harranged.indexed.map_erase hget (harranged.filed.nodup _) fun j hj => ⟨_, hj⟩,
    List.map_eq_nil_iff]

/-- A key that is inserted comes first at the frequency that it has, or at zero. -/
theorem insert (h : lfu.Shelved shelf) (key : String) :
    let shelf' := place (without shelf key) ((lfu.frequency? key).getD 0) key
    (lfu.insert key).Shelved shelf' ∧
      (lfu.Bottomed shelf → (lfu.insert key).Bottomed shelf') := by
  intro shelf'
  obtain ⟨nodes, harranged, hshelf⟩ := h.arranged
  cases hget : lfu.index.get? key with
  | none =>
      have hnot := h.get?_eq_none_iff.mp hget
      have hshelf' : shelf' = place shelf 0 key := by
        have hsame : without shelf key = shelf := funext fun f => List.erase_of_not_mem (hnot f)
        simp only [shelf', frequency?, hget, hsame, Option.map_none, Option.getD_none]
      have hlowest : (lfu.insert key).lowest = 0 := by rw [Lfu.insert, hget]
      obtain ⟨hinserted, hnode, hkeys⟩ := harranged.insert_new hget
      have hrest : (fun f => (nodes f).map (lfu.insert key).arena.key) = shelf := by
        funext f
        rw [← hshelf]
        exact List.map_congr_left (hkeys f)
      rw [hshelf']
      refine ⟨⟨⟨_, hinserted, ?_⟩, ?_⟩, ?_⟩
      · intro f
        rw [map_place, hnode, hrest]
      · intro f _
        rw [hlowest, place_ne_nil_iff]
        exact Or.inl rfl
      · intro _ f _
        rw [hlowest]
        exact Nat.zero_le f
  | some i =>
      have hf : key ∈ shelf (lfu.arena.frequency i) := h.mem_iff.mpr ⟨i, hget, rfl⟩
      have hshelf' : shelf' = place (without shelf key) (lfu.arena.frequency i) key := by
        simp only [shelf', frequency?, hget, Option.map_some, Option.getD_some]
      have hlowest : (lfu.insert key).lowest =
          if without shelf key (lfu.arena.frequency i) = [] ∧
            lfu.lowest = lfu.arena.frequency i then lfu.arena.frequency i else lfu.lowest := by
        rw [harranged.insert_eq_refile hget]
        split_ifs with hcond
        · exact (lowest_leave lfu i).trans hcond.2
        · exact lowest_leave lfu i
      rw [hshelf']
      refine ⟨⟨?_, ?_⟩, ?_⟩
      · rw [harranged.insert_eq_refile hget]
        exact h.refile hget _
      · intro _ _
        rw [hlowest]
        exact h.lowest_place hf _
      · intro hbottom
        rw [Bottomed, hlowest]
        exact hbottom.place hf (Or.inl rfl)

/-- A hit takes a key to the front of the next frequency. -/
theorem access (h : lfu.Shelved shelf) (hf : key ∈ shelf f) :
    let shelf' := place (without shelf key) (raised f) key
    (lfu.access key).1.Shelved shelf' ∧ (lfu.access key).2 = true ∧
      (f + 1 < UInt64.size → lfu.Bottomed shelf → (lfu.access key).1.Bottomed shelf') := by
  intro shelf'
  obtain ⟨i, hget, rfl⟩ := h.mem_iff.mp hf
  rw [access_eq_refile hget]
  simp only [h.leave_emptied_iff hget]
  refine ⟨⟨?_, ?_⟩, trivial, ?_⟩
  · obtain ⟨nodes, harranged, hshelf'⟩ := h.refile hget (raised (lfu.arena.frequency i))
    exact ⟨nodes, ⟨harranged.filed, harranged.inUse_iff, harranged.indexed⟩, hshelf'⟩
  · intro _ _
    exact h.lowest_place hf _
  · intro hbound hbottom
    exact hbottom.place hf (Or.inr (Nat.mod_eq_of_lt hbound))

theorem access_of_untracked (h : lfu.Shelved shelf) (hnot : ∀ f, key ∉ shelf f) :
    lfu.access key = (lfu, false) := by
  rw [Lfu.access, h.get?_eq_none_iff.mpr hnot]

/-- A removed key leaves its shelf. -/
theorem remove (h : lfu.Shelved shelf) (hf : key ∈ shelf f) :
    (lfu.remove key).1.Shelved (without shelf key) ∧ (lfu.remove key).2 = true ∧
      (lfu.Bottomed shelf → (lfu.remove key).1.Bottomed (without shelf key)) := by
  obtain ⟨i, hget, rfl⟩ := h.mem_iff.mp hf
  obtain ⟨nodes, harranged, hshelf⟩ := h.arranged
  obtain ⟨hdropped, hkeys⟩ := harranged.drop hget
  have hshelf' : ∀ f, (without nodes i f).map (lfu.drop i key).arena.key =
      without shelf key f := by
    intro f
    rw [List.map_congr_left (hkeys f), without, without, ← hshelf]
    exact harranged.indexed.map_erase hget (harranged.filed.nodup f) fun j hj => ⟨f, hj⟩
  have hlowest : (lfu.drop i key).lowest = lfu.lowest := lowest_leave lfu i
  rw [remove_eq_drop hget]
  simp only [h.leave_emptied_iff hget]
  split_ifs with hcond
  · obtain ⟨hshelved, hbottomed⟩ := hdropped.recomputeLowest hshelf'
    exact ⟨hshelved, trivial, fun _ => hbottomed⟩
  · refine ⟨⟨⟨_, hdropped, hshelf'⟩, ?_⟩, trivial, ?_⟩
    · intro _ _
      rw [hlowest]
      by_cases heq : lfu.lowest = lfu.arena.frequency i
      · rw [heq]
        exact fun hempty => hcond ⟨hempty, heq⟩
      · have hnot : key ∉ shelf lfu.lowest := fun hmem => heq (h.eq_of_mem hf hmem)
        rw [without, List.erase_of_not_mem hnot]
        exact h.lowest _ (List.ne_nil_of_mem hf)
    · intro hbottom f hne
      rw [hlowest]
      exact hbottom f (without_ne_nil hne)

theorem remove_of_untracked (h : lfu.Shelved shelf) (hnot : ∀ f, key ∉ shelf f) :
    lfu.remove key = (lfu, false) := by
  rw [Lfu.remove, h.get?_eq_none_iff.mpr hnot]

/-- While a key is tracked there is a victim, the key that was placed first of those at
the frequency that counts as the lowest. -/
theorem evict (h : lfu.Shelved shelf) (hne : shelf f ≠ []) :
    ∃ victim, (shelf lfu.lowest).getLast? = some victim ∧
      lfu.evict = ((lfu.remove victim).1, some victim) := by
  obtain ⟨nodes, harranged, hshelf⟩ := h.arranged
  have hlowest : nodes lfu.lowest ≠ [] := by
    intro hempty
    apply h.lowest f hne
    rw [← hshelf, hempty, List.map_nil]
  obtain ⟨i, hlast⟩ : ∃ i, (nodes lfu.lowest).getLast? = some i :=
    ⟨_, List.getLast?_eq_some_getLast hlowest⟩
  refine ⟨lfu.arena.key i, ?_, harranged.evict_eq_remove hlast⟩
  rw [← hshelf, List.getLast?_map, hlast, Option.map_some]

theorem evict_of_empty (h : lfu.Shelved shelf) (hempty : ∀ f, shelf f = []) :
    lfu.evict = (lfu, none) := by
  have hsize : lfu.size = 0 := h.size_eq List.nodup_nil (by simp [hempty])
  have hisEmpty : lfu.index.isEmpty = true := by
    rw [Table.isEmpty, List.isEmpty_iff_length_eq_zero]
    exact hsize
  rw [Lfu.evict, if_pos hisEmpty]

end Shelved

end Lfu
end CacheTier
