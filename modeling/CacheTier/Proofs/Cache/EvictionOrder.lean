import CacheTier.Proofs.Cache.Faithful

/-!
# The order of eviction

At every moment a policy has an order in which it would nominate its keys if nothing else
happened, and `EvictionPolicy.drain` reads it off.  For the built-in policies forgetting a key
takes it out of that order and leaves the others in theirs, so the order tells what will be
evicted after a key has been set apart as well.
-/

namespace CacheTier

/-! ## Ordered policies -/

/-- In the sound states the policy nominates the first of an order, and calls that take a key
out leave the rest of the order as it is. -/
structure EvictionPolicy.Ordered {σ : Type} [EvictionPolicy σ] (sound : σ → Prop)
    (order : σ → List String) : Prop where
  remove : ∀ p key, sound p → order (remove p key).1 = (order p).erase key
  evict : ∀ p, sound p → (evict p).2 = (order p).head? ∧ order (evict p).1 = (order p).tail

namespace EvictionPolicy

variable {σ : Type} [EvictionPolicy σ] {sound : σ → Prop} {order tracked : σ → List String}
  {policy : σ}

theorem Ordered.snd_go (h : Ordered sound order) (hpolicy : Faithful sound tracked)
    {fuel : Nat} (hsound : sound policy) (hfuel : (order policy).length < fuel) :
    (drain.go fuel policy).2 = order policy := by
  induction fuel generalizing policy with
  | zero => exact absurd hfuel (Nat.not_lt_zero _)
  | succ fuel ih =>
      obtain ⟨hvictim, hrest⟩ := h.evict policy hsound
      obtain ⟨hnext, -⟩ := hpolicy.evict policy hsound
      rw [drain.go]
      rcases hevict : EvictionPolicy.evict policy with ⟨next, _ | victim⟩
      · rw [hevict] at hvictim
        exact (List.head?_eq_none_iff.mp hvictim.symm).symm
      · rw [hevict] at hvictim hrest hnext
        obtain ⟨rest, horder⟩ := List.head?_eq_some_iff.mp hvictim.symm
        rw [horder, List.tail_cons] at hrest
        rw [horder, List.length_cons] at hfuel
        simp only
        rw [ih hnext (by rw [hrest]; omega), hrest, horder]

/-- Nominating until nobody is left gives the order. -/
theorem Ordered.snd_drain (h : Ordered sound order) (hpolicy : Faithful sound tracked)
    (hperm : (order policy).Perm (tracked policy)) (hsound : sound policy) :
    (drain policy).2 = order policy := by
  have hsupply := hpolicy.length_le_supply policy hsound
  rw [← hperm.length_eq] at hsupply
  exact h.snd_go hpolicy hsound (Nat.lt_succ_of_le hsupply)

end EvictionPolicy

/-! ## The least recently used first -/

namespace Lru

theorem ordered : EvictionPolicy.Ordered (fun lru : Lru => lru.Tracks lru.keysByRecency)
    fun lru => lru.keysByRecency.reverse where
  remove := by
    intro lru key h
    have hremoved : (EvictionPolicy.remove lru key).1.keysByRecency = lru.keysByRecency.erase key :=
      (h.remove key).1.keysByRecency_eq
    have hnodup := h.nodup
    rw [hremoved, hnodup.erase_eq_filter, (List.nodup_reverse.mpr hnodup).erase_eq_filter,
      List.filter_reverse]
  evict := by
    intro lru h
    obtain ⟨hevicted, hvictim⟩ := h.evict
    have hrest : (EvictionPolicy.evict lru).1.keysByRecency = lru.keysByRecency.dropLast :=
      hevicted.keysByRecency_eq
    refine ⟨?_, ?_⟩
    · rw [List.head?_reverse]
      exact hvictim
    · rw [hrest, List.tail_reverse]

end Lru

/-! ## The least frequently used first -/

namespace Lfu

variable {lfu : Lfu} {shelf : Nat → List String} {key : String} {f : Nat}

/-- The keys of a frequency, the latest placed first. -/
def keysAt (lfu : Lfu) (f : Nat) : List String :=
  ((lfu.buckets.get? f).map lfu.arena.keys).getD []

/-- The frequencies in the order in which they come up: the one that counts as the lowest, and
then the others in ascending order. -/
def frequencies (lfu : Lfu) : List Nat :=
  lfu.lowest :: lfu.buckets.keys.filter (· ≠ lfu.lowest)

/-- The tracked keys in the order of nomination: within a frequency the key that was placed
first comes first. -/
def nominations (lfu : Lfu) : List String :=
  lfu.frequencies.flatMap fun f => (lfu.keysAt f).reverse

theorem Shelved.keysAt_eq (h : lfu.Shelved shelf) (f : Nat) : lfu.keysAt f = shelf f := by
  have hmem := h.mem_buckets_iff (f := f)
  rw [← Table.contains_iff_mem_keys, Table.contains] at hmem
  rw [keysAt]
  cases hbucket : lfu.buckets.get? f with
  | none =>
      rw [hbucket] at hmem
      simpa using hmem
  | some bucket => exact h.keys_bucket hbucket

theorem Shelved.nominations_eq (h : lfu.Shelved shelf) :
    lfu.nominations = lfu.frequencies.flatMap fun f => (shelf f).reverse := by
  rw [nominations, funext h.keysAt_eq]

/-- What is filtered out of a list adds nothing to its concatenation if it stands for nothing. -/
theorem flatMap_filter_of_eq_nil {α β : Type} {p : α → Bool} {g : α → List β} {xs : List α}
    (h : ∀ x ∈ xs, p x = false → g x = []) : (xs.filter p).flatMap g = xs.flatMap g := by
  induction xs with
  | nil => rfl
  | cons x rest ih =>
      have hrest := ih fun y hy => h y (List.mem_cons_of_mem x hy)
      cases hx : p x with
      | true => rw [List.filter_cons_of_pos hx, List.flatMap_cons, List.flatMap_cons, hrest]
      | false =>
          rw [List.filter_cons_of_neg (by simp [hx]), List.flatMap_cons,
            h x List.mem_cons_self hx, List.nil_append, hrest]

theorem Shelved.ascending_buckets (h : lfu.Shelved shelf) : lfu.buckets.Ascending := by
  obtain ⟨nodes, harranged, -⟩ := h.arranged
  exact harranged.filed.ascending

theorem Shelved.nodup_frequencies (h : lfu.Shelved shelf) : lfu.frequencies.Nodup := by
  refine List.nodup_cons.mpr ⟨?_, h.ascending_buckets.nodup.filter _⟩
  simp

theorem Shelved.mem_nominations_iff (h : lfu.Shelved shelf) :
    key ∈ lfu.nominations ↔ ∃ f, key ∈ shelf f := by
  simp only [h.nominations_eq, List.mem_flatMap, List.mem_reverse]
  constructor
  · rintro ⟨f, -, hkey⟩
    exact ⟨f, hkey⟩
  · rintro ⟨f, hkey⟩
    have hbucket := h.mem_buckets_iff.mpr (List.ne_nil_of_mem hkey)
    refine ⟨f, ?_, hkey⟩
    by_cases hf : f = lfu.lowest
    · exact hf ▸ List.mem_cons_self
    · exact List.mem_cons_of_mem _ (List.mem_filter.mpr ⟨hbucket, by simpa using hf⟩)

theorem Shelved.nodup_nominations (h : lfu.Shelved shelf) : lfu.nominations.Nodup := by
  rw [h.nominations_eq, List.nodup_flatMap]
  constructor
  · intro f _
    exact List.nodup_reverse.mpr (h.nodup f)
  · refine h.nodup_frequencies.imp ?_
    intro f g hfg key hf hg
    exact hfg (h.eq_of_mem (List.mem_reverse.mp hg) (List.mem_reverse.mp hf))

theorem Shelved.nominations_perm (h : lfu.Shelved shelf) :
    lfu.nominations.Perm lfu.keysByFrequency := by
  rw [List.perm_ext_iff_of_nodup h.nodup_nominations h.nodup_keysByFrequency]
  intro key
  rw [h.mem_nominations_iff, h.mem_keysByFrequency_iff]

/-- The frequency that counts as the lowest is looked up anew when its last key goes. -/
theorem Shelved.lowest_remove (h : lfu.Shelved shelf) (hf : key ∈ shelf f) :
    (lfu.remove key).1.lowest =
      if without shelf key f = [] ∧ lfu.lowest = f then
        (lfu.remove key).1.buckets.keys.head?.getD 0
      else lfu.lowest := by
  obtain ⟨i, hget, rfl⟩ := h.mem_iff.mp hf
  rw [remove_eq_drop hget]
  simp only [h.leave_emptied_iff hget]
  split_ifs
  · rfl
  · exact lowest_leave lfu i

/-- A bucket is left exactly where a key is left. -/
theorem Shelved.keys_buckets_remove (h : lfu.Shelved shelf) (hf : key ∈ shelf f) :
    (lfu.remove key).1.buckets.keys =
      lfu.buckets.keys.filter fun g => decide (without shelf key g ≠ []) := by
  obtain ⟨hremoved, -⟩ := h.remove hf
  apply List.Pairwise.eq_of_mem_iff hremoved.ascending_buckets (h.ascending_buckets.filter _)
  intro g
  rw [List.mem_filter, hremoved.mem_buckets_iff, h.mem_buckets_iff, decide_eq_true_iff]
  exact ⟨fun hg => ⟨without_ne_nil hg, hg⟩, And.right⟩

/-- After the lowest frequency has been looked up anew, the frequencies come up in ascending
order. -/
theorem flatMap_frequencies_of_head {g : Nat → List String} (h : lfu.Shelved shelf)
    (hlowest : lfu.lowest = lfu.buckets.keys.head?.getD 0) (hg : ∀ n, shelf n = [] → g n = []) :
    lfu.frequencies.flatMap g = lfu.buckets.keys.flatMap g := by
  have hnodup := h.ascending_buckets.nodup
  have hzero : 0 ∉ lfu.buckets.keys → g 0 = [] := fun hnot =>
    hg 0 (not_not.mp (mt h.mem_buckets_iff.mpr hnot))
  rw [frequencies]
  cases hkeys : lfu.buckets.keys with
  | nil =>
      rw [hkeys] at hlowest hzero
      rw [hlowest, List.head?_nil, Option.getD_none, List.filter_nil, List.flatMap_cons,
        hzero List.not_mem_nil, List.nil_append]
  | cons first rest =>
      rw [hkeys] at hlowest hnodup
      obtain ⟨hfirst, -⟩ := List.nodup_cons.mp hnodup
      have hrest : (first :: rest).filter (fun f => decide (f ≠ first)) = rest := by
        rw [List.filter_cons_of_neg (by simp), List.filter_eq_self]
        intro f hf
        simpa using ne_of_mem_of_not_mem hf hfirst
      rw [hlowest, List.head?_cons, Option.getD_some, hrest]

/-- When a key goes, the frequencies come up as before, but for one that has no key left. -/
theorem Shelved.flatMap_frequencies_remove (h : lfu.Shelved shelf) (hf : key ∈ shelf f)
    {g : Nat → List String} (hg : ∀ n, without shelf key n = [] → g n = []) :
    (lfu.remove key).1.frequencies.flatMap g = lfu.frequencies.flatMap g := by
  obtain ⟨hremoved, -⟩ := h.remove hf
  have hkeys := h.keys_buckets_remove hf
  have hlowest := h.lowest_remove hf
  split_ifs at hlowest with hcond
  · obtain ⟨hempty, rfl⟩ := hcond
    rw [flatMap_frequencies_of_head hremoved hlowest hg, hkeys, frequencies, List.flatMap_cons,
      hg _ hempty, List.nil_append]
    rw [flatMap_filter_of_eq_nil (fun n _ hn => hg n (by simpa using hn)),
      flatMap_filter_of_eq_nil]
    intro n _ hn
    obtain rfl : n = lfu.lowest := by simpa using hn
    exact hg _ hempty
  · rw [frequencies, frequencies, hlowest, hkeys, List.flatMap_cons, List.flatMap_cons,
      List.filter_comm, flatMap_filter_of_eq_nil]
    intro n _ hn
    exact hg n (by simpa using hn)

theorem Shelved.nominations_remove (h : lfu.Shelved shelf) (hf : key ∈ shelf f) :
    (lfu.remove key).1.nominations = lfu.nominations.erase key := by
  obtain ⟨hremoved, -⟩ := h.remove hf
  rw [hremoved.nominations_eq, h.flatMap_frequencies_remove hf
    (fun n hn => by rw [hn, List.reverse_nil]), h.nodup_nominations.erase_eq_filter,
    h.nominations_eq, List.filter_flatMap]
  congr 1
  funext n
  rw [without, (h.nodup n).erase_eq_filter, List.filter_reverse]

theorem ordered :
    EvictionPolicy.Ordered (fun lfu : Lfu => ∃ shelf, lfu.Shelved shelf) nominations where
  remove := by
    rintro lfu key ⟨shelf, h⟩
    by_cases hkey : key ∈ lfu.nominations
    · obtain ⟨f, hf⟩ := h.mem_nominations_iff.mp hkey
      exact h.nominations_remove hf
    · have hnot : ∀ f, key ∉ shelf f := fun f hf => hkey (h.mem_nominations_iff.mpr ⟨f, hf⟩)
      have hsame : EvictionPolicy.remove lfu key = (lfu, false) := h.remove_of_untracked hnot
      rw [hsame, List.erase_of_not_mem hkey]
  evict := by
    rintro lfu ⟨shelf, h⟩
    by_cases hempty : ∀ f, shelf f = []
    · have hsame : EvictionPolicy.evict lfu = (lfu, none) := h.evict_of_empty hempty
      have hnone : lfu.nominations = [] := by
        rw [List.eq_nil_iff_forall_not_mem]
        intro key hkey
        obtain ⟨f, hf⟩ := h.mem_nominations_iff.mp hkey
        simp [hempty f] at hf
      rw [hsame, hnone]
      exact ⟨rfl, rfl⟩
    · obtain ⟨f, hne⟩ := not_forall.mp hempty
      obtain ⟨victim, hlast, hevict⟩ := h.evict hne
      have hsame : EvictionPolicy.evict lfu = ((lfu.remove victim).1, some victim) := hevict
      have hhead : lfu.nominations.head? = some victim := by
        rw [h.nominations_eq, frequencies, List.flatMap_cons, List.head?_append, List.head?_reverse,
          hlast, Option.some_or]
      obtain ⟨rest, horder⟩ := List.head?_eq_some_iff.mp hhead
      rw [hsame, hhead]
      refine ⟨rfl, ?_⟩
      have hrest := h.nominations_remove (List.mem_of_getLast? hlast)
      rw [horder, List.erase_cons_head] at hrest
      rw [horder, List.tail_cons]
      exact hrest

end Lfu

/-! ## Built-in policies -/

namespace BuiltinPolicy

/-- The tracked keys in the order in which they would be nominated. -/
def nominations : BuiltinPolicy → List String
  | lru s => s.keysByRecency.reverse
  | lfu s => s.nominations

theorem nominations_perm {policy : BuiltinPolicy} (h : policy.Sound) :
    policy.nominations.Perm policy.keys := by
  cases policy with
  | lru s => exact List.reverse_perm _
  | lfu s =>
      obtain ⟨shelf, hshelved⟩ := h
      exact hshelved.nominations_perm

theorem ordered : EvictionPolicy.Ordered Sound nominations where
  remove
    | lru s => Lru.ordered.remove s
    | lfu s => Lfu.ordered.remove s
  evict
    | lru s => Lru.ordered.evict s
    | lfu s => Lfu.ordered.evict s

end BuiltinPolicy
end CacheTier
