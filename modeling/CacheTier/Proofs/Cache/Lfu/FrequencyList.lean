import CacheTier.Proofs.Cache.Lfu.Shelves
import CacheTier.Proofs.Cache.PolicyRun

/-!
# Frequency lists

The least frequently used policy behaves as a plain list of keys with their numbers of
hits, in the order in which they were placed: the victim is, among the keys with the
fewest hits, the one placed longest ago.  The policy counts hits in words that wrap
around, so this holds for runs with less hits than there are words.
-/

namespace CacheTier

/-! ## The plain list -/

/-- The tracked keys with their numbers of hits, the latest placed first. -/
structure FrequencyList where
  entries : List (String × Nat)
  deriving DecidableEq, Repr

namespace FrequencyList

/-- The number of hits of a tracked key. -/
def frequency? (list : FrequencyList) (key : String) : Option Nat :=
  (list.entries.find? (·.1 == key)).map Prod.snd

/-- The keys with a number of hits. -/
def keysAt (list : FrequencyList) (f : Nat) : List String :=
  (list.entries.filter (·.2 == f)).map Prod.fst

/-- The list without a key. -/
def drop (list : FrequencyList) (key : String) : FrequencyList :=
  ⟨list.entries.filter (·.1 != key)⟩

/-- Places a key with a number of hits. -/
def place (list : FrequencyList) (key : String) (f : Nat) : FrequencyList :=
  ⟨(key, f) :: (list.drop key).entries⟩

/-- The smallest number of hits of a tracked key. -/
def least? (list : FrequencyList) : Option Nat := (list.entries.map Prod.snd).min?

/-- Of the keys with the fewest hits, the one placed longest ago. -/
def victim? (list : FrequencyList) : Option String :=
  list.least?.bind fun f => (list.keysAt f).getLast?

instance : EvictionPolicy FrequencyList where
  name _ := "lfu"
  insert list key := list.place key ((list.frequency? key).getD 0)
  access list key :=
    match list.frequency? key with
    | some f => (list.place key (f + 1), true)
    | none => (list, false)
  remove list key := (list.drop key, (list.frequency? key).isSome)
  evict list :=
    match list.victim? with
    | some key => (list.drop key, some key)
    | none => (list, none)
  clear _ := ⟨[]⟩
  size list := list.entries.length
  supply list := list.entries.length

/-! ## Keys by number of hits -/

/-- No key is listed twice. -/
def Distinct (list : FrequencyList) : Prop := (list.entries.map Prod.fst).Nodup

variable {list : FrequencyList} {key : String} {f : Nat}

theorem mem_keysAt_iff : key ∈ list.keysAt f ↔ (key, f) ∈ list.entries := by
  simp [keysAt]

theorem Distinct.frequency?_eq_some_iff (h : list.Distinct) :
    list.frequency? key = some f ↔ (key, f) ∈ list.entries := by
  rw [frequency?, Option.map_eq_some_iff]
  simp only [Table.find?_eq_some_iff_of_nodup_map h]
  constructor
  · rintro ⟨pair, ⟨hmem, rfl⟩, rfl⟩
    exact hmem
  · intro hmem
    exact ⟨_, ⟨hmem, rfl⟩, rfl⟩

theorem Distinct.nodup_keysAt (h : list.Distinct) (f : Nat) : (list.keysAt f).Nodup :=
  List.Nodup.sublist (List.filter_sublist.map Prod.fst) h

theorem Distinct.drop (h : list.Distinct) (key : String) : (list.drop key).Distinct :=
  List.Nodup.sublist (List.filter_sublist.map Prod.fst) h

theorem Distinct.keysAt_drop (h : list.Distinct) (key : String) :
    (list.drop key).keysAt = Lfu.without list.keysAt key := by
  funext f
  rw [Lfu.without, (h.nodup_keysAt f).erase_eq_filter, keysAt, keysAt, List.filter_map,
    FrequencyList.drop, List.filter_comm]
  rfl

theorem Distinct.place (h : list.Distinct) (key : String) (f : Nat) :
    (list.place key f).Distinct := by
  refine List.nodup_cons.mpr ⟨?_, h.drop key⟩
  simp [FrequencyList.drop]

theorem Distinct.keysAt_place (h : list.Distinct) (key : String) (f : Nat) :
    (list.place key f).keysAt = Lfu.place (Lfu.without list.keysAt key) f key := by
  funext g
  rw [Lfu.place, ← h.keysAt_drop, keysAt, FrequencyList.place, List.filter_cons]
  split_ifs with hf hg hg
  · rfl
  · simp_all
  · simp_all
  · rfl

theorem mem_entries_place {pair : String × Nat} (h : pair ∈ (list.place key f).entries) :
    pair = (key, f) ∨ pair ∈ list.entries := by
  rcases List.mem_cons.mp h with heq | hmem
  · exact Or.inl heq
  · exact Or.inr (List.mem_of_mem_filter hmem)

end FrequencyList

namespace Lfu

variable {lfu : Lfu} {list : FrequencyList} {hits : Nat} {key : String}

/-! ## Agreement -/

/-- The policy shelves the keys of the list by their hits, and will not come to the end of
its words with this many further hits. -/
structure Counts (hits : Nat) (lfu : Lfu) (list : FrequencyList) : Prop where
  distinct : list.Distinct
  shelved : lfu.Shelved list.keysAt
  bottomed : lfu.Bottomed list.keysAt
  hits_lt : hits < UInt64.size
  bound : ∀ pair ∈ list.entries, pair.2 + hits < UInt64.size

namespace Counts

theorem frequency?_eq (h : Counts hits lfu list) (key : String) :
    lfu.frequency? key = list.frequency? key := by
  apply Option.ext
  intro f
  rw [h.shelved.frequency?_eq_some_iff, h.distinct.frequency?_eq_some_iff,
    FrequencyList.mem_keysAt_iff]

theorem size_eq (h : Counts hits lfu list) : lfu.size = list.entries.length := by
  rw [h.shelved.size_eq h.distinct, List.length_map]
  intro key
  simp [FrequencyList.mem_keysAt_iff]

theorem keysAt_ne_nil (h : Counts hits lfu list) (hne : list.entries ≠ []) :
    list.keysAt lfu.lowest ≠ [] := by
  obtain ⟨⟨key, f⟩, hmem⟩ := List.exists_mem_of_ne_nil list.entries hne
  exact h.shelved.lowest f (List.ne_nil_of_mem (FrequencyList.mem_keysAt_iff.mpr hmem))

/-- The frequency that counts as the lowest is the smallest number of hits. -/
theorem least?_eq (h : Counts hits lfu list) (hne : list.entries ≠ []) :
    list.least? = some lfu.lowest := by
  rw [FrequencyList.least?, List.min?_eq_some_iff]
  constructor
  · obtain ⟨key, hkey⟩ := List.exists_mem_of_ne_nil _ (h.keysAt_ne_nil hne)
    exact List.mem_map.mpr ⟨_, FrequencyList.mem_keysAt_iff.mp hkey, rfl⟩
  · intro f hf
    obtain ⟨⟨key, f⟩, hmem, rfl⟩ := List.mem_map.mp hf
    exact h.bottomed f (List.ne_nil_of_mem (FrequencyList.mem_keysAt_iff.mpr hmem))

theorem leastFrequency?_eq (h : Counts hits lfu list) : lfu.leastFrequency? = list.least? := by
  have hsize := h.size_eq
  rw [size, Table.size] at hsize
  by_cases hempty : list.entries = []
  · have hindex : lfu.index.isEmpty = true := by
      rw [Table.isEmpty, List.isEmpty_iff_length_eq_zero, hsize, hempty, List.length_nil]
    rw [leastFrequency?, if_pos hindex, FrequencyList.least?, hempty]
    rfl
  · have hindex : ¬ lfu.index.isEmpty = true := by
      rw [Table.isEmpty, List.isEmpty_iff_length_eq_zero, hsize, List.length_eq_zero_iff]
      exact hempty
    rw [leastFrequency?, if_neg hindex, h.least?_eq hempty]

/-! ### Calls -/

theorem of_fewer {more : Nat} (h : Counts (more + hits) lfu list) : Counts hits lfu list where
  distinct := h.distinct
  shelved := h.shelved
  bottomed := h.bottomed
  hits_lt := by
    have := h.hits_lt
    omega
  bound := by
    intro pair hpair
    have := h.bound pair hpair
    omega

theorem insert (h : Counts hits lfu list) (key : String) :
    Counts hits (lfu.insert key) (list.place key ((list.frequency? key).getD 0)) := by
  obtain ⟨hshelved, hbottomed⟩ := h.shelved.insert key
  rw [h.frequency?_eq, ← h.distinct.keysAt_place] at hshelved hbottomed
  refine ⟨h.distinct.place key _, hshelved, hbottomed h.bottomed, h.hits_lt, ?_⟩
  intro pair hpair
  rcases FrequencyList.mem_entries_place hpair with rfl | hpair
  · cases hf : list.frequency? key with
    | none => simpa using h.hits_lt
    | some f => exact h.bound _ (h.distinct.frequency?_eq_some_iff.mp hf)
  · exact h.bound pair hpair

theorem access {f : Nat} (h : Counts (1 + hits) lfu list) (hf : list.frequency? key = some f) :
    Counts hits (lfu.access key).1 (list.place key (f + 1)) ∧ (lfu.access key).2 = true := by
  have hmem := h.distinct.frequency?_eq_some_iff.mp hf
  have hbound : f + (1 + hits) < UInt64.size := h.bound _ hmem
  have hraised : raised f = f + 1 := Nat.mod_eq_of_lt (by omega)
  obtain ⟨hshelved, hknown, hbottomed⟩ :=
    h.shelved.access (FrequencyList.mem_keysAt_iff.mpr hmem)
  rw [hraised, ← h.distinct.keysAt_place] at hshelved hbottomed
  refine ⟨⟨h.distinct.place key _, hshelved, hbottomed (by omega) h.bottomed,
    h.of_fewer.hits_lt, ?_⟩, hknown⟩
  intro pair hpair
  rcases FrequencyList.mem_entries_place hpair with rfl | hpair
  · rw [Nat.add_assoc]
    exact hbound
  · exact h.of_fewer.bound pair hpair

theorem drop (h : Counts hits lfu list) (key : String) :
    Counts hits (lfu.remove key).1 (list.drop key) ∧
      (lfu.remove key).2 = (list.frequency? key).isSome := by
  have hbound : ∀ pair ∈ (list.drop key).entries, pair.2 + hits < UInt64.size :=
    fun pair hpair => h.bound pair (List.mem_of_mem_filter hpair)
  cases hf : list.frequency? key with
  | some f =>
      have hmem := h.distinct.frequency?_eq_some_iff.mp hf
      obtain ⟨hshelved, hknown, hbottomed⟩ :=
        h.shelved.remove (FrequencyList.mem_keysAt_iff.mpr hmem)
      rw [← h.distinct.keysAt_drop] at hshelved hbottomed
      exact ⟨⟨h.distinct.drop key, hshelved, hbottomed h.bottomed, h.hits_lt, hbound⟩, hknown⟩
  | none =>
      have hnot : ∀ f, (key, f) ∉ list.entries := by
        intro f hmem
        rw [h.distinct.frequency?_eq_some_iff.mpr hmem] at hf
        exact Option.some_ne_none f hf
      have hsame : list.drop key = list := by
        rw [FrequencyList.drop, List.filter_eq_self.mpr]
        intro pair hpair
        rw [bne_iff_ne]
        rintro rfl
        exact hnot pair.2 hpair
      rw [h.shelved.remove_of_untracked fun f hkey => hnot f (FrequencyList.mem_keysAt_iff.mp hkey),
        hsame]
      exact ⟨h, rfl⟩

/-- The two nominate the same victim, and there is one unless nothing is tracked. -/
theorem evict (h : Counts hits lfu list) :
    lfu.evict.2 = list.victim? ∧ (list.victim? = none ↔ list.entries = []) ∧
      lfu.evict.1 = match list.victim? with
        | some key => (lfu.remove key).1
        | none => lfu := by
  by_cases hempty : list.entries = []
  · have hnone : list.victim? = none := by
      rw [FrequencyList.victim?, FrequencyList.least?, hempty]
      rfl
    rw [h.shelved.evict_of_empty fun f => by rw [FrequencyList.keysAt, hempty]; rfl, hnone]
    exact ⟨rfl, iff_of_true rfl hempty, rfl⟩
  · obtain ⟨victim, hlast, hevict⟩ := h.shelved.evict (h.keysAt_ne_nil hempty)
    have hsome : list.victim? = some victim := by
      rw [FrequencyList.victim?, h.least?_eq hempty, Option.bind_some, hlast]
    rw [hevict, hsome]
    exact ⟨rfl, iff_of_false (Option.some_ne_none victim) hempty, rfl⟩

end Counts

theorem counts_empty (h : hits < UInt64.size) : Counts hits empty ⟨[]⟩ where
  distinct := List.nodup_nil
  shelved := shelved_empty
  bottomed f hf := absurd rfl hf
  hits_lt := h
  bound := by simp

/-! ## Refinement -/

/-- The policy and a plain list of the keys that it tracks answer alike. -/
theorem simulation_frequencyList : EvictionPolicy.Simulation Counts := by
  intro call hits lfu list h
  cases call with
  | insert key => exact ⟨h.of_fewer.insert key, rfl⟩
  | access key =>
      cases hf : list.frequency? key with
      | some f =>
          obtain ⟨hcounts, hknown⟩ := Counts.access h hf
          simp only [EvictionPolicy.call, EvictionPolicy.access, hf, hknown]
          exact ⟨hcounts, trivial⟩
      | none =>
          have hnot : ∀ f, key ∉ list.keysAt f := by
            intro f hkey
            rw [FrequencyList.mem_keysAt_iff, ← h.distinct.frequency?_eq_some_iff, hf] at hkey
            exact Option.some_ne_none f hkey.symm
          simp only [EvictionPolicy.call, EvictionPolicy.access, hf,
            h.shelved.access_of_untracked hnot]
          exact ⟨h.of_fewer, trivial⟩
  | remove key =>
      obtain ⟨hcounts, hknown⟩ := h.of_fewer.drop key
      exact ⟨hcounts, congrArg EvictionPolicy.Reply.tracked hknown⟩
  | evict =>
      obtain ⟨hvictim, -, hafter⟩ := h.evict
      simp only [EvictionPolicy.call, EvictionPolicy.evict, hvictim, hafter]
      cases list.victim? with
      | none => exact ⟨h.of_fewer, rfl⟩
      | some key => exact ⟨(h.of_fewer.drop key).1, rfl⟩
  | clear => exact ⟨counts_empty h.of_fewer.hits_lt, rfl⟩

/-- Every sequence of calls on a fresh policy, with fewer hits than there are words,
returns what it returns on a plain list of keys and hits, and leaves the policy with the
keys and hits of the list.  Its lowest frequency is the smallest number of hits, the
bucket of that frequency is there while anything is tracked, and then there is a
victim. -/
theorem run_refines_frequencyList (calls : List EvictionPolicy.Call)
    (hhits : EvictionPolicy.accesses calls < UInt64.size) :
    let lfu := EvictionPolicy.run Lfu.empty calls
    let list := EvictionPolicy.run (FrequencyList.mk []) calls
    EvictionPolicy.replies Lfu.empty calls = EvictionPolicy.replies (FrequencyList.mk []) calls ∧
      list.Distinct ∧ (∀ key, lfu.frequency? key = list.frequency? key) ∧
      lfu.size = list.entries.length ∧ lfu.leastFrequency? = list.least? ∧
      (lfu.leastFrequency? = none ↔ lfu.size = 0) ∧ (lfu.evict.2 = none ↔ lfu.size = 0) ∧
      (lfu.size ≠ 0 → (lfu.buckets.get? lfu.lowest).isSome = true) := by
  intro lfu list
  obtain ⟨hcounts, hreplies⟩ := simulation_frequencyList.run calls 0 Lfu.empty ⟨[]⟩
    (counts_empty hhits)
  have hempty : lfu.size = 0 ↔ list.entries = [] := by
    rw [hcounts.size_eq, List.length_eq_zero_iff]
  refine ⟨hreplies, hcounts.distinct, hcounts.frequency?_eq, hcounts.size_eq,
    hcounts.leastFrequency?_eq, ?_, ?_, ?_⟩
  · rw [hcounts.leastFrequency?_eq, hempty, FrequencyList.least?, List.min?_eq_none_iff,
      List.map_eq_nil_iff]
  · rw [hcounts.evict.1, hcounts.evict.2.1, hempty]
  · intro hsize
    exact Table.contains_iff_mem_keys.mpr (hcounts.shelved.mem_buckets_iff.mpr
      (hcounts.keysAt_ne_nil (mt hempty.mpr hsize)))

/-- A hit, an insertion again and a removal in front of two victims. -/
theorem run_refines_frequencyList_of_mixed_calls :
    let calls : List EvictionPolicy.Call :=
      [.insert "a", .insert "b", .insert "c", .access "a", .insert "b", .remove "c", .evict, .evict]
    EvictionPolicy.accesses calls < UInt64.size ∧
      EvictionPolicy.replies Lfu.empty calls =
        [.done, .done, .done, .tracked true, .done, .tracked true, .victim (some "b"),
          .victim (some "a")] := by
  intro calls
  have hhits : EvictionPolicy.accesses calls < UInt64.size := by decide
  refine ⟨hhits, ?_⟩
  rw [(run_refines_frequencyList calls hhits).1]
  decide

end Lfu
end CacheTier
