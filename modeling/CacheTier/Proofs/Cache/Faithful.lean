import CacheTier.Cache.PolicyKind
import CacheTier.Proofs.Cache.Lfu.Shelves
import CacheTier.Proofs.Cache.Lru

/-!
# Policies that track what they are told

A policy is faithful when it tracks the keys that were inserted and neither removed nor
nominated since, each once, and nominates a victim as long as it tracks a key.  The
built-in policies are faithful.
-/

namespace CacheTier

/-- In the sound states the policy tracks distinct keys, and every call changes them as
its name says. -/
structure EvictionPolicy.Faithful {σ : Type} [EvictionPolicy σ] (sound : σ → Prop)
    (tracked : σ → List String) : Prop where
  nodup : ∀ p, sound p → (tracked p).Nodup
  size_eq : ∀ p, sound p → size p = (tracked p).length
  length_le_supply : ∀ p, sound p → (tracked p).length ≤ supply p
  insert : ∀ p key, sound p → sound (insert p key) ∧
    (tracked (insert p key)).Perm (key :: (tracked p).erase key)
  access : ∀ p key, sound p → sound (access p key).1 ∧
    (tracked (access p key).1).Perm (tracked p)
  remove : ∀ p key, sound p → sound (remove p key).1 ∧
    (tracked (remove p key).1).Perm ((tracked p).erase key)
  evict : ∀ p, sound p → sound (evict p).1 ∧ match (evict p).2 with
    | none => tracked p = [] ∧ tracked (evict p).1 = []
    | some victim => victim ∈ tracked p ∧
        (tracked (evict p).1).Perm ((tracked p).erase victim)
  clear : ∀ p, sound p → sound (clear p) ∧ tracked (clear p) = []

/-- A faithful policy stays sound through every sequence of calls. -/
theorem EvictionPolicy.Faithful.run {σ : Type} [EvictionPolicy σ] {sound : σ → Prop}
    {tracked : σ → List String} (h : EvictionPolicy.Faithful sound tracked) {policy : σ}
    (hsound : sound policy) (calls : List EvictionPolicy.Call) :
    sound (EvictionPolicy.run policy calls) := by
  induction calls generalizing policy with
  | nil => exact hsound
  | cons first rest ih =>
      apply ih
      cases first with
      | insert key => exact (h.insert policy key hsound).1
      | access key => exact (h.access policy key hsound).1
      | remove key => exact (h.remove policy key hsound).1
      | evict => exact (h.evict policy hsound).1
      | clear => exact (h.clear policy hsound).1

namespace Lru

variable {lru : Lru} {keys other : List String}

theorem Tracks.self_perm (h : lru.Tracks keys) (hperm : keys.Perm other) :
    lru.Tracks lru.keysByRecency ∧ lru.keysByRecency.Perm other := by
  rw [h.keysByRecency_eq]
  exact ⟨h, hperm⟩

theorem faithful : EvictionPolicy.Faithful (fun lru : Lru => lru.Tracks lru.keysByRecency)
    keysByRecency where
  nodup _ h := h.nodup
  size_eq _ h := h.size_eq
  length_le_supply _ h := Nat.le_of_eq h.size_eq.symm
  insert _ key h := (h.insert key).self_perm (List.Perm.refl _)
  access lru key h := by
    apply (h.access key).1.self_perm
    split_ifs with hkey
    · exact (List.perm_cons_erase hkey).symm
    · exact List.Perm.refl _
  remove _ key h := (h.remove key).1.self_perm (List.Perm.refl _)
  evict := by
    intro lru h
    obtain ⟨hevicted, hvictim⟩ := h.evict
    obtain ⟨hself, hperm⟩ := hevicted.self_perm (List.Perm.refl _)
    refine ⟨hself, ?_⟩
    have hreply : (EvictionPolicy.evict lru).2 = lru.keysByRecency.getLast? := hvictim
    rw [hreply]
    rcases List.eq_nil_or_concat' lru.keysByRecency with hnil | ⟨front, victim, hkeys⟩
    · rw [hnil] at hperm ⊢
      exact ⟨rfl, List.perm_nil.mp hperm⟩
    · rw [hkeys, List.dropLast_concat] at hperm
      rw [hkeys, List.getLast?_concat]
      have hmem : victim ∈ front ++ [victim] := by simp
      have hcons := (List.perm_append_singleton victim front).symm.trans
        (List.perm_cons_erase hmem)
      exact ⟨hmem, hperm.trans ((List.perm_cons victim).mp hcons)⟩
  clear _ _ := ⟨tracks_empty, tracks_empty.keysByRecency_eq⟩

end Lru

namespace Lfu

/-- The tracked keys from the lowest frequency to the highest. -/
def keysByFrequency (lfu : Lfu) : List String := lfu.buckets.values.flatMap lfu.arena.keys

variable {lfu other : Lfu} {shelf : Nat → List String} {key : String} {f : Nat}

theorem Shelved.mem_keysByFrequency_iff (h : lfu.Shelved shelf) :
    key ∈ lfu.keysByFrequency ↔ ∃ f, key ∈ shelf f := by
  obtain ⟨nodes, harranged, -⟩ := h.arranged
  have hascending := harranged.filed.ascending
  simp only [keysByFrequency, Table.values, List.mem_flatMap, List.mem_map]
  constructor
  · rintro ⟨bucket, ⟨⟨f, bucket⟩, hmem, rfl⟩, hkey⟩
    have hget := hascending.get?_eq_some_iff.mpr hmem
    exact ⟨f, h.keys_bucket hget ▸ hkey⟩
  · rintro ⟨f, hkey⟩
    have hf := h.mem_buckets_iff.mpr (List.ne_nil_of_mem hkey)
    obtain ⟨⟨f, bucket⟩, hmem, rfl⟩ := List.mem_map.mp hf
    have hget := hascending.get?_eq_some_iff.mpr hmem
    exact ⟨bucket, ⟨_, hmem, rfl⟩, (h.keys_bucket hget).symm ▸ hkey⟩

theorem Shelved.nodup_keysByFrequency (h : lfu.Shelved shelf) : lfu.keysByFrequency.Nodup := by
  obtain ⟨nodes, harranged, -⟩ := h.arranged
  have hascending := harranged.filed.ascending
  have hkeys : ∀ pair ∈ lfu.buckets.entries, lfu.arena.keys pair.2 = shelf pair.1 :=
    fun pair hmem => h.keys_bucket (hascending.get?_eq_some_iff.mpr hmem)
  rw [keysByFrequency, Table.values, List.flatMap_map, List.nodup_flatMap]
  constructor
  · intro pair hmem
    rw [hkeys pair hmem]
    exact h.nodup pair.1
  · have hlt : lfu.buckets.entries.Pairwise fun a b => a.1 < b.1 := List.pairwise_map.mp hascending
    refine hlt.imp_of_mem ?_
    intro a b ha hb hab key hkeya hkeyb
    have hkeya : key ∈ shelf a.1 := hkeys a ha ▸ hkeya
    have hkeyb : key ∈ shelf b.1 := hkeys b hb ▸ hkeyb
    exact Nat.ne_of_gt hab (h.eq_of_mem hkeya hkeyb)

theorem Shelved.exists_mem_without_iff (h : lfu.Shelved shelf) {k : String} :
    (∃ f, k ∈ without shelf key f) ↔ k ≠ key ∧ k ∈ lfu.keysByFrequency := by
  simp only [h.mem_keysByFrequency_iff, without, (h.nodup _).mem_erase_iff, exists_and_left]

/-- Where a key leaves its shelf, it leaves the tracked keys. -/
theorem Shelved.perm_erase (h : lfu.Shelved shelf) (h' : other.Shelved (without shelf key)) :
    other.keysByFrequency.Perm (lfu.keysByFrequency.erase key) := by
  have hnodup := h.nodup_keysByFrequency
  rw [List.perm_ext_iff_of_nodup h'.nodup_keysByFrequency (hnodup.erase key)]
  intro k
  rw [h'.mem_keysByFrequency_iff, h.exists_mem_without_iff, hnodup.mem_erase_iff]

/-- Where a key is placed on a shelf, it is tracked beside the others. -/
theorem Shelved.perm_cons_erase (h : lfu.Shelved shelf)
    (h' : other.Shelved (place (without shelf key) f key)) :
    other.keysByFrequency.Perm (key :: lfu.keysByFrequency.erase key) := by
  have hnodup := h.nodup_keysByFrequency
  rw [List.perm_ext_iff_of_nodup h'.nodup_keysByFrequency
    (List.nodup_cons.mpr ⟨hnodup.not_mem_erase, hnodup.erase key⟩)]
  intro k
  rw [h'.mem_keysByFrequency_iff, exists_mem_place_iff, h.exists_mem_without_iff, List.mem_cons,
    hnodup.mem_erase_iff]

theorem Shelved.size_eq_length (h : lfu.Shelved shelf) :
    lfu.size = lfu.keysByFrequency.length :=
  h.size_eq h.nodup_keysByFrequency fun _ => h.mem_keysByFrequency_iff

theorem faithful : EvictionPolicy.Faithful (fun lfu : Lfu => ∃ shelf, lfu.Shelved shelf)
    keysByFrequency where
  nodup := by
    rintro lfu ⟨shelf, h⟩
    exact h.nodup_keysByFrequency
  size_eq := by
    rintro lfu ⟨shelf, h⟩
    exact h.size_eq_length
  length_le_supply := by
    rintro lfu ⟨shelf, h⟩
    exact Nat.le_of_eq h.size_eq_length.symm
  insert := by
    rintro lfu key ⟨shelf, h⟩
    obtain ⟨hinserted, -⟩ := h.insert key
    exact ⟨⟨_, hinserted⟩, h.perm_cons_erase hinserted⟩
  access := by
    rintro lfu key ⟨shelf, h⟩
    by_cases hkey : key ∈ lfu.keysByFrequency
    · obtain ⟨f, hf⟩ := h.mem_keysByFrequency_iff.mp hkey
      obtain ⟨haccessed, -⟩ := h.access hf
      exact ⟨⟨_, haccessed⟩,
        (h.perm_cons_erase haccessed).trans (List.perm_cons_erase hkey).symm⟩
    · have hnot : ∀ f, key ∉ shelf f := fun f hf => hkey (h.mem_keysByFrequency_iff.mpr ⟨f, hf⟩)
      have hsame : EvictionPolicy.access lfu key = (lfu, false) := h.access_of_untracked hnot
      rw [hsame]
      exact ⟨⟨shelf, h⟩, List.Perm.refl _⟩
  remove := by
    rintro lfu key ⟨shelf, h⟩
    by_cases hkey : key ∈ lfu.keysByFrequency
    · obtain ⟨f, hf⟩ := h.mem_keysByFrequency_iff.mp hkey
      obtain ⟨hremoved, -⟩ := h.remove hf
      exact ⟨⟨_, hremoved⟩, h.perm_erase hremoved⟩
    · have hnot : ∀ f, key ∉ shelf f := fun f hf => hkey (h.mem_keysByFrequency_iff.mpr ⟨f, hf⟩)
      have hsame : EvictionPolicy.remove lfu key = (lfu, false) := h.remove_of_untracked hnot
      rw [hsame, List.erase_of_not_mem hkey]
      exact ⟨⟨shelf, h⟩, List.Perm.refl _⟩
  evict := by
    rintro lfu ⟨shelf, h⟩
    by_cases hempty : ∀ f, shelf f = []
    · have hsame : EvictionPolicy.evict lfu = (lfu, none) := h.evict_of_empty hempty
      have hnone : lfu.keysByFrequency = [] := by
        rw [List.eq_nil_iff_forall_not_mem]
        intro key hkey
        obtain ⟨f, hf⟩ := h.mem_keysByFrequency_iff.mp hkey
        simp [hempty f] at hf
      rw [hsame]
      exact ⟨⟨shelf, h⟩, hnone, hnone⟩
    · obtain ⟨f, hne⟩ := not_forall.mp hempty
      obtain ⟨victim, hlast, hevict⟩ := h.evict hne
      have hvictim : victim ∈ shelf lfu.lowest := List.mem_of_getLast? hlast
      have hsame : EvictionPolicy.evict lfu = ((lfu.remove victim).1, some victim) := hevict
      obtain ⟨hremoved, -⟩ := h.remove hvictim
      rw [hsame]
      exact ⟨⟨_, hremoved⟩, h.mem_keysByFrequency_iff.mpr ⟨_, hvictim⟩, h.perm_erase hremoved⟩
  clear := by
    rintro lfu -
    exact ⟨⟨_, shelved_empty⟩, rfl⟩

end Lfu

namespace BuiltinPolicy

/-- The tracked keys in the order of the policy's lists. -/
def keys : BuiltinPolicy → List String
  | lru s => s.keysByRecency
  | lfu s => s.keysByFrequency

/-- The lists and the index of the policy agree. -/
def Sound : BuiltinPolicy → Prop
  | lru s => s.Tracks s.keysByRecency
  | lfu s => ∃ shelf, s.Shelved shelf

theorem sound_ofKind (kind : PolicyKind) : (ofKind kind).Sound ∧ (ofKind kind).keys = [] := by
  cases kind with
  | lru => exact ⟨Lru.tracks_empty, rfl⟩
  | lfu => exact ⟨⟨_, Lfu.shelved_empty⟩, rfl⟩

theorem faithful : EvictionPolicy.Faithful Sound keys where
  nodup
    | lru s => Lru.faithful.nodup s
    | lfu s => Lfu.faithful.nodup s
  size_eq
    | lru s => Lru.faithful.size_eq s
    | lfu s => Lfu.faithful.size_eq s
  length_le_supply
    | lru s => Lru.faithful.length_le_supply s
    | lfu s => Lfu.faithful.length_le_supply s
  insert
    | lru s => Lru.faithful.insert s
    | lfu s => Lfu.faithful.insert s
  access
    | lru s => Lru.faithful.access s
    | lfu s => Lfu.faithful.access s
  remove
    | lru s => Lru.faithful.remove s
    | lfu s => Lfu.faithful.remove s
  evict
    | lru s => Lru.faithful.evict s
    | lfu s => Lfu.faithful.evict s
  clear
    | lru s => Lru.faithful.clear s
    | lfu s => Lfu.faithful.clear s

end BuiltinPolicy
end CacheTier
