import CacheTier.Proofs.Cache.Faithful
import CacheTier.Proofs.Cache.Store.Run

/-!
# Stores in step with their policies

Between calls a faithful policy tracks the keys of the index, and the store is within
its capacity or has a single block.  An insertion breaks both for a while: the key to be
inserted is not tracked while its old block is still in the index, and the loop of
evictions spares that block.
-/

namespace CacheTier
namespace Store

variable {σ : Type} {sound : σ → Prop} {tracked : σ → List String} {apart : Option String}
  {store last : Store σ} {key victim : String} {payload : ByteArray} {evicted : List String}

/-- The policy tracks the keys of the index, but for one that is being replaced. -/
structure InStep (sound : σ → Prop) (tracked : σ → List String) (apart : Option String)
    (store : Store σ) : Prop where
  accounted : store.Accounted
  sound : sound store.policy
  mem_tracked_iff : ∀ key,
    key ∈ tracked store.policy ↔ store.contains key = true ∧ some key ≠ apart

/-- The blocks are within the capacity, or there is at most one. -/
def Bounded (store : Store σ) : Prop :=
  payloadBytes store.index ≤ store.capacityBytes.toNat ∨ store.size ≤ 1

theorem Bounded.mono {other : Store σ} (h : store.Bounded)
    (hcapacity : other.capacityBytes = store.capacityBytes)
    (hbytes : payloadBytes other.index ≤ payloadBytes store.index)
    (hsize : other.size ≤ store.size) : other.Bounded := by
  rw [Bounded, hcapacity]
  rcases h with hwithin | hsingle
  · exact Or.inl (hbytes.trans hwithin)
  · exact Or.inr (hsize.trans hsingle)

/-- A store beyond its capacity holds one block, which is beyond the capacity alone. -/
theorem Bounded.within_or_single (h : store.Bounded) (haccounted : store.Accounted) :
    store.sizeBytes ≤ store.capacityBytes ∨
      ∃ key block, store.index.entries = [(key, block)] ∧
        store.capacityBytes.toNat < block.payload.size := by
  rw [UInt64.le_iff_toNat_le, haccounted.sizeBytes_eq]
  by_cases hwithin : payloadBytes store.index ≤ store.capacityBytes.toNat
  · exact Or.inl hwithin
  · have hlength : store.index.entries.length ≤ 1 := h.resolve_left hwithin
    cases hentries : store.index.entries with
    | nil => simp [payloadBytes, hentries] at hwithin
    | cons entry rest =>
        have hrest : rest = [] := by
          rw [hentries, List.length_cons] at hlength
          exact List.eq_nil_of_length_eq_zero (by omega)
        subst hrest
        refine Or.inr ⟨entry.1, entry.2, rfl, ?_⟩
        simpa [payloadBytes, hentries] using hwithin

/-- Between calls the policy is in step and the blocks are bounded. -/
structure Settled (sound : σ → Prop) (tracked : σ → List String) (store : Store σ) : Prop where
  inStep : store.InStep sound tracked none
  bounded : store.Bounded

theorem settled_create {capacityBytes : UInt64} {policy : σ} (hsound : sound policy)
    (htracked : tracked policy = [])
    (hcreate : Store.create capacityBytes policy = .ok store) :
    store.Settled sound tracked ∧ store.capacityBytes = capacityBytes := by
  have haccounted := Accounted.create hcreate
  rw [Store.create] at hcreate
  split_ifs at hcreate
  cases hcreate
  refine ⟨⟨⟨haccounted, hsound, ?_⟩, Or.inl (Nat.zero_le _)⟩, rfl⟩
  intro key
  rw [htracked]
  simp [contains, Table.contains]

variable [EvictionPolicy σ]

/-! ## Evictions -/

section Evictions

variable (hpolicy : EvictionPolicy.Faithful sound tracked)
include hpolicy

/-- What a policy in step nominates is stored, and is not the key that is being
replaced. -/
theorem InStep.contains_victim (h : store.InStep sound tracked apart)
    (hvictim : (EvictionPolicy.evict store.policy).2 = some victim) :
    store.contains victim = true ∧ some victim ≠ apart := by
  have hevict := (hpolicy.evict store.policy h.sound).2
  rw [hvictim] at hevict
  exact (h.mem_tracked_iff victim).mp hevict.1

/-- An eviction keeps the policy in step. -/
theorem InStep.evict {policy : σ} (h : store.InStep sound tracked apart)
    (hevict : EvictionPolicy.evict store.policy = (policy, some victim)) :
    ({ store with policy }.dropVictim victim).1.InStep sound tracked apart := by
  have hnext : ({ store with policy }.dropVictim victim).1.policy = policy :=
    policy_dropVictim _ victim
  obtain ⟨hsound, hperm⟩ := hpolicy.evict store.policy h.sound
  rw [hevict] at hsound hperm
  obtain ⟨hvictim, hperm⟩ := hperm
  have hnodup := hpolicy.nodup store.policy h.sound
  have haccounted : Accounted { store with policy } := h.accounted.of_index_eq rfl rfl
  refine ⟨haccounted.dropVictim victim, ?_, ?_⟩
  · rw [hnext]
    exact hsound
  · intro key
    rw [hnext, hperm.mem_iff, hnodup.mem_erase_iff, h.mem_tracked_iff, contains,
      contains, index_dropVictim, Table.contains_erase_iff, and_assoc]

theorem InStep.evictsTo (h : store.InStep sound tracked apart)
    (hrun : EvictsTo store evicted last) : last.InStep sound tracked apart := by
  induction hrun with
  | refl store => exact h
  | step hevict hrest ih => exact ih (h.evict hpolicy hevict)

/-- The block of a key that is being replaced is spared. -/
theorem InStep.get?_evictsTo (h : store.InStep sound tracked (some key))
    (hrun : EvictsTo store evicted last) : last.index.get? key = store.index.get? key := by
  induction hrun with
  | refl store => rfl
  | @step store last policy victim evicted hevict hrest ih =>
      -- only tracked keys are nominated, and this one is set apart
      have hvictim := h.contains_victim hpolicy (congrArg Prod.snd hevict)
      rw [ih (h.evict hpolicy hevict), index_dropVictim, Table.get?_erase, if_neg]
      rintro rfl
      exact hvictim.2 rfl

/-- The loop of an insertion ends within one nomination more than there are keys. -/
theorem exists_makeRoom {fuel : Nat} (hsound : sound store.policy)
    (hfuel : (tracked store.policy).length < fuel) (previous incoming : UInt64) :
    ∃ room evicted exhausted,
      store.makeRoom previous incoming fuel = some (room, evicted, exhausted) := by
  -- every nomination takes a tracked key away, so the fuel outlasts the keys
  induction fuel generalizing store with
  | zero => exact absurd hfuel (Nat.not_lt_zero _)
  | succ fuel ih =>
      rw [makeRoom]
      split_ifs with hfits
      · exact ⟨_, _, _, rfl⟩
      · obtain ⟨hnext, hperm⟩ := hpolicy.evict store.policy hsound
        rcases hevict : EvictionPolicy.evict store.policy with ⟨policy, _ | victim⟩
        · exact ⟨_, _, _, rfl⟩
        · rw [hevict] at hnext hperm
          obtain ⟨hvictim, hperm⟩ := hperm
          have hpos : 0 < (tracked store.policy).length := List.length_pos_of_mem hvictim
          have hfewer : (tracked policy).length < fuel := by
            rw [hperm.length_eq, List.length_erase_of_mem hvictim]
            omega
          have hdropped : ({ store with policy }.dropVictim victim).1.policy = policy :=
            policy_dropVictim _ victim
          obtain ⟨room, evicted, exhausted, hroom⟩ :=
            ih (by rwa [hdropped]) (by rwa [hdropped])
          exact ⟨room, _, exhausted, by simp only [hroom]; rfl⟩

/-- The policy supplies enough nominations for every insertion. -/
theorem exists_makeRoom_of_supply (hsound : sound store.policy) (key : String)
    (previous incoming : UInt64) :
    ∃ room evicted exhausted,
      makeRoom previous incoming (EvictionPolicy.supply store.policy + 1)
        { store with policy := (EvictionPolicy.remove store.policy key).1 } =
          some (room, evicted, exhausted) := by
  obtain ⟨hremoved, hperm⟩ := hpolicy.remove store.policy key hsound
  refine exists_makeRoom hpolicy hremoved ?_ previous incoming
  have hsupply := hpolicy.length_le_supply store.policy hsound
  have herase : ((tracked store.policy).erase key).length ≤ (tracked store.policy).length :=
    List.erase_sublist.length_le
  rw [hperm.length_eq]
  omega

end Evictions

/-! ## Insertions -/

section Insertions

variable (hpolicy : EvictionPolicy.Faithful sound tracked)
include hpolicy

/-- Taking a key from the policy alone sets it apart. -/
theorem InStep.unlink (h : store.InStep sound tracked none) (key : String) :
    InStep sound tracked (some key)
      { store with policy := (EvictionPolicy.remove store.policy key).1 } := by
  obtain ⟨hsound, hperm⟩ := hpolicy.remove store.policy key h.sound
  refine ⟨h.accounted.of_index_eq rfl rfl, hsound, ?_⟩
  intro other
  have hnodup := hpolicy.nodup store.policy h.sound
  have hother := h.mem_tracked_iff other
  rw [hperm.mem_iff, hnodup.mem_erase_iff, hother, contains, contains]
  simp [and_comm]

/-- Storing a block under the key that was set apart brings the policy back in step. -/
theorem InStep.place (h : store.InStep sound tracked (some key))
    (hbytes : store.bytesBeside key + payload.size < UInt64.size) :
    (store.place key payload).1.InStep sound tracked none := by
  obtain ⟨hsound, hperm⟩ := hpolicy.insert store.policy key h.sound
  refine ⟨h.accounted.place hbytes, hsound, ?_⟩
  intro other
  have hnodup := hpolicy.nodup store.policy h.sound
  have hmem : other ∈ tracked (store.place key payload).1.policy ↔
      other = key ∨ other ∈ tracked store.policy := by
    rw [Store.place, hperm.mem_iff, List.mem_cons, hnodup.mem_erase_iff]
    tauto
  rw [hmem, contains_place_iff, h.mem_tracked_iff]
  by_cases heq : other = key
  · simp [heq]
  · simp [heq]

/-- The loop of an insertion leaves the policy in step, and room for the block unless no
other block is left. -/
theorem InStep.makeRoom {fuel : Nat} {room : Store σ} {exhausted : Bool}
    (h : store.InStep sound tracked (some key))
    (hbytes : store.bytesBeside key + payload.size < UInt64.size)
    (hroom : store.makeRoom (store.blockSize key) (UInt64.ofNat payload.size) fuel =
      some (room, evicted, exhausted)) :
    room.InStep sound tracked (some key) ∧ room.capacityBytes = store.capacityBytes ∧
      room.bytesBeside key ≤ store.bytesBeside key ∧
      (room.bytesBeside key + payload.size ≤ room.capacityBytes.toNat ∨
        ∀ other, room.contains other = true → other = key) := by
  obtain ⟨last, hrun, hend⟩ := makeRoom_eq_some hroom
  have hlast := h.evictsTo hpolicy hrun
  have hcapacity := hrun.capacityBytes_eq
  have hbeside := (h.accounted.evictsTo hrun).2 key
  have hblock : last.blockSize key = store.blockSize key := by
    rw [blockSize, blockSize, h.get?_evictsTo hpolicy hrun]
  rcases hend with ⟨-, rfl, hfits⟩ | ⟨-, hnone, rfl⟩
  · rw [← hblock, hlast.accounted.fits_iff (by omega)] at hfits
    exact ⟨hlast, hcapacity, hbeside, Or.inl hfits⟩
  · -- without a victim nothing is tracked, so no other key is in the index
    obtain ⟨hsound, hempty⟩ := hpolicy.evict last.policy hlast.sound
    rw [hnone] at hempty
    obtain ⟨hbefore, hafter⟩ := hempty
    have hnot : ∀ other, ¬ (last.contains other = true ∧ some other ≠ some key) := by
      intro other
      rw [← hlast.mem_tracked_iff, hbefore]
      exact List.not_mem_nil
    refine ⟨⟨hlast.accounted.of_index_eq rfl rfl, hsound, ?_⟩, hcapacity, hbeside, Or.inr ?_⟩
    · intro other
      rw [hafter]
      exact iff_of_false List.not_mem_nil (hnot other)
    · intro other hother
      by_contra hne
      exact hnot other ⟨hother, by simpa using hne⟩

end Insertions

/-! ## Calls -/

/-- A block that fits, or that is alone, leaves the blocks bounded. -/
theorem InStep.bounded_place (h : store.InStep sound tracked apart)
    (hend : store.bytesBeside key + payload.size ≤ store.capacityBytes.toNat ∨
      ∀ other, store.contains other = true → other = key) :
    (store.place key payload).1.Bounded := by
  have hbytes : payloadBytes (store.place key payload).1.index =
      payload.size + store.bytesBeside key := payloadBytes_insert h.accounted.ascending key _
  rcases hend with hfits | halone
  · left
    rw [hbytes, Nat.add_comm]
    exact hfits
  · right
    have hascending : (store.place key payload).1.index.Ascending :=
      Table.ascending_insert h.accounted.ascending key _
    have hsubset : (store.place key payload).1.index.keys ⊆ [key] := by
      intro other hother
      have hcontains := contains_place_iff.mp (Table.contains_iff_mem_keys.mpr hother)
      exact List.mem_singleton.mpr (hcontains.elim id (halone other))
    have hlength := (hascending.nodup.subperm hsubset).length_le
    rwa [Table.length_keys] at hlength

namespace Settled

variable (hpolicy : EvictionPolicy.Faithful sound tracked)
include hpolicy

theorem put (h : store.Settled sound tracked)
    (hbytes : store.bytesBeside key + payload.size < UInt64.size) :
    ∃ final outcome, store.put? key payload = some (final, outcome) ∧
      final.Settled sound tracked ∧ final.capacityBytes = store.capacityBytes := by
  by_cases hkey : key.isEmpty = true
  · exact ⟨store, _, put?_of_isEmpty hkey, h, rfl⟩
  · have hunlinked := h.inStep.unlink hpolicy key
    obtain ⟨room, evicted, exhausted, hroom⟩ := exists_makeRoom_of_supply hpolicy h.inStep.sound key
      (store.blockSize key) (UInt64.ofNat payload.size)
    obtain ⟨hstep, hcapacity, hbeside, hend⟩ := hunlinked.makeRoom hpolicy hbytes hroom
    have hbytes' : room.bytesBeside key + payload.size < UInt64.size :=
      Nat.lt_of_le_of_lt (Nat.add_le_add_right hbeside _) hbytes
    have hput : store.put? key payload = some ((room.place key payload).1,
        .ok ⟨evicted, (room.place key payload).2, exhausted⟩) := by
      rw [put?_eq_map (by simpa using hkey), hroom, Option.map_some]
    exact ⟨_, _, hput, ⟨hstep.place hpolicy hbytes', hstep.bounded_place hend⟩, hcapacity⟩

theorem get (h : store.Settled sound tracked) (key : String) :
    (store.get key).1.Settled sound tracked ∧
      (store.get key).1.capacityBytes = store.capacityBytes := by
  have haccounted := h.inStep.accounted
  have hkeys := haccounted.keys_get key
  obtain ⟨hsound, hperm, hcapacity⟩ : sound (store.get key).1.policy ∧
      (tracked (store.get key).1.policy).Perm (tracked store.policy) ∧
      (store.get key).1.capacityBytes = store.capacityBytes := by
    rw [Store.get]
    cases store.index.get? key with
    | none => exact ⟨h.inStep.sound, List.Perm.refl _, rfl⟩
    | some block =>
        obtain ⟨hsound, hperm⟩ := hpolicy.access store.policy key h.inStep.sound
        exact ⟨hsound, hperm, rfl⟩
  refine ⟨⟨⟨haccounted.get key, hsound, ?_⟩, ?_⟩, hcapacity⟩
  · intro other
    rw [hperm.mem_iff, h.inStep.mem_tracked_iff, contains, contains,
      Table.contains_iff_mem_keys, Table.contains_iff_mem_keys, hkeys]
  · have hsize : (store.get key).1.size = store.size := by
      rw [size, size, ← Table.length_keys, hkeys, Table.length_keys]
    exact h.bounded.mono hcapacity (Nat.le_of_eq (haccounted.payloadBytes_get key))
      (Nat.le_of_eq hsize)

theorem remove (h : store.Settled sound tracked) (key : String) :
    (store.remove key).1.Settled sound tracked ∧
      (store.remove key).1.capacityBytes = store.capacityBytes := by
  have haccounted := h.inStep.accounted
  have hindex := index_remove store key
  have hbytes : payloadBytes (store.remove key).1.index ≤ payloadBytes store.index := by
    rw [hindex]
    exact payloadBytes_erase_le haccounted.ascending key
  have hsize : (store.remove key).1.size ≤ store.size := by
    rw [size, size, hindex]
    exact List.length_filter_le _ _
  obtain ⟨hstep, hcapacity⟩ : (store.remove key).1.InStep sound tracked none ∧
      (store.remove key).1.capacityBytes = store.capacityBytes := by
    have hremoved := haccounted.remove key
    rw [Store.remove] at hremoved ⊢
    cases hget : store.index.get? key with
    | none => exact ⟨h.inStep, rfl⟩
    | some block =>
        rw [hget] at hremoved
        have hunlinked := h.inStep.unlink hpolicy key
        refine ⟨⟨hremoved, hunlinked.sound, ?_⟩, rfl⟩
        intro other
        rw [hunlinked.mem_tracked_iff, contains, contains, Table.contains_erase_iff]
        simp [and_comm]
  exact ⟨⟨hstep, h.bounded.mono hcapacity hbytes hsize⟩, hcapacity⟩

theorem clear (h : store.Settled sound tracked) : store.clear.Settled sound tracked := by
  obtain ⟨hsound, htracked⟩ := hpolicy.clear store.policy h.inStep.sound
  refine ⟨⟨Accounted.clear store, hsound, ?_⟩, Or.inl (Nat.zero_le _)⟩
  intro key
  rw [Store.clear, htracked]
  simp [contains, Table.contains]

/-- A call that can be counted returns, and leaves the store settled. -/
theorem call (h : store.Settled sound tracked) {first : Call} (hbytes : first.Addressable store) :
    ∃ next reply, store.call first = some (next, reply) ∧ next.Settled sound tracked ∧
      next.capacityBytes = store.capacityBytes := by
  cases first with
  | put key payload =>
      obtain ⟨final, outcome, hput, hfinal⟩ := h.put hpolicy hbytes
      exact ⟨final, .stored outcome, by rw [Store.call, hput, Option.map_some], hfinal⟩
  | get key => exact ⟨_, _, rfl, h.get hpolicy key⟩
  | contains key => exact ⟨store, _, rfl, h, rfl⟩
  | remove key => exact ⟨_, _, rfl, h.remove hpolicy key⟩
  | clear => exact ⟨_, _, rfl, h.clear hpolicy, rfl⟩

theorem run (h : store.Settled sound tracked) {calls : List Call}
    (hbytes : Addressable store calls) :
    ∃ final replies, store.run calls = some (final, replies) ∧ final.Settled sound tracked ∧
      final.capacityBytes = store.capacityBytes := by
  induction calls generalizing store with
  | nil => exact ⟨store, [], rfl, h, rfl⟩
  | cons first rest ih =>
      obtain ⟨next, reply, hcall, hnext, hcapacity⟩ := h.call hpolicy hbytes.1
      obtain ⟨final, replies, hrun, hfinal, hsame⟩ := ih hnext (hbytes.2 next reply hcall)
      refine ⟨final, reply :: replies, ?_, hfinal, hsame.trans hcapacity⟩
      simp [Store.run, hcall, hrun]

end Settled

/-! ## Runs that return -/

section Runs

variable (hpolicy : EvictionPolicy.Faithful sound tracked)
include hpolicy

theorem sound_evictsTo (hsound : sound store.policy) (hrun : EvictsTo store evicted last) :
    sound last.policy := by
  induction hrun with
  | refl store => exact hsound
  | @step store last policy victim evicted hevict hrest ih =>
      have hnext := (hpolicy.evict store.policy hsound).1
      rw [hevict] at hnext
      exact ih (by rwa [policy_dropVictim])

/-- Every call returns, whether its bytes can be counted or not, and leaves the policy sound. -/
theorem exists_call (hsound : sound store.policy) (first : Call) :
    ∃ next reply, store.call first = some (next, reply) ∧ sound next.policy := by
  cases first with
  | put key payload =>
      by_cases hkey : key.isEmpty = true
      · exact ⟨store, _, by rw [Store.call, put?_of_isEmpty hkey, Option.map_some], hsound⟩
      · obtain ⟨room, evicted, exhausted, hroom⟩ := exists_makeRoom_of_supply hpolicy hsound key
          (store.blockSize key) (UInt64.ofNat payload.size)
        refine ⟨_, _, by rw [Store.call, put?_eq_map (by simpa using hkey), hroom]; rfl, ?_⟩
        obtain ⟨last, hrun, hend⟩ := makeRoom_eq_some hroom
        have hlast := sound_evictsTo hpolicy (hpolicy.remove store.policy key hsound).1 hrun
        have hsoundRoom : sound room.policy := by
          rcases hend with ⟨-, rfl, -⟩ | ⟨-, -, rfl⟩
          · exact hlast
          · exact (hpolicy.evict last.policy hlast).1
        exact (hpolicy.insert room.policy key hsoundRoom).1
  | get key =>
      refine ⟨_, _, rfl, ?_⟩
      rw [Store.get]
      cases store.index.get? key with
      | none => exact hsound
      | some block => exact (hpolicy.access store.policy key hsound).1
  | contains key => exact ⟨store, _, rfl, hsound⟩
  | remove key =>
      refine ⟨_, _, rfl, ?_⟩
      rw [Store.remove]
      cases store.index.get? key with
      | none => exact hsound
      | some block => exact (hpolicy.remove store.policy key hsound).1
  | clear => exact ⟨_, _, rfl, (hpolicy.clear store.policy hsound).1⟩

theorem exists_run (hsound : sound store.policy) (calls : List Call) :
    ∃ final replies, store.run calls = some (final, replies) := by
  induction calls generalizing store with
  | nil => exact ⟨store, [], rfl⟩
  | cons first rest ih =>
      obtain ⟨next, reply, hcall, hnext⟩ := exists_call hpolicy hsound first
      obtain ⟨final, replies, hrun⟩ := ih hnext
      exact ⟨final, reply :: replies, by simp [Store.run, hcall, hrun]⟩

end Runs

/-! ## Built-in policies -/

/-- Whatever is called on a store over a built-in policy, as long as its bytes can be
counted, the calls return; the policy tracks the keys of the index, each once; it
nominates stored keys only, in the loop of an insertion too, and never the key that is
inserted; and the store is within its capacity, or holds one block, which is beyond the
capacity alone. -/
theorem run_in_step_and_bounded (config : StoreConfig) (store : Store BuiltinPolicy)
    (calls : List Call) (hstart : ofConfig config = .ok store)
    (hbytes : Addressable store calls) :
    ∃ final replies, store.run calls = some (final, replies) ∧
      final.policy.keys.Nodup ∧ EvictionPolicy.size final.policy = final.size ∧
      (∀ key, key ∈ final.policy.keys ↔ final.contains key = true) ∧
      (∀ victim, (EvictionPolicy.evict final.policy).2 = some victim →
        final.contains victim = true) ∧
      (∀ key evicted last victim,
        EvictsTo { final with policy := (EvictionPolicy.remove final.policy key).1 } evicted last →
        (EvictionPolicy.evict last.policy).2 = some victim →
        last.contains victim = true ∧ victim ≠ key) ∧
      final.capacityBytes = config.capacityBytes ∧
      (final.sizeBytes ≤ final.capacityBytes ∨
        ∃ key block, final.index.entries = [(key, block)] ∧
          final.capacityBytes.toNat < block.payload.size) := by
  have hpolicy := BuiltinPolicy.faithful
  obtain ⟨hsound, hkeys⟩ := BuiltinPolicy.sound_ofKind config.policy
  obtain ⟨hsettled, hcapacity⟩ := settled_create hsound hkeys hstart
  obtain ⟨final, replies, hrun, hfinal, hsame⟩ := hsettled.run hpolicy hbytes
  have hnodup := hpolicy.nodup final.policy hfinal.inStep.sound
  have hmem : ∀ key, key ∈ final.policy.keys ↔ final.contains key = true := by
    intro key
    rw [hfinal.inStep.mem_tracked_iff]
    simp
  have hsize : EvictionPolicy.size final.policy = final.size := by
    have hperm : final.policy.keys.Perm final.index.keys := by
      rw [List.perm_ext_iff_of_nodup hnodup hfinal.inStep.accounted.ascending.nodup]
      intro key
      rw [hmem, contains, Table.contains_iff_mem_keys]
    rw [hpolicy.size_eq final.policy hfinal.inStep.sound, hperm.length_eq, Table.length_keys, size]
  refine ⟨final, replies, hrun, hnodup, hsize, hmem, ?_, ?_, hsame.trans hcapacity,
    hfinal.bounded.within_or_single hfinal.inStep.accounted⟩
  · intro victim hvictim
    exact (hfinal.inStep.contains_victim hpolicy hvictim).1
  · intro key evicted last victim hevictions hvictim
    have hlast := (hfinal.inStep.unlink hpolicy key).evictsTo hpolicy hevictions
    obtain ⟨hcontains, hne⟩ := hlast.contains_victim hpolicy hvictim
    exact ⟨hcontains, by simpa using hne⟩

/-- A block beyond the capacity drives the other block out and stays alone. -/
theorem run_in_step_and_bounded_of_oversized_block :
    let config : StoreConfig := ⟨4, .lfu⟩
    let store : Store BuiltinPolicy := ⟨4, .lfu .empty, .empty, 0, .zero, 0⟩
    let calls : List Call :=
      [.put "a" ⟨#[1, 2, 3]⟩, .get "a", .put "b" ⟨#[1, 2, 3, 4, 5, 6]⟩, .contains "a"]
    ofConfig config = .ok store ∧ Addressable store calls ∧
      ∃ final replies, store.run calls = some (final, replies) ∧
        final.policy.keys = ["b"] ∧ final.contains "b" = true ∧
        ∃ key block, final.index.entries = [(key, block)] ∧ 4 < block.payload.size := by
  intro config store calls
  have hstart : ofConfig config = .ok store := rfl
  have haccounted : store.Accounted := ⟨Table.ascending_empty, rfl⟩
  have hbytes : Addressable store calls := addressable_of_incoming_lt haccounted (by decide)
  refine ⟨hstart, hbytes, ?_⟩
  obtain ⟨final, replies, hrun, -, -, hmem, -, -, hcapacity, hbound⟩ :=
    run_in_step_and_bounded config store calls hstart hbytes
  have heval : (store.run calls).map (fun result => (result.1.sizeBytes, result.1.policy.keys)) =
      some (6, ["b"]) := by decide
  rw [hrun, Option.map_some] at heval
  obtain ⟨hsize, hkeys⟩ := Prod.mk.inj (Option.some.inj heval)
  refine ⟨final, replies, hrun, hkeys, (hmem "b").mp (by simp [hkeys]), ?_⟩
  have hover : ¬ final.sizeBytes ≤ final.capacityBytes := by
    rw [hsize, hcapacity]
    decide
  obtain ⟨key, block, hentries, hlarge⟩ := hbound.resolve_left hover
  refine ⟨key, block, hentries, ?_⟩
  rw [hcapacity] at hlarge
  exact hlarge

end Store
end CacheTier
