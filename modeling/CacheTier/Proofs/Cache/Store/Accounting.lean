import CacheTier.Cache.Store
import CacheTier.Proofs.Table
import Mathlib.Data.List.Perm.Basic
import Mathlib.Data.String.Basic

/-!
# Bytes in the index

A store keeps the sum of its blocks' sizes in a word of 64 bits.  Whatever the policy
nominates, the word is the sum of the payload lengths in the index, as long as these
are fewer bytes than there are words.
-/

namespace CacheTier

/-- The sum of the payload lengths in an index. -/
def payloadBytes (index : Table String Block) : Nat :=
  index.entries.foldr (fun entry total => entry.2.payload.size + total) 0

section PayloadBytes

variable {index other : Table String Block} {key : String} {block : Block}

theorem payloadBytes_of_perm (h : index.entries.Perm ((key, block) :: other.entries)) :
    payloadBytes index = block.payload.size + payloadBytes other := by
  have hcomm : LeftCommutative fun (entry : String × Block) total =>
      entry.2.payload.size + total := ⟨fun a b total => Nat.add_left_comm _ _ _⟩
  rw [payloadBytes, h.foldr_eq, List.foldr_cons, payloadBytes]

theorem payloadBytes_erase (h : index.Ascending) (hget : index.get? key = some block) :
    payloadBytes index = block.payload.size + payloadBytes (index.erase key) :=
  payloadBytes_of_perm (h.perm_erase hget)

theorem payloadBytes_erase_le (h : index.Ascending) (key : String) :
    payloadBytes (index.erase key) ≤ payloadBytes index := by
  cases hget : index.get? key with
  | none => rw [Table.erase_of_get?_eq_none hget]
  | some block =>
      rw [payloadBytes_erase h hget]
      exact Nat.le_add_left _ _

theorem payloadBytes_insert (h : index.Ascending) (key : String) (block : Block) :
    payloadBytes (index.insert key block) =
      block.payload.size + payloadBytes (index.erase key) :=
  payloadBytes_of_perm (h.perm_insert key block)

end PayloadBytes

namespace Store

variable {σ : Type} {store : Store σ} {key : String} {block : Block} {payload : ByteArray}

/-- The bytes of the blocks under other keys. -/
def bytesBeside (store : Store σ) (key : String) : Nat := payloadBytes (store.index.erase key)

theorem index_dropVictim (store : Store σ) (victim : String) :
    (store.dropVictim victim).1.index = store.index.erase victim := by
  rw [dropVictim]
  cases hget : store.index.get? victim with
  | none => exact (Table.erase_of_get?_eq_none hget).symm
  | some block => rfl

theorem index_remove [EvictionPolicy σ] (store : Store σ) (key : String) :
    (store.remove key).1.index = store.index.erase key := by
  rw [remove]
  cases hget : store.index.get? key with
  | none => exact (Table.erase_of_get?_eq_none hget).symm
  | some block => rfl

theorem contains_place_iff [EvictionPolicy σ] {other : String} :
    (store.place key payload).1.contains other = true ↔
      other = key ∨ store.contains other = true :=
  Table.contains_insert_iff

/-- The test for room, where neither its difference nor its sum leaves the natural numbers. -/
theorem fits_iff_sub {previous : UInt64}
    (hbytes : store.sizeBytes.toNat - previous.toNat + payload.size < UInt64.size) :
    store.fits previous (UInt64.ofNat payload.size) = true ↔
      store.sizeBytes.toNat - previous.toNat + payload.size ≤ store.capacityBytes.toNat := by
  have hkept : (if store.sizeBytes < previous then 0 else store.sizeBytes - previous).toNat =
      store.sizeBytes.toNat - previous.toNat := by
    split_ifs with hlt
    · rw [UInt64.lt_iff_toNat_lt] at hlt
      exact (Nat.sub_eq_zero_of_le (Nat.le_of_lt hlt)).symm
    · exact UInt64.toNat_sub_of_le _ _ (UInt64.not_lt.mp hlt)
  have hsize : (UInt64.ofNat payload.size).toNat = payload.size :=
    UInt64.toNat_ofNat_of_lt' (by omega)
  rw [fits, decide_eq_true_iff, UInt64.le_iff_toNat_le, UInt64.toNat_add, hkept, hsize,
    Nat.mod_eq_of_lt hbytes]

/-- The size that the store shows is that of its blocks. -/
structure Accounted (store : Store σ) : Prop where
  ascending : store.index.Ascending
  sizeBytes_eq : store.sizeBytes.toNat = payloadBytes store.index

namespace Accounted

theorem of_index_eq {other : Store σ} (h : store.Accounted) (hindex : other.index = store.index)
    (hsize : other.sizeBytes = store.sizeBytes) : other.Accounted where
  ascending := hindex ▸ h.ascending
  sizeBytes_eq := by rw [hsize, hindex, h.sizeBytes_eq]

/-- The block under a key and the others are all of the store. -/
theorem blockSize_add_bytesBeside (h : store.Accounted) (key : String) :
    (store.blockSize key).toNat + store.bytesBeside key = store.sizeBytes.toNat := by
  rw [h.sizeBytes_eq, blockSize, bytesBeside]
  cases hget : store.index.get? key with
  | none =>
      rw [Table.erase_of_get?_eq_none hget]
      simp
  | some block =>
      have herase := payloadBytes_erase h.ascending hget
      have hlt : payloadBytes store.index < UInt64.size :=
        h.sizeBytes_eq ▸ store.sizeBytes.toNat_lt
      have hsize : (UInt64.ofNat block.payload.size).toNat = block.payload.size :=
        UInt64.toNat_ofNat_of_lt' (by omega)
      rw [Option.map_some, Option.getD_some, Block.sizeBytes, hsize, herase]

theorem blockSize_le (h : store.Accounted) (key : String) :
    store.blockSize key ≤ store.sizeBytes := by
  have hsum := h.blockSize_add_bytesBeside key
  exact UInt64.le_iff_toNat_le.mpr (by omega)

/-- Taking the block of a key off the size leaves the bytes of the others. -/
theorem sub_blockSize (h : store.Accounted) (key : String) :
    (store.sizeBytes - store.blockSize key).toNat = store.bytesBeside key := by
  have hsum := h.blockSize_add_bytesBeside key
  rw [UInt64.toNat_sub_of_le _ _ (h.blockSize_le key)]
  omega

/-- A block fits in place of the one under its key when it and the blocks under other
keys are within the capacity. -/
theorem fits_iff (h : store.Accounted)
    (hbytes : store.bytesBeside key + payload.size < UInt64.size) :
    store.fits (store.blockSize key) (UInt64.ofNat payload.size) = true ↔
      store.bytesBeside key + payload.size ≤ store.capacityBytes.toNat := by
  have hsum := h.blockSize_add_bytesBeside key
  have hkept : store.sizeBytes.toNat - (store.blockSize key).toNat = store.bytesBeside key := by
    omega
  rw [fits_iff_sub (by rwa [hkept]), hkept]

/-! ### Calls -/

theorem create {capacityBytes : UInt64} {policy : σ}
    (h : Store.create capacityBytes policy = .ok store) : store.Accounted := by
  rw [Store.create] at h
  split_ifs at h
  cases h
  exact ⟨Table.ascending_empty, rfl⟩

/-- Taking a block out of the index and its size off the sum. -/
theorem erase (h : store.Accounted) (hget : store.index.get? key = some block)
    {other : Store σ} (hindex : other.index = store.index.erase key)
    (hsize : other.sizeBytes = store.sizeBytes - block.sizeBytes) : other.Accounted where
  ascending := hindex ▸ Table.ascending_erase h.ascending key
  sizeBytes_eq := by
    have hblock : store.blockSize key = block.sizeBytes := by
      rw [blockSize, hget, Option.map_some, Option.getD_some]
    rw [hsize, ← hblock, h.sub_blockSize, hindex, bytesBeside]

theorem dropVictim (h : store.Accounted) (victim : String) :
    (store.dropVictim victim).1.Accounted := by
  rw [Store.dropVictim]
  cases hget : store.index.get? victim with
  | none => exact h
  | some block => exact h.erase hget rfl rfl

variable [EvictionPolicy σ]

theorem place (h : store.Accounted)
    (hbytes : store.bytesBeside key + payload.size < UInt64.size) :
    (store.place key payload).1.Accounted where
  ascending := Table.ascending_insert h.ascending key _
  sizeBytes_eq := by
    have hsize : (UInt64.ofNat payload.size).toNat = payload.size :=
      UInt64.toNat_ofNat_of_lt' (by omega)
    have hindex := payloadBytes_insert h.ascending key (Block.create key payload store.clock)
    simp only [Store.place, Block.sizeBytes, hindex]
    rw [UInt64.toNat_add, h.sub_blockSize, Block.create, hsize, Nat.add_comm payload.size]
    exact Nat.mod_eq_of_lt hbytes

theorem payloadBytes_get (h : store.Accounted) (key : String) :
    payloadBytes (store.get key).1.index = payloadBytes store.index := by
  rw [Store.get]
  cases hget : store.index.get? key with
  | none => rfl
  | some block =>
      rw [payloadBytes_erase h.ascending hget]
      exact payloadBytes_insert h.ascending key _

theorem keys_get (h : store.Accounted) (key : String) :
    (store.get key).1.index.keys = store.index.keys := by
  rw [Store.get]
  cases hget : store.index.get? key with
  | none => rfl
  | some block =>
      have hcontains : store.index.contains key = true := by
        rw [Table.contains, hget, Option.isSome_some]
      exact Table.keys_insert_of_contains h.ascending hcontains _

theorem get (h : store.Accounted) (key : String) : (store.get key).1.Accounted := by
  have hbytes := h.payloadBytes_get key
  rw [Store.get] at hbytes ⊢
  cases hget : store.index.get? key with
  | none => exact h.of_index_eq rfl rfl
  | some block =>
      rw [hget] at hbytes
      exact ⟨Table.ascending_insert h.ascending key _, h.sizeBytes_eq.trans hbytes.symm⟩

theorem remove (h : store.Accounted) (key : String) : (store.remove key).1.Accounted := by
  rw [Store.remove]
  cases hget : store.index.get? key with
  | none => exact h
  | some block => exact h.erase hget rfl rfl

theorem clear (store : Store σ) : store.clear.Accounted := ⟨Table.ascending_empty, rfl⟩

end Accounted
end Store
end CacheTier
