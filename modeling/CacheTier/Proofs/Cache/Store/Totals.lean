import CacheTier.Proofs.Cache.Store.History
import CacheTier.Proofs.Totals
import Mathlib

/-!
# What a store counts

The counters of a store are the totals of what its calls have returned.  A block that was put
in is still there, or a later insertion has replaced or evicted it, or it was removed or
cleared; this balance closes at every call, whatever the policy nominates.  It is the same for
the number of blocks and for their bytes, so payloads are weighed by any measure below.
-/

namespace CacheTier

/-! ## Weights -/

/-- The weight of all payloads in an index. -/
def totalOf (weigh : ByteArray → Nat) (index : Table String Block) : Nat :=
  (index.entries.map fun entry => weigh entry.2.payload).sum

/-- The weight of the payload under a key, zero if there is none. -/
def weightAt (weigh : ByteArray → Nat) (index : Table String Block) (key : String) : Nat :=
  ((index.get? key).map fun block => weigh block.payload).getD 0

/-- The measure by which every payload is one block. -/
def eachBlock (_ : ByteArray) : Nat := 1

section Weights

variable {weigh : ByteArray → Nat} {index : Table String Block} {key other : String}

theorem totalOf_eq_add_erase (h : index.Ascending) (key : String) :
    totalOf weigh index = weightAt weigh index key + totalOf weigh (index.erase key) := by
  rw [weightAt]
  cases hget : index.get? key with
  | none =>
      rw [Table.erase_of_get?_eq_none hget]
      exact (Nat.zero_add _).symm
  | some block =>
      exact ((h.perm_erase hget).map fun entry => weigh entry.2.payload).sum_eq

theorem totalOf_insert (h : index.Ascending) (key : String) (block : Block) :
    totalOf weigh (index.insert key block) =
      weigh block.payload + totalOf weigh (index.erase key) :=
  ((h.perm_insert key block).map fun entry : String × Block => weigh entry.2.payload).sum_eq

theorem totalOf_size (index : Table String Block) :
    totalOf ByteArray.size index = payloadBytes index := by
  rw [totalOf, payloadBytes, List.sum_eq_foldr, List.foldr_map]

theorem totalOf_eachBlock (index : Table String Block) : totalOf eachBlock index = index.size := by
  simp [totalOf, eachBlock, Table.size]

theorem weightAt_eachBlock : weightAt eachBlock index key = (index.contains key).toNat := by
  rw [weightAt, Table.contains]
  cases index.get? key with
  | none => rfl
  | some block => rfl

end Weights

namespace Store

variable {σ : Type}

/-! ## Steps -/

/-- A call on a store with what it returned. -/
structure Step (σ : Type) where
  before : Store σ
  call : Call
  reply : Reply

namespace Step

@[simp] def isGet : Step σ → Bool
  | ⟨_, .get _, _⟩ => true
  | _ => false

@[simp] def isHit : Step σ → Bool
  | ⟨_, _, .found (some _)⟩ => true
  | _ => false

@[simp] def isMiss : Step σ → Bool
  | ⟨_, _, .found none⟩ => true
  | _ => false

/-- Whether an insertion has succeeded. -/
@[simp] def isPut : Step σ → Bool
  | ⟨_, _, .stored (.ok _)⟩ => true
  | _ => false

@[simp] def isOverCapacity : Step σ → Bool
  | ⟨_, _, .stored (.ok outcome)⟩ => outcome.overCapacity
  | _ => false

@[simp] def isReplacement : Step σ → Bool
  | ⟨_, _, .stored (.ok outcome)⟩ => outcome.replaced
  | _ => false

@[simp] def isRemoval : Step σ → Bool
  | ⟨_, _, .removed known⟩ => known
  | _ => false

@[simp] def evicted : Step σ → List String
  | ⟨_, _, .stored (.ok outcome)⟩ => outcome.evicted
  | _ => []

section Loads

variable (weigh : ByteArray → Nat)

/-- The weight that an insertion has put in. -/
@[simp] def broughtLoad : Step σ → Nat
  | ⟨_, .put _ payload, .stored (.ok _)⟩ => weigh payload
  | _ => 0

/-- The weight of the evicted blocks. -/
@[simp] def evictedLoad (step : Step σ) : Nat :=
  (step.evicted.map (weightAt weigh step.before.index)).sum

/-- The weight of a block in whose place another was put. -/
@[simp] def replacedLoad : Step σ → Nat
  | ⟨before, .put key _, .stored (.ok ⟨_, true, _⟩)⟩ => weightAt weigh before.index key
  | _ => 0

@[simp] def removedLoad : Step σ → Nat
  | ⟨before, .remove key, .removed true⟩ => weightAt weigh before.index key
  | _ => 0

@[simp] def clearedLoad : Step σ → Nat
  | ⟨before, .clear, _⟩ => totalOf weigh before.index
  | _ => 0

/-- The weight that has left the store. -/
def lostLoad (step : Step σ) : Nat :=
  step.replacedLoad weigh + step.evictedLoad weigh + step.removedLoad weigh +
    step.clearedLoad weigh

end Loads
end Step

theorem sum_lostLoad (weigh : ByteArray → Nat) (steps : List (Step σ)) :
    (steps.map (Step.lostLoad weigh)).sum =
      (steps.map (Step.replacedLoad weigh)).sum + (steps.map (Step.evictedLoad weigh)).sum +
        (steps.map (Step.removedLoad weigh)).sum + (steps.map (Step.clearedLoad weigh)).sum := by
  rw [← List.sum_map_add, ← List.sum_map_add, ← List.sum_map_add]
  rfl

/-- The counters after a step. -/
def countStep (counters : StoreCounters) (step : Step σ) : StoreCounters where
  hits := counters.hits + UInt64.ofNat step.isHit.toNat
  misses := counters.misses + UInt64.ofNat step.isMiss.toNat
  puts := counters.puts + UInt64.ofNat step.isPut.toNat
  evictions := counters.evictions + UInt64.ofNat step.evicted.length
  bytesEvicted := counters.bytesEvicted + UInt64.ofNat (step.evictedLoad ByteArray.size)
  overCapacity := counters.overCapacity + UInt64.ofNat step.isOverCapacity.toNat

variable [EvictionPolicy σ]

/-- The steps that lead from one store to another. -/
inductive Log : Store σ → List (Step σ) → Store σ → Prop
  | nil (store : Store σ) : Log store [] store
  | cons {store next last : Store σ} {call : Call} {reply : Reply} {steps : List (Step σ)}
      (hreturns : Returns store call next reply) (hrest : Log next steps last) :
      Log store (⟨store, call, reply⟩ :: steps) last

/-! ## Evictions -/

section Evictions

variable {store last : Store σ} {evicted : List String} {key : String} {weigh : ByteArray → Nat}

omit [EvictionPolicy σ] in
theorem mem_dropVictim_iff (store : Store σ) (victim key : String) :
    key ∈ (store.dropVictim victim).2 ↔ key = victim ∧ store.contains victim = true := by
  rw [dropVictim, contains, Table.contains]
  cases store.index.get? victim with
  | none => simp
  | some block => simp

/-- What is evicted was stored. -/
theorem EvictsTo.contains_of_mem (h : EvictsTo store evicted last) (hkey : key ∈ evicted) :
    store.contains key = true := by
  induction h with
  | refl store => exact absurd hkey List.not_mem_nil
  | @step store last policy victim later hevict hrest ih =>
      rcases List.mem_append.mp hkey with hvictim | hlater
      · obtain ⟨rfl, hcontains⟩ := (mem_dropVictim_iff _ _ _).mp hvictim
        exact hcontains
      · have hcontains := ih hlater
        rw [contains, index_dropVictim, Table.contains_erase_iff] at hcontains
        exact hcontains.2

omit [EvictionPolicy σ] in
/-- A victim leaves with its weight, and with all the weight that the list shows. -/
theorem total_dropVictim (weigh : ByteArray → Nat) (h : store.index.Ascending)
    (victim : String) :
    totalOf weigh (store.dropVictim victim).1.index +
        ((store.dropVictim victim).2.map (weightAt weigh store.index)).sum =
      totalOf weigh store.index := by
  rw [index_dropVictim, totalOf_eq_add_erase h victim, dropVictim]
  cases hget : store.index.get? victim with
  | none => simp [weightAt, hget]
  | some block => simp [Nat.add_comm]

/-- Later evictions take nothing that has left before, so they weigh what they weighed. -/
theorem EvictsTo.weights_eq {victim : String}
    (h : EvictsTo (store.dropVictim victim).1 evicted last) :
    evicted.map (weightAt weigh (store.dropVictim victim).1.index) =
      evicted.map (weightAt weigh store.index) := by
  apply List.map_congr_left
  intro key hkey
  have hcontains := h.contains_of_mem hkey
  rw [contains, index_dropVictim, Table.contains_erase_iff] at hcontains
  rw [weightAt, weightAt, index_dropVictim, Table.get?_erase, if_neg hcontains.1]

theorem EvictsTo.total (h : EvictsTo store evicted last) (hstore : store.index.Ascending) :
    totalOf weigh last.index + (evicted.map (weightAt weigh store.index)).sum =
      totalOf weigh store.index := by
  induction h with
  | refl store => rfl
  | @step store last policy victim later hevict hrest ih =>
      have hindex : Store.index { store with policy } = store.index := rfl
      generalize { store with policy } = nominated at hrest ih hindex ⊢
      rw [← hindex] at hstore ⊢
      have hfirst := total_dropVictim weigh hstore victim
      have hnext : (nominated.dropVictim victim).1.index.Ascending := by
        rw [index_dropVictim]
        exact Table.ascending_erase hstore victim
      have hlater := ih hnext
      rw [hrest.weights_eq] at hlater
      rw [List.map_append, List.sum_append]
      omega

omit [EvictionPolicy σ] in
theorem counters_dropVictim (store : Store σ) (victim : String) :
    (store.dropVictim victim).1.counters =
      { store.counters with
        evictions := store.counters.evictions +
          UInt64.ofNat (store.dropVictim victim).2.length
        bytesEvicted := store.counters.bytesEvicted + UInt64.ofNat
          ((store.dropVictim victim).2.map (weightAt ByteArray.size store.index)).sum } := by
  rw [dropVictim]
  cases hget : store.index.get? victim with
  | none => simp
  | some block => simp [weightAt, hget, StoreCounters.countEviction, Block.sizeBytes]

/-- The counters go on by the evicted blocks and their bytes. -/
theorem EvictsTo.counters_eq (h : EvictsTo store evicted last) :
    last.counters =
      { store.counters with
        evictions := store.counters.evictions + UInt64.ofNat evicted.length
        bytesEvicted := store.counters.bytesEvicted +
          UInt64.ofNat (evicted.map (weightAt ByteArray.size store.index)).sum } := by
  induction h with
  | refl store => simp
  | @step store last policy victim later hevict hrest ih =>
      have hindex : Store.index { store with policy } = store.index := rfl
      have hcounters : Store.counters { store with policy } = store.counters := rfl
      generalize { store with policy } = nominated at hrest ih hindex hcounters ⊢
      rw [ih, counters_dropVictim, hrest.weights_eq, hindex, hcounters, List.length_append,
        List.map_append, List.sum_append, UInt64.ofNat_add, UInt64.ofNat_add, UInt64.add_assoc,
        UInt64.add_assoc]

end Evictions

/-! ## One call -/

section Calls

variable {store next last : Store σ} {call : Call} {reply : Reply} {key : String}
  {weigh : ByteArray → Nat}

theorem total_get (h : store.index.Ascending) (key : String) :
    totalOf weigh (store.get key).1.index = totalOf weigh store.index := by
  rw [get]
  cases hget : store.index.get? key with
  | none => rfl
  | some block =>
      rw [totalOf_insert h, totalOf_eq_add_erase h key, weightAt, hget]
      rfl

theorem snd_remove (store : Store σ) (key : String) :
    (store.remove key).2 = store.contains key := by
  rw [remove, contains, Table.contains]
  cases store.index.get? key with
  | none => rfl
  | some block => rfl

theorem removedLoad_remove (store : Store σ) (key : String) :
    Step.removedLoad weigh ⟨store, .remove key, .removed (store.remove key).2⟩ =
      weightAt weigh store.index key := by
  rw [remove]
  cases hget : store.index.get? key with
  | none => simp [Step.removedLoad, weightAt, hget]
  | some block => rfl

/-- What is stored after evictions was stored before, with the same weight. -/
theorem EvictsTo.weightAt_eq {evicted : List String} (h : EvictsTo store evicted last)
    (key : String) :
    weightAt weigh last.index key =
      if last.contains key then weightAt weigh store.index key else 0 := by
  rw [contains, Table.contains, weightAt, weightAt, h.get?_eq]
  by_cases hevicted : key ∈ evicted
  · simp [hevicted]
  · cases hget : store.index.get? key with
    | none => simp [hevicted]
    | some block => simp [hevicted]

theorem EvictsTo.replacedLoad_eq {policy : σ} {room : Store σ} {evicted : List String}
    (h : EvictsTo { store with policy } evicted last) (hindex : room.index = last.index)
    (key : String) (payload : ByteArray) (overCapacity : Bool) :
    Step.replacedLoad weigh ⟨store, .put key payload,
      .stored (.ok ⟨evicted, (room.place key payload).2, overCapacity⟩)⟩ =
        weightAt weigh last.index key := by
  have hold : weightAt weigh last.index key =
      if last.contains key then weightAt weigh store.index key else 0 := h.weightAt_eq key
  have hreplaced : (room.place key payload).2 = last.contains key := by
    rw [place, Store.contains, Store.contains, hindex]
  rw [hold, hreplaced]
  cases last.contains key with
  | false => rfl
  | true => rfl

/-- What a call brings goes into the store, and what it takes out has been there. -/
theorem Returns.total (h : Returns store call next reply) (hstore : store.Accounted)
    (weigh : ByteArray → Nat) :
    totalOf weigh next.index + Step.lostLoad weigh ⟨store, call, reply⟩ =
      totalOf weigh store.index + Step.broughtLoad weigh ⟨store, call, reply⟩ := by
  cases h with
  | get key => exact total_get hstore.ascending key
  | contains key => rfl
  | clear =>
      simp [Step.lostLoad, Store.clear, totalOf, Table.empty]
  | remove key =>
      rw [index_remove, totalOf_eq_add_erase hstore.ascending key, Step.lostLoad, removedLoad_remove]
      simp [Nat.add_comm]
  | @put fuel key payload _ outcome hput =>
      rcases putWithin_eq_some hput with
        ⟨rfl, cause, rfl⟩ | ⟨last, room, evicted, exhausted, hrun, hindex, -, -, rfl, rfl⟩
      · rfl
      · have hevictions : totalOf weigh last.index +
            (evicted.map (weightAt weigh store.index)).sum = totalOf weigh store.index :=
          hrun.total hstore.ascending
        have hunlinked :
            Accounted { store with policy := (EvictionPolicy.remove store.policy key).1 } :=
          hstore.of_index_eq rfl rfl
        have hlast : last.index.Ascending := (hunlinked.evictsTo hrun).1.ascending
        have hplaced : totalOf weigh (room.place key payload).1.index =
            weigh payload + totalOf weigh (last.index.erase key) := by
          rw [← hindex]
          exact totalOf_insert (hindex ▸ hlast) key _
        rw [totalOf_eq_add_erase hlast key] at hevictions
        rw [hplaced, ← hevictions, Step.lostLoad, hrun.replacedLoad_eq hindex]
        simp only [Step.evictedLoad, Step.evicted, Step.removedLoad, Step.clearedLoad,
          Step.broughtLoad]
        omega

theorem get_hit_or_miss (store : Store σ) (key : String) :
    (store.get key).1.counters =
      countStep store.counters ⟨store, .get key, .found (store.get key).2⟩ := by
  rw [get]
  cases store.index.get? key with
  | none => simp [countStep, StoreCounters.countMiss]
  | some block => simp [countStep, StoreCounters.countHit]

theorem counters_remove (store : Store σ) (key : String) :
    (store.remove key).1.counters = store.counters := by
  rw [remove]
  cases store.index.get? key with
  | none => rfl
  | some block => rfl

/-- What a call counts shows in what it returns. -/
theorem Returns.counters_eq (h : Returns store call next reply) :
    next.counters = countStep store.counters ⟨store, call, reply⟩ := by
  cases h with
  | get key => exact get_hit_or_miss store key
  | contains key => simp [countStep]
  | clear => simp [Store.clear, countStep]
  | remove key =>
      rw [counters_remove]
      simp [countStep]
  | @put fuel key payload _ outcome hput =>
      rcases putWithin_eq_some hput with
        ⟨rfl, cause, rfl⟩ | ⟨last, room, evicted, exhausted, hrun, -, -, hcounters, rfl, rfl⟩
      · simp [countStep]
      · have hplaced : (room.place key payload).1.counters = room.counters.countPut := rfl
        rw [hplaced, hcounters, hrun.counters_eq]
        cases exhausted with
        | false => simp [countStep, StoreCounters.countPut]
        | true => simp [countStep, StoreCounters.countPut, StoreCounters.countOverCapacity]

/-- A look-up is a hit or a miss, and nothing else is one. -/
theorem Returns.toNat_isGet (h : Returns store call next reply) :
    (Step.isGet ⟨store, call, reply⟩).toNat =
      (Step.isHit ⟨store, call, reply⟩).toNat + (Step.isMiss ⟨store, call, reply⟩).toNat := by
  cases h with
  | get key => cases hget : (store.get key).2 <;> simp
  | contains key => rfl
  | clear => rfl
  | remove key => rfl
  | put fuel hput => rfl

theorem Returns.broughtLoad_eachBlock (h : Returns store call next reply) :
    Step.broughtLoad eachBlock ⟨store, call, reply⟩ =
      (Step.isPut ⟨store, call, reply⟩).toNat := by
  cases h with
  | get key => rfl
  | contains key => rfl
  | clear => rfl
  | remove key => rfl
  | @put fuel key payload _ outcome hput =>
      cases outcome with
      | ok outcome => rfl
      | error cause => rfl

/-- One by one, the blocks that leave are those that are listed, replaced and removed. -/
theorem Returns.lostLoad_eachBlock (h : Returns store call next reply) :
    Step.lostLoad eachBlock ⟨store, call, reply⟩ =
      (Step.isReplacement ⟨store, call, reply⟩).toNat +
        (Step.evicted ⟨store, call, reply⟩).length +
        (Step.isRemoval ⟨store, call, reply⟩).toNat +
        Step.clearedLoad eachBlock ⟨store, call, reply⟩ := by
  cases h with
  | get key => rfl
  | contains key => rfl
  | clear => rfl
  | remove key =>
      rw [Step.lostLoad, removedLoad_remove, weightAt_eachBlock]
      simp [snd_remove, Store.contains]
  | @put fuel key payload _ outcome hput =>
      rcases putWithin_eq_some hput with
        ⟨rfl, cause, rfl⟩ | ⟨last, room, evicted, exhausted, hrun, hindex, -, -, rfl, rfl⟩
      · rfl
      · have hone : evicted.map (weightAt eachBlock store.index) = evicted.map fun _ => 1 := by
          apply List.map_congr_left
          intro victim hvictim
          have hstored : store.index.contains victim = true := hrun.contains_of_mem hvictim
          rw [weightAt_eachBlock, hstored]
          rfl
        rw [Step.lostLoad, hrun.replacedLoad_eq hindex, weightAt_eachBlock, ← hindex]
        simp [hone, place, Store.contains]

end Calls

/-! ## Logs -/

section Logs

variable {start store : Store σ} {steps : List (Step σ)}

theorem Log.counters_eq (h : Log start steps store) :
    store.counters = steps.foldl countStep start.counters := by
  induction h with
  | nil store => rfl
  | cons hreturns hrest ih => rw [ih, hreturns.counters_eq, List.foldl_cons]

theorem Log.forall_mem (h : Log start steps store) {step : Step σ} (hstep : step ∈ steps) :
    ∃ next, Returns step.before step.call next step.reply := by
  induction h with
  | nil store => exact absurd hstep List.not_mem_nil
  | cons hreturns hrest ih =>
      rcases List.mem_cons.mp hstep with rfl | hrest
      · exact ⟨_, hreturns⟩
      · exact ih hrest

/-- The balance of a log, as long as what it brings can be counted in a word. -/
theorem Log.total (h : Log start steps store) (hstart : start.Accounted)
    (hbytes : payloadBytes start.index + (steps.map (Step.broughtLoad ByteArray.size)).sum <
      UInt64.size) :
    store.Accounted ∧ ∀ weigh,
      totalOf weigh store.index + (steps.map (Step.lostLoad weigh)).sum =
        totalOf weigh start.index + (steps.map (Step.broughtLoad weigh)).sum := by
  induction h with
  | nil store => exact ⟨hstart, fun weigh => rfl⟩
  | @cons store next last call reply steps hreturns hrest ih =>
      simp only [List.map_cons, List.sum_cons] at hbytes ⊢
      have hfirst := hreturns.total hstart ByteArray.size
      rw [totalOf_size, totalOf_size] at hfirst
      obtain ⟨haccounted, hlater⟩ := ih (hstart.returns hreturns (by omega)) (by omega)
      refine ⟨haccounted, fun weigh => ?_⟩
      have hfirst := hreturns.total hstart weigh
      have hrest := hlater weigh
      omega

/-- The same balance for the number of blocks. -/
theorem Log.size_add (h : Log start steps store) (hstart : start.Accounted)
    (hbytes : payloadBytes start.index + (steps.map (Step.broughtLoad ByteArray.size)).sum <
      UInt64.size) :
    store.size + steps.countP Step.isReplacement +
        (steps.map fun step => step.evicted.length).sum + steps.countP Step.isRemoval +
        (steps.map (Step.clearedLoad eachBlock)).sum =
      start.size + steps.countP Step.isPut := by
  have htotal := (h.total hstart hbytes).2 eachBlock
  have hlost : steps.map (Step.lostLoad eachBlock) = steps.map fun step =>
      step.isReplacement.toNat + step.evicted.length + step.isRemoval.toNat +
        step.clearedLoad eachBlock := by
    apply List.map_congr_left
    intro step hstep
    obtain ⟨next, hreturns⟩ := h.forall_mem hstep
    exact hreturns.lostLoad_eachBlock
  have hbrought : steps.map (Step.broughtLoad eachBlock) =
      steps.map fun step => step.isPut.toNat := by
    apply List.map_congr_left
    intro step hstep
    obtain ⟨next, hreturns⟩ := h.forall_mem hstep
    exact hreturns.broughtLoad_eachBlock
  rw [totalOf_eachBlock, totalOf_eachBlock, hlost, hbrought] at htotal
  simp only [List.sum_map_add, sum_map_toNat] at htotal
  rw [size, size]
  omega

theorem Log.countP_isGet (h : Log start steps store) :
    steps.countP Step.isGet = steps.countP Step.isHit + steps.countP Step.isMiss := by
  rw [← sum_map_toNat, ← sum_map_toNat, ← sum_map_toNat, ← List.sum_map_add]
  apply congrArg List.sum
  apply List.map_congr_left
  intro step hstep
  obtain ⟨next, hreturns⟩ := h.forall_mem hstep
  exact hreturns.toNat_isGet

/-- A counter that goes on by a share of every step is the sum of the shares, if this is less
than the number of words. -/
theorem Log.counter_eq_sum {word : StoreCounters → UInt64} {share : Step σ → Nat}
    (h : Log start steps store) (hzero : word start.counters = 0)
    (hstep : ∀ c s, word (countStep c s) = word c + UInt64.ofNat (share s))
    (hlt : (steps.map share).sum < UInt64.size) :
    (word store.counters).toNat = (steps.map share).sum := by
  rw [h.counters_eq, foldl_total hstep, hzero, UInt64.zero_add]
  exact UInt64.toNat_ofNat_of_lt' hlt

theorem Log.counter_eq_countP {word : StoreCounters → UInt64} {p : Step σ → Bool}
    (h : Log start steps store) (hzero : word start.counters = 0)
    (hstep : ∀ c s, word (countStep c s) = word c + UInt64.ofNat (p s).toNat)
    (hcalls : steps.length < UInt64.size) :
    (word store.counters).toNat = steps.countP p := by
  have hle : steps.countP p ≤ steps.length := List.countP_le_length
  rw [← sum_map_toNat] at hle ⊢
  exact h.counter_eq_sum hzero hstep (by omega)

end Logs

/-- Whatever the policy nominates, after fewer calls than there are words, which have brought
fewer bytes than there are words, the counters are the totals of what the calls have returned.
Blocks put in that are no longer there have been replaced, evicted, removed or cleared, and
their bytes with them. -/
theorem counters_account_for_calls (capacityBytes : UInt64) (policy : σ) (start store : Store σ)
    (steps : List (Step σ)) (hstart : create capacityBytes policy = .ok start)
    (hlog : Log start steps store) (hcalls : steps.length < UInt64.size)
    (hbytes : (steps.map (Step.broughtLoad ByteArray.size)).sum < UInt64.size) :
    let stats := store.stats
    let counters := stats.counters
    counters.hits.toNat = steps.countP Step.isHit ∧
      counters.misses.toNat = steps.countP Step.isMiss ∧
      counters.hits.toNat + counters.misses.toNat = steps.countP Step.isGet ∧
      counters.puts.toNat = steps.countP Step.isPut ∧
      counters.evictions.toNat = (steps.map fun step => step.evicted.length).sum ∧
      counters.bytesEvicted.toNat = (steps.map (Step.evictedLoad ByteArray.size)).sum ∧
      counters.overCapacity.toNat = steps.countP Step.isOverCapacity ∧
      stats.entryCount.toNat + steps.countP Step.isReplacement + counters.evictions.toNat +
          steps.countP Step.isRemoval + (steps.map (Step.clearedLoad eachBlock)).sum =
        counters.puts.toNat ∧
      stats.sizeBytes.toNat + (steps.map (Step.replacedLoad ByteArray.size)).sum +
          counters.bytesEvicted.toNat + (steps.map (Step.removedLoad ByteArray.size)).sum +
          (steps.map (Step.clearedLoad ByteArray.size)).sum =
        (steps.map (Step.broughtLoad ByteArray.size)).sum := by
  intro stats counters
  have haccounted : start.Accounted := Accounted.create hstart
  have hempty : start.index = .empty ∧ start.counters = .zero := by
    rw [create] at hstart
    split_ifs at hstart
    cases hstart
    exact ⟨rfl, rfl⟩
  obtain ⟨hindex, hzero⟩ := hempty
  have hnone : payloadBytes start.index = 0 := by rw [hindex]; rfl
  have hsize := hlog.size_add haccounted (by omega)
  obtain ⟨hstore, htotal⟩ := hlog.total haccounted (by omega)
  have hweight := htotal ByteArray.size
  rw [totalOf_size, totalOf_size, hnone, ← hstore.sizeBytes_eq, sum_lostLoad] at hweight
  have hputs_le : steps.countP Step.isPut ≤ steps.length := List.countP_le_length
  rw [show start.size = 0 by rw [size, hindex]; rfl] at hsize
  have hhits : counters.hits.toNat = steps.countP Step.isHit :=
    hlog.counter_eq_countP (by rw [hzero]; rfl) (fun _ _ => rfl) hcalls
  have hmisses : counters.misses.toNat = steps.countP Step.isMiss :=
    hlog.counter_eq_countP (by rw [hzero]; rfl) (fun _ _ => rfl) hcalls
  have hputs : counters.puts.toNat = steps.countP Step.isPut :=
    hlog.counter_eq_countP (by rw [hzero]; rfl) (fun _ _ => rfl) hcalls
  have hover : counters.overCapacity.toNat = steps.countP Step.isOverCapacity :=
    hlog.counter_eq_countP (by rw [hzero]; rfl) (fun _ _ => rfl) hcalls
  have hevictions : counters.evictions.toNat = (steps.map fun step => step.evicted.length).sum :=
    hlog.counter_eq_sum (by rw [hzero]; rfl) (fun _ _ => rfl) (by omega)
  have hevicted : counters.bytesEvicted.toNat =
      (steps.map (Step.evictedLoad ByteArray.size)).sum :=
    hlog.counter_eq_sum (by rw [hzero]; rfl) (fun _ _ => rfl) (by omega)
  have hcount : stats.entryCount.toNat = store.size := UInt64.toNat_ofNat_of_lt' (by omega)
  refine ⟨hhits, hmisses, ?_, hputs, hevictions, hevicted, hover, ?_, ?_⟩
  · rw [hhits, hmisses, hlog.countP_isGet]
  · rw [hcount, hevictions, hputs]
    omega
  · rw [hevicted]
    change store.sizeBytes.toNat + _ + _ + _ + _ = _
    omega

/-- The steps of a sequence of calls, up to one for which the policy's supply of nominations
does not suffice. -/
def trace (store : Store σ) : List Call → List (Step σ)
  | [] => []
  | call :: rest =>
    match store.call call with
    | none => []
    | some (next, reply) => ⟨store, call, reply⟩ :: trace next rest

theorem exists_log_trace (store : Store σ) (calls : List Call) :
    ∃ last, Log store (store.trace calls) last := by
  induction calls generalizing store with
  | nil => exact ⟨store, .nil store⟩
  | cons call rest ih =>
      rw [trace]
      cases hcall : store.call call with
      | none => exact ⟨store, .nil store⟩
      | some result =>
          obtain ⟨last, hlog⟩ := ih result.1
          exact ⟨last, .cons (.of_call hcall) hlog⟩

/-- Calls that meet every case: a block too large for the store evicts what it replaces, an
unknown victim and a victim twice are nominated, and one block each is replaced, removed,
cleared and kept. -/
def everyCase : List (Step Scripted) :=
  trace ⟨4, wayward, .empty, 0, .zero, 0⟩
    [.put "a" ⟨#[1, 2]⟩, .put "b" ⟨#[3, 4]⟩, .get "a", .get "z", .put "" ⟨#[5]⟩,
      .put "a" ⟨#[5, 6, 7, 8, 9]⟩, .put "a" ⟨#[1]⟩, .remove "a", .remove "a",
      .put "c" ⟨#[1, 2, 3]⟩, .clear, .put "d" ⟨#[1, 2]⟩]

theorem counters_account_for_every_case :
    let start : Store Scripted := ⟨4, wayward, .empty, 0, .zero, 0⟩
    create 4 wayward = .ok start ∧ ∃ store, Log start everyCase store ∧
      everyCase.length < UInt64.size ∧
      (everyCase.map (Step.broughtLoad ByteArray.size)).sum < UInt64.size ∧
      store.stats.counters.puts.toNat = 6 ∧ store.stats.counters.evictions.toNat = 2 ∧
      store.stats.counters.bytesEvicted.toNat = 4 ∧ store.stats.counters.overCapacity.toNat = 1 ∧
      store.stats.entryCount.toNat = 1 ∧ store.stats.sizeBytes.toNat = 2 := by
  intro start
  have hstart : create 4 wayward = .ok start := rfl
  have hcalls : everyCase.length < UInt64.size := by cbv
  have hbytes : (everyCase.map (Step.broughtLoad ByteArray.size)).sum < UInt64.size := by cbv
  have hcounts : everyCase.countP Step.isPut = 6 ∧
      (everyCase.map fun step => step.evicted.length).sum = 2 ∧
      (everyCase.map (Step.evictedLoad ByteArray.size)).sum = 4 ∧
      everyCase.countP Step.isOverCapacity = 1 := by cbv
  have hblocks : everyCase.countP Step.isReplacement = 1 ∧
      everyCase.countP Step.isRemoval = 1 ∧
      (everyCase.map (Step.clearedLoad eachBlock)).sum = 1 := by cbv
  have hweights : (everyCase.map (Step.broughtLoad ByteArray.size)).sum = 15 ∧
      (everyCase.map (Step.replacedLoad ByteArray.size)).sum = 5 ∧
      (everyCase.map (Step.removedLoad ByteArray.size)).sum = 1 ∧
      (everyCase.map (Step.clearedLoad ByteArray.size)).sum = 3 := by cbv
  obtain ⟨store, hlog⟩ : ∃ store, Log start everyCase store := exists_log_trace start _
  obtain ⟨-, -, -, hputs, hevictions, hevicted, hover, hcount, hsize⟩ :=
    counters_account_for_calls 4 wayward start store everyCase hstart hlog hcalls hbytes
  refine ⟨hstart, store, hlog, hcalls, hbytes, ?_, ?_, ?_, ?_, ?_, ?_⟩
  · omega
  · omega
  · omega
  · omega
  · omega
  · omega

end Store
end CacheTier
