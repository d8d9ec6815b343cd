import CacheTier.Proofs.Cache.Store.History

/-!
# The budget of an insertion

An insertion that does not report a lack of victims has stopped evicting where the new block
fits.  The size of the block that it replaces is read before the first eviction, so the test
for room is right as long as that block stays.  A policy that nominates it, although it has
just been told to forget its key, leaves a store that is over its capacity without saying so,
but by no more than the size of the replaced block.
-/

namespace CacheTier
namespace Store

variable {σ : Type} {store last final : Store σ} {key victim : String} {payload : ByteArray}
  {evicted : List String}

variable [EvictionPolicy σ]

/-- A key whose block is evicted has been nominated. -/
theorem EvictsTo.exists_nomination (h : EvictsTo store evicted last) (hkey : key ∈ evicted) :
    ∃ before reached, EvictsTo store before reached ∧
      (EvictionPolicy.evict reached.policy).2 = some key := by
  induction h with
  | refl store => cases hkey
  | @step store last policy victim evicted hevict hrest ih =>
      rcases List.mem_append.mp hkey with hdropped | hlater
      · refine ⟨[], store, .refl store, ?_⟩
        rw [dropVictim] at hdropped
        split at hdropped
        · cases hdropped
        · rw [List.mem_singleton.mp hdropped, hevict]
      · obtain ⟨before, reached, hbefore, hnominated⟩ := ih hlater
        exact ⟨_, reached, .step hevict hbefore, hnominated⟩

/-- An insertion that reports no lack of victims has evicted until the test for room, made with
the size that the replaced block had at first, was passed. -/
theorem exists_fits_of_putWithin {fuel : Nat} {outcome : PutOutcome}
    (hput : store.putWithin fuel key payload = some (final, .ok outcome))
    (hroom : outcome.overCapacity = false) :
    ∃ last, EvictsTo { store with policy := (EvictionPolicy.remove store.policy key).1 }
          outcome.evicted last ∧
      last.fits (store.blockSize key) (UInt64.ofNat payload.size) = true ∧
      final = (last.place key payload).1 := by
  by_cases hkey : key.isEmpty = true
  · rw [putWithin_of_isEmpty hkey] at hput
    cases hput
  · rw [putWithin_eq_map (by simpa using hkey), Option.map_eq_some_iff] at hput
    obtain ⟨⟨room, evicted, exhausted⟩, hmade, heq⟩ := hput
    cases heq
    obtain ⟨last, hrun, ⟨-, rfl, hfits⟩ | ⟨hexhausted, -, -⟩⟩ := makeRoom_eq_some hmade
    · exact ⟨_, hrun, hfits, rfl⟩
    · rw [hexhausted] at hroom
      cases hroom

/-- Whatever the policy nominates, an insertion that reports no lack of victims leaves a store
within its capacity, unless it has evicted the very block that it was to replace; then the
store is over its capacity by no more than the size of that block.  So no policy that spares
the key it was told to forget leads beyond the capacity. -/
theorem put_keeps_budget_sparing_replaced (capacityBytes : UInt64) (policy : σ)
    (start : Store σ) (entries : List (Call × Reply)) (fuel : Nat) (outcome : PutOutcome)
    (hstart : create capacityBytes policy = .ok start) (hhistory : History start entries store)
    (hput : store.putWithin fuel key payload = some (final, .ok outcome))
    (hbytes : payloadBytes final.index < UInt64.size) (hroom : outcome.overCapacity = false) :
    (final.sizeBytes ≤ final.capacityBytes ∨
      key ∈ outcome.evicted ∧
        final.sizeBytes.toNat ≤ final.capacityBytes.toNat + (store.blockSize key).toNat) ∧
      ((∀ before reached,
          EvictsTo { store with policy := (EvictionPolicy.remove store.policy key).1 }
            before reached →
          (EvictionPolicy.evict reached.policy).2 ≠ some key) →
        final.sizeBytes ≤ final.capacityBytes) := by
  have haccounted := hhistory.accounted (Accounted.create hstart)
  have hunlinked : Accounted { store with policy := (EvictionPolicy.remove store.policy key).1 } :=
    haccounted.of_index_eq rfl rfl
  obtain ⟨last, hrun, hfits, rfl⟩ := exists_fits_of_putWithin hput hroom
  have hlast : last.Accounted := (hunlinked.evictsTo hrun).1
  have hindex : payloadBytes (last.place key payload).1.index =
      payload.size + last.bytesBeside key := payloadBytes_insert hlast.ascending key _
  have hsize : (last.place key payload).1.sizeBytes.toNat =
      last.bytesBeside key + payload.size := by
    rw [(hlast.place (by omega)).sizeBytes_eq, hindex, Nat.add_comm]
  have hsum := hlast.blockSize_add_bytesBeside key
  have hget := hrun.get?_eq key
  have hspared : key ∉ outcome.evicted →
      (last.place key payload).1.sizeBytes ≤ (last.place key payload).1.capacityBytes := by
    intro hkey
    have hblock : last.blockSize key = store.blockSize key := by
      rw [blockSize, hget, if_neg hkey, blockSize]
    rw [← hblock, hlast.fits_iff (by omega)] at hfits
    rw [UInt64.le_iff_toNat_le, hsize]
    exact hfits
  refine ⟨?_, ?_⟩
  · by_cases hkey : key ∈ outcome.evicted
    · -- the block is gone, but the test still takes its size off
      have hblock : last.blockSize key = 0 := by
        rw [blockSize, hget, if_pos hkey]
        rfl
      rw [hblock, UInt64.toNat_zero, Nat.zero_add] at hsum
      rw [fits_iff_sub (by omega)] at hfits
      have hcapacity : (last.place key payload).1.capacityBytes = last.capacityBytes := rfl
      exact Or.inr ⟨hkey, by rw [hsize, hcapacity]; omega⟩
    · exact Or.inl (hspared hkey)
  · intro hsparing
    apply hspared
    intro hkey
    obtain ⟨before, reached, hbefore, hnominated⟩ := hrun.exists_nomination hkey
    exact hsparing before reached hbefore hnominated

/-! ## Ten bytes -/

/-- An empty store for ten bytes whose policy nominates what it is told to. -/
def tenBytes (victims : List (Option String)) : Store Scripted :=
  ⟨10, .ofVictims victims, .empty, 0, .zero, 0⟩

/-- Four bytes under one key and six under another. -/
def filling : List Call := [.put "a" ⟨#[1, 2, 3, 4]⟩, .put "b" ⟨#[1, 2, 3, 4, 5, 6]⟩]

/-- Eight bytes. -/
def larger : ByteArray := ⟨#[1, 2, 3, 4, 5, 6, 7, 8]⟩

/-- What comes of putting eight bytes in the place of the four: the outcome, the bytes stored
then, and whether they are within the capacity. -/
def enlarge (store : Store Scripted) : Option (Except FleetError PutOutcome × Nat × Bool) :=
  (store.put? "a" larger).map fun result =>
    (result.2, payloadBytes result.1.index, result.1.sizeBytes ≤ result.1.capacityBytes)

theorem exists_history_of_enlarge (victims : List (Option String)) (outcome : PutOutcome)
    (bytes : Nat) (within : Bool)
    (h : ((tenBytes victims).run filling).bind (fun result => enlarge result.1) =
      some (.ok outcome, bytes, within)) :
    ∃ entries store final, History (tenBytes victims) entries store ∧
      store.putWithin (EvictionPolicy.supply store.policy + 1) "a" larger =
        some (final, .ok outcome) ∧
      payloadBytes final.index = bytes ∧
      (final.sizeBytes ≤ final.capacityBytes ↔ within = true) := by
  obtain ⟨⟨store, replies⟩, hrun, henlarge⟩ := Option.bind_eq_some_iff.mp h
  obtain ⟨⟨final, _⟩, hput, heq⟩ := Option.map_eq_some_iff.mp henlarge
  cases heq
  have hstart : (tenBytes victims).Accounted := ⟨Table.ascending_empty, rfl⟩
  have hindex : (tenBytes victims).index = .empty := rfl
  have hbytes : payloadBytes (tenBytes victims).index + incoming filling < UInt64.size := by
    rw [hindex]
    decide
  exact ⟨_, store, final, History.start.run hstart hbytes hrun, hput, rfl, decide_eq_true_iff.symm⟩

/-- The nomination of a key that nobody stored takes nothing out, and the next one makes
room. -/
theorem put_keeps_budget_past_unknown_nomination :
    let policy := Scripted.ofVictims [some "x", some "b"]
    create 10 policy = .ok (tenBytes [some "x", some "b"]) ∧
      ∃ entries store final fuel, History (tenBytes [some "x", some "b"]) entries store ∧
        store.putWithin fuel "a" larger = some (final, .ok ⟨["b"], true, false⟩) ∧
        payloadBytes final.index < UInt64.size ∧ final.sizeBytes ≤ final.capacityBytes := by
  intro policy
  have hstart : create 10 policy = .ok (tenBytes [some "x", some "b"]) := rfl
  obtain ⟨entries, store, final, hhistory, hput, hindex, -⟩ :=
    exists_history_of_enlarge [some "x", some "b"] ⟨["b"], true, false⟩ 8 true (by cbv)
  have hbytes : payloadBytes final.index < UInt64.size := by
    rw [hindex]
    decide
  obtain ⟨hbudget, -⟩ :=
    put_keeps_budget_sparing_replaced 10 policy _ entries _ _ hstart hhistory hput hbytes rfl
  exact ⟨hstart, entries, store, final, _, hhistory, hput, hbytes,
    hbudget.resolve_right fun h => absurd h.1 (by decide)⟩

/-- A policy nominates the key whose block is being replaced.  The loop takes the block out and
then, in the test for room, its size off the rest once more: it stops with six bytes left, and
there are fourteen in the end, for ten bytes of capacity. -/
theorem nominated_replacement_exceeds_budget :
    let policy := Scripted.ofVictims [some "a", some "b"]
    create 10 policy = .ok (tenBytes [some "a", some "b"]) ∧
      ∃ entries store final fuel, History (tenBytes [some "a", some "b"]) entries store ∧
        store.putWithin fuel "a" larger = some (final, .ok ⟨["a"], false, false⟩) ∧
        payloadBytes final.index = 14 ∧ ¬ final.sizeBytes ≤ final.capacityBytes := by
  intro policy
  obtain ⟨entries, store, final, hhistory, hput, hindex, hwithin⟩ :=
    exists_history_of_enlarge [some "a", some "b"] ⟨["a"], false, false⟩ 14 false (by cbv)
  exact ⟨rfl, entries, store, final, _, hhistory, hput, hindex, mt hwithin.mp Bool.false_ne_true⟩

end Store
end CacheTier
