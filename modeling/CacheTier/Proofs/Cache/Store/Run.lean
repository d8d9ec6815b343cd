import CacheTier.Proofs.Cache.Store.Accounting

/-!
# Runs of a store

Calls on a store and what they return, for any policy.  The loop of an insertion takes
out nominated victims one after another; it ends in a store in which the block fits, or
in one whose policy has no victim left.
-/

namespace CacheTier
namespace Store

/-- A call on a store. -/
inductive Call where
  | put (key : String) (payload : ByteArray)
  | get (key : String)
  | contains (key : String)
  | remove (key : String)
  | clear

/-- What a call returns. -/
inductive Reply where
  | stored (outcome : Except FleetError PutOutcome)
  | found (payload : Option ByteArray)
  | present (known : Bool)
  | removed (known : Bool)
  | cleared

variable {σ : Type} [EvictionPolicy σ]

/-- The store after a call and what the call returns; `none` if the policy's supply of
nominations does not suffice for it. -/
def call (store : Store σ) : Call → Option (Store σ × Reply)
  | .put key payload =>
    (store.put? key payload).map fun result => (result.1, .stored result.2)
  | .get key => some ((store.get key).1, .found (store.get key).2)
  | .contains key => some (store, .present (store.contains key))
  | .remove key => some ((store.remove key).1, .removed (store.remove key).2)
  | .clear => some (store.clear, .cleared)

/-- The store after a sequence of calls and what the calls return. -/
def run : Store σ → List Call → Option (Store σ × List Reply)
  | store, [] => some (store, [])
  | store, first :: rest => do
    let (store, reply) ← store.call first
    let (store, replies) ← run store rest
    return (store, reply :: replies)

/-! ## Evictions -/

/-- Victims that the policy nominates are taken out one after another, which leads from
one store to another.  The victims that had a block are listed. -/
inductive EvictsTo : Store σ → List String → Store σ → Prop
  | refl (store : Store σ) : EvictsTo store [] store
  | step {store last : Store σ} {policy : σ} {victim : String} {evicted : List String}
      (hevict : EvictionPolicy.evict store.policy = (policy, some victim))
      (hrest : EvictsTo ({ store with policy }.dropVictim victim).1 evicted last) :
      EvictsTo store (({ store with policy }.dropVictim victim).2 ++ evicted) last

variable {store last : Store σ} {key : String} {payload : ByteArray} {evicted : List String}

@[simp] theorem capacityBytes_dropVictim {σ : Type} (store : Store σ) (victim : String) :
    (store.dropVictim victim).1.capacityBytes = store.capacityBytes := by
  rw [dropVictim]
  split
  · rfl
  · rfl

@[simp] theorem policy_dropVictim {σ : Type} (store : Store σ) (victim : String) :
    (store.dropVictim victim).1.policy = store.policy := by
  rw [dropVictim]
  split
  · rfl
  · rfl

theorem EvictsTo.capacityBytes_eq (h : EvictsTo store evicted last) :
    last.capacityBytes = store.capacityBytes := by
  induction h with
  | refl store => rfl
  | step hevict hrest ih => exact ih.trans (capacityBytes_dropVictim _ _)

/-- Evictions keep the account, and leave no more bytes beside a key than there were. -/
theorem Accounted.evictsTo (h : store.Accounted) (hrun : EvictsTo store evicted last) :
    last.Accounted ∧ ∀ key, last.bytesBeside key ≤ store.bytesBeside key := by
  induction hrun with
  | refl store => exact ⟨h, fun key => Nat.le_refl _⟩
  | @step store last policy victim evicted hevict hrest ih =>
      have hpolicy : Accounted { store with policy } := h.of_index_eq rfl rfl
      obtain ⟨hlast, hle⟩ := ih (hpolicy.dropVictim victim)
      refine ⟨hlast, fun key => (hle key).trans ?_⟩
      rw [bytesBeside, bytesBeside, index_dropVictim, Table.erase_comm]
      exact payloadBytes_erase_le (Table.ascending_erase h.ascending key) victim

/-- The loop of an insertion ends where the block fits or the policy has no victim. -/
theorem makeRoom_eq_some {previous incoming : UInt64} {fuel : Nat} {final : Store σ}
    {exhausted : Bool}
    (h : store.makeRoom previous incoming fuel = some (final, evicted, exhausted)) :
    ∃ last, EvictsTo store evicted last ∧
      ((exhausted = false ∧ final = last ∧ last.fits previous incoming = true) ∨
        (exhausted = true ∧ (EvictionPolicy.evict last.policy).2 = none ∧
          final = { last with
            policy := (EvictionPolicy.evict last.policy).1
            counters := last.counters.countOverCapacity })) := by
  induction fuel generalizing store evicted with
  | zero =>
      rw [makeRoom] at h
      split_ifs at h with hfits
      cases h
      exact ⟨_, .refl _, Or.inl ⟨rfl, rfl, hfits⟩⟩
  | succ fuel ih =>
      rw [makeRoom] at h
      split_ifs at h with hfits
      · cases h
        exact ⟨_, .refl _, Or.inl ⟨rfl, rfl, hfits⟩⟩
      · rcases hevict : EvictionPolicy.evict store.policy with ⟨policy, _ | victim⟩
        · rw [hevict] at h
          cases h
          exact ⟨store, .refl _, Or.inr ⟨rfl, by rw [hevict], by rw [hevict]⟩⟩
        · rw [hevict] at h
          obtain ⟨⟨final', evicted', exhausted'⟩, hrest, heq⟩ := Option.bind_eq_some_iff.mp h
          cases heq
          obtain ⟨last, hrun, hend⟩ := ih hrest
          exact ⟨last, .step hevict hrun, hend⟩

theorem putWithin_of_isEmpty (hkey : key.isEmpty = true) (fuel : Nat) :
    store.putWithin fuel key payload =
      some (store, .error (.invalidArgument "block key must not be empty")) := by
  simp only [putWithin, hkey]
  rfl

/-- An insertion makes room beside the old block of its key, which is no longer tracked,
and puts the new block in its place. -/
theorem putWithin_eq_map (hkey : key.isEmpty = false) (fuel : Nat) :
    store.putWithin fuel key payload =
      (makeRoom (store.blockSize key) (UInt64.ofNat payload.size) fuel
        { store with policy := (EvictionPolicy.remove store.policy key).1 }).map
          fun room => ((room.1.place key payload).1,
            .ok ⟨room.2.1, (room.1.place key payload).2, room.2.2⟩) := by
  simp only [putWithin, hkey, Option.map_eq_bind]
  rfl

theorem put?_of_isEmpty (hkey : key.isEmpty = true) : store.put? key payload =
    some (store, .error (.invalidArgument "block key must not be empty")) :=
  putWithin_of_isEmpty hkey _

theorem put?_eq_map (hkey : key.isEmpty = false) : store.put? key payload =
    (makeRoom (store.blockSize key) (UInt64.ofNat payload.size)
      (EvictionPolicy.supply store.policy + 1)
      { store with policy := (EvictionPolicy.remove store.policy key).1 }).map
        fun room => ((room.1.place key payload).1,
          .ok ⟨room.2.1, (room.1.place key payload).2, room.2.2⟩) :=
  putWithin_eq_map hkey _

/-! ## Accounts of runs -/

/-- The payload that a call stores and the blocks under other keys are fewer bytes than
there are words. -/
def Call.Addressable (store : Store σ) : Call → Prop
  | .put key payload => store.bytesBeside key + payload.size < UInt64.size
  | _ => True

/-- At every call of a run, the bytes can be counted in a word. -/
def Addressable : Store σ → List Call → Prop
  | _, [] => True
  | store, first :: rest => first.Addressable store ∧
      ∀ next reply, store.call first = some (next, reply) → Addressable next rest

/-- The length of the payload that a call brings. -/
def Call.incoming : Call → Nat
  | .put _ payload => payload.size
  | _ => 0

/-- The sum of the payload lengths that a sequence of calls brings. -/
def incoming (calls : List Call) : Nat := calls.foldr (fun next total => next.incoming + total) 0

theorem Accounted.makeRoom {previous incoming : UInt64} {fuel : Nat} {room : Store σ}
    {exhausted : Bool} (h : store.Accounted)
    (hroom : store.makeRoom previous incoming fuel = some (room, evicted, exhausted)) :
    room.Accounted ∧ ∀ key, room.bytesBeside key ≤ store.bytesBeside key := by
  obtain ⟨last, hrun, hend⟩ := makeRoom_eq_some hroom
  have hlast := h.evictsTo hrun
  rcases hend with ⟨-, rfl, -⟩ | ⟨-, -, rfl⟩
  · exact hlast
  · exact ⟨hlast.1.of_index_eq rfl rfl, hlast.2⟩

theorem Accounted.put (h : store.Accounted) {final : Store σ}
    {outcome : Except FleetError PutOutcome}
    (hbytes : store.bytesBeside key + payload.size < UInt64.size)
    (hput : store.put? key payload = some (final, outcome)) :
    final.Accounted ∧ payloadBytes final.index ≤ payloadBytes store.index + payload.size := by
  by_cases hkey : key.isEmpty = true
  · rw [put?_of_isEmpty hkey] at hput
    cases hput
    exact ⟨h, Nat.le_add_right _ _⟩
  · rw [put?_eq_map (by simpa using hkey), Option.map_eq_some_iff] at hput
    obtain ⟨⟨room, evicted, exhausted⟩, hroom, heq⟩ := hput
    cases heq
    have hunlinked : Accounted { store with policy := (EvictionPolicy.remove store.policy key).1 } :=
      h.of_index_eq rfl rfl
    obtain ⟨haccounted, hle⟩ := hunlinked.makeRoom hroom
    have hbeside : room.bytesBeside key ≤ store.bytesBeside key := hle key
    have hindex : payloadBytes (room.place key payload).1.index =
        payload.size + room.bytesBeside key := payloadBytes_insert haccounted.ascending key _
    have herase : store.bytesBeside key ≤ payloadBytes store.index :=
      payloadBytes_erase_le h.ascending key
    exact ⟨haccounted.place (by omega), hindex.trans_le (by omega)⟩

theorem Accounted.call (h : store.Accounted) {first : Call} {next : Store σ} {reply : Reply}
    (hbytes : first.Addressable store) (hcall : store.call first = some (next, reply)) :
    next.Accounted ∧ payloadBytes next.index ≤ payloadBytes store.index + first.incoming := by
  cases first with
  | put key payload =>
      obtain ⟨⟨final, outcome⟩, hput, heq⟩ := Option.map_eq_some_iff.mp hcall
      cases heq
      exact h.put hbytes hput
  | get key =>
      cases hcall
      exact ⟨h.get key, Nat.le_of_eq (h.payloadBytes_get key)⟩
  | contains key =>
      cases hcall
      exact ⟨h, Nat.le_refl _⟩
  | remove key =>
      cases hcall
      rw [index_remove]
      exact ⟨h.remove key, payloadBytes_erase_le h.ascending key⟩
  | clear =>
      cases hcall
      exact ⟨Accounted.clear store, Nat.zero_le _⟩

/-- A run that brings fewer bytes than there are words is addressable. -/
theorem addressable_of_incoming_lt (h : store.Accounted) {calls : List Call}
    (hbytes : payloadBytes store.index + incoming calls < UInt64.size) :
    Addressable store calls := by
  induction calls generalizing store with
  | nil => trivial
  | cons first rest ih =>
      have hsplit : incoming (first :: rest) = first.incoming + incoming rest := rfl
      have hfirst : first.Addressable store := by
        cases first with
        | put key payload =>
            have herase : store.bytesBeside key ≤ payloadBytes store.index :=
              payloadBytes_erase_le h.ascending key
            have hincoming : (Call.put key payload).incoming = payload.size := rfl
            rw [Call.Addressable]
            omega
        | get key => trivial
        | contains key => trivial
        | remove key => trivial
        | clear => trivial
      refine ⟨hfirst, ?_⟩
      intro next reply hcall
      obtain ⟨hnext, hle⟩ := h.call hfirst hcall
      exact ih hnext (by omega)

end Store
end CacheTier
