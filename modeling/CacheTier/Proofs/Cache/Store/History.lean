import CacheTier.Cache.Policy.Scripted
import CacheTier.Proofs.Cache.Store.Run
import Mathlib

/-!
# What a store finds

The calls that were made on a store and what they returned determine what it holds,
whatever its policy nominates: keys that were never stored, the same key again and again,
or the very key that is being replaced.  A look-up finds the payload that was put in last,
unless it has been evicted, removed or cleared since.  All the while the size is the sum of
the payload lengths, and no more bytes are taken off it than it has.
-/

namespace CacheTier
namespace Store

variable {σ : Type} [EvictionPolicy σ]

/-- A call returns.  An insertion does if some number of nominations suffices for it, which
need not be the number that the policy supplies. -/
inductive Returns (store : Store σ) : Call → Store σ → Reply → Prop
  | put (fuel : Nat) {key : String} {payload : ByteArray} {next : Store σ}
      {outcome : Except FleetError PutOutcome}
      (hput : store.putWithin fuel key payload = some (next, outcome)) :
      Returns store (.put key payload) next (.stored outcome)
  | get (key : String) : Returns store (.get key) (store.get key).1 (.found (store.get key).2)
  | contains (key : String) : Returns store (.contains key) store (.present (store.contains key))
  | remove (key : String) :
      Returns store (.remove key) (store.remove key).1 (.removed (store.remove key).2)
  | clear : Returns store .clear store.clear .cleared

/-- A store's calls with what they returned, the latest first, as long as the payload lengths
in the index can be summed up in a word. -/
inductive History (start : Store σ) : List (Call × Reply) → Store σ → Prop
  | start : History start [] start
  | step {entries : List (Call × Reply)} {store next : Store σ} {call : Call} {reply : Reply}
      (hhistory : History start entries store) (hreturns : Returns store call next reply)
      (hbytes : payloadBytes next.index < UInt64.size) :
      History start ((call, reply) :: entries) next

/-! ## The latest insertion -/

/-- A call has put a payload under a key. -/
def Stored (key : String) (payload : ByteArray) (entry : Call × Reply) : Prop :=
  ∃ outcome, entry = (.put key payload, .stored (.ok outcome))

/-- A call has taken a key out: by evicting it, by removing it or by clearing the store. -/
def Dropped (key : String) : Call × Reply → Prop
  | (.put _ _, .stored (.ok outcome)) => key ∈ outcome.evicted
  | (.remove other, _) => other = key
  | (.clear, _) => True
  | _ => False

/-- The latest insertion under a key brought a payload, and no call since has taken the key
out. -/
def Latest (entries : List (Call × Reply)) (key : String) (payload : ByteArray) : Prop :=
  ∃ since entry before, entries = since ++ entry :: before ∧ Stored key payload entry ∧
    ∀ later ∈ since, ¬ Dropped key later ∧ ∀ other, ¬ Stored key other later

section Latest

variable {entries : List (Call × Reply)} {key : String} {payload : ByteArray}

theorem not_latest_nil : ¬ Latest [] key payload := by
  rintro ⟨since, entry, before, hsplit, -⟩
  exact List.append_ne_nil_of_right_ne_nil since (List.cons_ne_nil entry before) hsplit.symm

theorem latest_cons (last : Call × Reply) :
    Latest (last :: entries) key payload ↔
      Stored key payload last ∨
        Latest entries key payload ∧ ¬ Dropped key last ∧ ∀ other, ¬ Stored key other last := by
  constructor
  · rintro ⟨since, entry, before, hsplit, hstored, hsince⟩
    rw [List.cons_eq_append_iff] at hsplit
    rcases hsplit with ⟨rfl, hsplit⟩ | ⟨since, rfl, hsplit⟩
    · rw [List.cons.injEq] at hsplit
      exact Or.inl (hsplit.1 ▸ hstored)
    · rw [List.forall_mem_cons] at hsince
      exact Or.inr ⟨⟨since, entry, before, hsplit, hstored, hsince.2⟩, hsince.1⟩
  · rintro (hstored | ⟨⟨since, entry, before, rfl, hstored, hsince⟩, hlast⟩)
    · exact ⟨[], last, entries, rfl, hstored, by simp⟩
    · exact ⟨last :: since, entry, before, rfl, hstored, List.forall_mem_cons.mpr ⟨hlast, hsince⟩⟩

end Latest

/-! ## Look-ups after a call -/

section Calls

variable {store next last : Store σ} {key : String} {payload : ByteArray}

theorem get_payload (store : Store σ) (key : String) :
    (store.get key).2 = (store.index.get? key).map Block.payload := by
  rw [get]
  cases store.index.get? key with
  | none => rfl
  | some block => rfl

/-- Looking a key up changes no payload. -/
theorem get_payload_get (store : Store σ) (hit key : String) :
    ((store.get hit).1.get key).2 = (store.get key).2 := by
  rw [get_payload, get_payload, get]
  cases hget : store.index.get? hit with
  | none => rfl
  | some block =>
      rw [Table.get?_insert]
      split_ifs with hkey
      · rw [hkey, hget]
        rfl
      · rfl

omit [EvictionPolicy σ] in
theorem get?_dropVictim (store : Store σ) (victim key : String) :
    (store.dropVictim victim).1.index.get? key =
      if key ∈ (store.dropVictim victim).2 then none else store.index.get? key := by
  rw [dropVictim]
  cases hget : store.index.get? victim with
  | none => rfl
  | some block => simp only [Table.get?_erase, List.mem_singleton]

/-- Evictions take the keys out that they list, and no others. -/
theorem EvictsTo.get?_eq {evicted : List String} (h : EvictsTo store evicted last)
    (key : String) :
    last.index.get? key = if key ∈ evicted then none else store.index.get? key := by
  induction h with
  | refl store => rfl
  | @step store last policy victim later hevict hrest ih =>
      rw [ih, get?_dropVictim]
      by_cases hlater : key ∈ later
      · simp [hlater]
      · simp [hlater]

/-- An insertion that returns has failed for want of a key, or has put its block where the
evictions that it lists have led. -/
theorem putWithin_eq_some {fuel : Nat} {outcome : Except FleetError PutOutcome}
    (hput : store.putWithin fuel key payload = some (next, outcome)) :
    (next = store ∧ ∃ cause, outcome = .error cause) ∨
      ∃ (last room : Store σ) (evicted : List String) (exhausted : Bool),
        EvictsTo { store with policy := (EvictionPolicy.remove store.policy key).1 } evicted last ∧
          room.index = last.index ∧ room.sizeBytes = last.sizeBytes ∧
          room.counters =
            (if exhausted then last.counters.countOverCapacity else last.counters) ∧
          next = (room.place key payload).1 ∧
          outcome = .ok ⟨evicted, (room.place key payload).2, exhausted⟩ := by
  by_cases hkey : key.isEmpty = true
  · rw [putWithin_of_isEmpty hkey] at hput
    cases hput
    exact Or.inl ⟨rfl, _, rfl⟩
  · rw [putWithin_eq_map (by simpa using hkey), Option.map_eq_some_iff] at hput
    obtain ⟨⟨room, evicted, exhausted⟩, hroom, heq⟩ := hput
    cases heq
    obtain ⟨last, hrun, hend⟩ := makeRoom_eq_some hroom
    right
    rcases hend with ⟨rfl, rfl, -⟩ | ⟨rfl, -, rfl⟩
    · exact ⟨_, _, evicted, false, hrun, rfl, rfl, rfl, rfl, rfl⟩
    · refine ⟨last, _, evicted, true, hrun, ?_, ?_, ?_, rfl, rfl⟩
      · rfl
      · rfl
      · rfl

theorem Accounted.returns (h : store.Accounted) {call : Call} {reply : Reply}
    (hreturns : Returns store call next reply)
    (hbytes : payloadBytes next.index < UInt64.size) : next.Accounted := by
  cases hreturns with
  | get key => exact h.get key
  | contains key => exact h
  | remove key => exact h.remove key
  | clear => exact Accounted.clear store
  | @put fuel key payload _ outcome hput =>
      rcases putWithin_eq_some hput with
        ⟨rfl, -⟩ | ⟨last, room, evicted, exhausted, hrun, hindex, hsize, -, rfl, -⟩
      · exact h
      · have hunlinked :
            Accounted { store with policy := (EvictionPolicy.remove store.policy key).1 } :=
          h.of_index_eq rfl rfl
        have hroom : room.Accounted := (hunlinked.evictsTo hrun).1.of_index_eq hindex hsize
        have hplaced : payloadBytes (room.place key payload).1.index =
            payload.size + room.bytesBeside key := payloadBytes_insert hroom.ascending key _
        exact hroom.place (by omega)

/-- What a look-up finds after a call is what the call has put in, or what was found before
if the call has left it alone. -/
theorem Returns.get_payload_iff {call : Call} {reply : Reply}
    (h : Returns store call next reply) :
    (next.get key).2 = some payload ↔
      Stored key payload (call, reply) ∨
        (store.get key).2 = some payload ∧ ¬ Dropped key (call, reply) ∧
          ∀ other, ¬ Stored key other (call, reply) := by
  cases h with
  | get hit => simp [get_payload_get, Stored, Dropped]
  | contains other => simp [Stored, Dropped]
  | remove other =>
      rw [get_payload, index_remove, Table.get?_erase, get_payload]
      by_cases hkey : key = other
      · simp [hkey, Stored, Dropped]
      · simp [hkey, Stored, Dropped, eq_comm]
  | clear => simp [get_payload, Store.clear, Stored, Dropped]
  | @put fuel incoming brought _ outcome hput =>
      rcases putWithin_eq_some hput with
        ⟨rfl, cause, rfl⟩ | ⟨last, room, evicted, exhausted, hrun, hindex, -, -, rfl, rfl⟩
      · simp [Stored, Dropped]
      · have hplaced : ((room.place incoming brought).1.get key).2 =
            if key = incoming then some brought else (last.get key).2 := by
          rw [get_payload, get_payload, place, Table.get?_insert, hindex]
          split_ifs
          · rfl
          · rfl
        rw [hplaced, get_payload last, hrun.get?_eq, get_payload store]
        by_cases hkey : key = incoming
        · simp [hkey, Stored, eq_comm]
        · by_cases hevicted : key ∈ evicted
          · simp [hkey, hevicted, Stored, Dropped, eq_comm]
          · simp [hkey, hevicted, Stored, Dropped, eq_comm]

end Calls

/-! ## Histories -/

section Histories

variable {start store : Store σ} {entries : List (Call × Reply)}

theorem History.accounted (h : History start entries store) (hstart : start.Accounted) :
    store.Accounted := by
  induction h with
  | start => exact hstart
  | step hhistory hreturns hbytes ih => exact ih.returns hreturns hbytes

theorem History.get_payload_iff (h : History start entries store)
    (hstart : start.index = .empty) {key : String} {payload : ByteArray} :
    (store.get key).2 = some payload ↔ Latest entries key payload := by
  induction h with
  | start =>
      rw [get_payload, hstart]
      exact iff_of_false (by simp) not_latest_nil
  | step hhistory hreturns hbytes ih =>
      rw [hreturns.get_payload_iff, ih, latest_cons]

theorem Returns.of_call {next : Store σ} {call : Call} {reply : Reply}
    (h : store.call call = some (next, reply)) : Returns store call next reply := by
  cases call with
  | put key payload =>
      obtain ⟨⟨final, outcome⟩, hput, heq⟩ := Option.map_eq_some_iff.mp h
      cases heq
      exact .put _ hput
  | get key =>
      cases h
      exact .get key
  | contains key =>
      cases h
      exact .contains key
  | remove key =>
      cases h
      exact .remove key
  | clear =>
      cases h
      exact .clear

/-- Calls for which the policy's supply of nominations suffices extend a history, if they
bring fewer bytes than there are words. -/
theorem History.run {final : Store σ} {calls : List Call} {replies : List Reply}
    (h : History start entries store) (haccounted : store.Accounted)
    (hbytes : payloadBytes store.index + incoming calls < UInt64.size)
    (hrun : store.run calls = some (final, replies)) :
    History start ((calls.zip replies).reverse ++ entries) final := by
  induction calls generalizing store entries replies with
  | nil =>
      cases hrun
      exact h
  | cons first rest ih =>
      have hincoming : incoming (first :: rest) = first.incoming + incoming rest := rfl
      obtain ⟨⟨next, reply⟩, hcall, hrest⟩ := Option.bind_eq_some_iff.mp hrun
      obtain ⟨⟨last, more⟩, hmore, heq⟩ := Option.bind_eq_some_iff.mp hrest
      cases heq
      have hfirst := (addressable_of_incoming_lt haccounted hbytes).1
      obtain ⟨hnext, hle⟩ := haccounted.call hfirst hcall
      have hstep := ih (h.step (.of_call hcall) (by omega)) hnext (by omega) hmore
      rw [List.zip_cons_cons, List.reverse_cons, List.append_assoc]
      exact hstep

end Histories

/-- Whatever the policy answers, after any calls that returned: the size is the sum of the
payload lengths in the index; what a removal, an eviction or a replacement takes off it is
never more than it has, in the loop of an insertion too; there are as many blocks as keys
that a look-up finds; and it finds the payload that the latest insertion under the key
brought, unless the key has been evicted, removed or cleared since. -/
theorem history_accounts_and_keeps_latest (capacityBytes : UInt64) (policy : σ)
    (start store : Store σ) (entries : List (Call × Reply))
    (hstart : create capacityBytes policy = .ok start)
    (hhistory : History start entries store) :
    store.sizeBytes.toNat = payloadBytes store.index ∧
      (∀ key, store.blockSize key ≤ store.sizeBytes) ∧
      (∀ key evicted last,
        EvictsTo { store with policy := (EvictionPolicy.remove store.policy key).1 } evicted last →
        ∀ victim, last.blockSize victim ≤ last.sizeBytes) ∧
      (∃ keys : Finset String, (∀ key, key ∈ keys ↔ (store.get key).2 ≠ none) ∧
        store.size = keys.card) ∧
      ∀ key payload, (store.get key).2 = some payload ↔ Latest entries key payload := by
  have haccounted := hhistory.accounted (Accounted.create hstart)
  have hempty : start.index = .empty := by
    rw [create] at hstart
    split_ifs at hstart
    cases hstart
    rfl
  refine ⟨haccounted.sizeBytes_eq, haccounted.blockSize_le, ?_, ?_, ?_⟩
  · intro key evicted last hevictions
    have hunlinked :
        Accounted { store with policy := (EvictionPolicy.remove store.policy key).1 } :=
      haccounted.of_index_eq rfl rfl
    exact (hunlinked.evictsTo hevictions).1.blockSize_le
  · refine ⟨store.index.keys.toFinset, ?_, ?_⟩
    · intro key
      rw [List.mem_toFinset, ← Table.contains_iff_mem_keys, Table.contains, get_payload,
        ← Option.isSome_iff_ne_none, Option.isSome_map]
    · rw [List.toFinset_card_of_nodup haccounted.ascending.nodup, Table.length_keys, size]
  · intro key payload
    exact hhistory.get_payload_iff hempty

/-- A policy that nominates a key nobody stored, then the key that is being replaced, then
another key twice. -/
def wayward : Scripted := .ofVictims [some "x", some "a", some "b", some "b", none]

theorem history_accounts_with_wayward_policy :
    let start : Store Scripted := ⟨4, wayward, .empty, 0, .zero, 0⟩
    let entries : List (Call × Reply) :=
      [(.put "a" ⟨#[5, 6, 7, 8, 9]⟩, .stored (.ok ⟨["a", "b"], false, true⟩)),
        (.put "b" ⟨#[3, 4]⟩, .stored (.ok ⟨[], false, false⟩)),
        (.put "a" ⟨#[1, 2]⟩, .stored (.ok ⟨[], false, false⟩))]
    create 4 wayward = .ok start ∧
      ∃ store, History start entries store ∧ store.sizeBytes.toNat = payloadBytes store.index ∧
        (store.get "a").2 = some ⟨#[5, 6, 7, 8, 9]⟩ ∧
        ∀ payload, (store.get "b").2 ≠ some payload := by
  intro start entries
  have hstart : create 4 wayward = .ok start := rfl
  have heval : (start.run (entries.reverse.map Prod.fst)).map Prod.snd =
      some (entries.reverse.map Prod.snd) := by cbv
  obtain ⟨⟨store, replies⟩, hrun, rfl⟩ := Option.map_eq_some_iff.mp heval
  have hhistory : History start entries store :=
    History.start.run (Accounted.create hstart) (by decide) hrun
  obtain ⟨hsize, -, -, -, hlatest⟩ :=
    history_accounts_and_keeps_latest 4 wayward start store entries hstart hhistory
  refine ⟨hstart, store, hhistory, hsize, ?_, ?_⟩
  · rw [hlatest]
    exact ⟨[], _, _, rfl, ⟨_, rfl⟩, by simp⟩
  · intro payload
    rw [ne_eq, hlatest, latest_cons]
    simp [Stored, Dropped]

end Store
end CacheTier
