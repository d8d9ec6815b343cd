import CacheTier.Proofs.Cache.EvictionOrder
import CacheTier.Proofs.Cache.Store.History
import CacheTier.Proofs.Cache.Store.InStep

/-!
# What an insertion evicts

The loop of an insertion tests for room with a size that still counts the block to be
replaced, while the blocks of other keys go one after another.  Over a policy that keeps an
order of its keys this evicts what is needed and no more: the other keys in their order, up to
the first point at which the new block fits beside the rest.
-/

namespace CacheTier
namespace Store

variable {σ : Type} {sound : σ → Prop} {tracked order : σ → List String} {store last : Store σ}
  {key : String} {payload : ByteArray} {evicted before : List String}

/-! ## Room -/

/-- The bytes of the blocks that are left when some keys are gone. -/
def bytesWithout (store : Store σ) (gone : List String) : Nat :=
  payloadBytes ⟨store.index.entries.filter fun pair => pair.1 ∉ gone⟩

/-- With some keys gone, a block fits in the place of the one under its key. -/
def HasRoom (store : Store σ) (key : String) (payload : ByteArray) (gone : List String) : Prop :=
  store.bytesWithout (key :: gone) + payload.size ≤ store.capacityBytes.toNat

instance (store : Store σ) (key : String) (payload : ByteArray) (gone : List String) :
    Decidable (store.HasRoom key payload gone) :=
  inferInstanceAs (Decidable (_ ≤ _))

/-- The shortest prefix of a list for which something holds, and all of the list if it holds
for no prefix. -/
def ShortestPrefix (P : List String → Prop) (whole found : List String) : Prop :=
  found <+: whole ∧ (∀ shorter, shorter <+: found → shorter ≠ found → ¬P shorter) ∧
    (P found ∨ found = whole)

/-- Where no other key is left, no bytes are. -/
theorem bytesWithout_eq_zero {gone : List String} (h : ∀ k, store.contains k = true → k ∈ gone) :
    store.bytesWithout gone = 0 := by
  have hnone : store.index.entries.filter (fun pair => decide (pair.1 ∉ gone)) = [] := by
    rw [List.filter_eq_nil_iff]
    intro pair hpair
    have hkey : store.contains pair.1 = true :=
      Table.contains_iff_mem_keys.mpr (List.mem_map_of_mem hpair)
    simpa using h pair.1 hkey
  rw [bytesWithout, payloadBytes, hnone]
  rfl

variable [EvictionPolicy σ]

/-- Evictions leave beside a key's block those of the keys that they do not list. -/
theorem Accounted.bytesBeside_evictsTo (h : store.Accounted) (hrun : EvictsTo store evicted last)
    (key : String) : last.bytesBeside key = store.bytesWithout (key :: evicted) := by
  have hentries : (last.index.erase key).entries =
      store.index.entries.filter fun pair => decide (pair.1 ∉ key :: evicted) := by
    apply h.ascending.entries_eq_filter (Table.ascending_erase (h.evictsTo hrun).1.ascending key)
      (p := fun k => decide (k ∉ key :: evicted))
    intro k
    rw [Table.get?_erase, hrun.get?_eq]
    by_cases hk : k = key
    · simp [hk]
    · by_cases hgone : k ∈ evicted
      · simp [hk, hgone]
      · simp [hk, hgone]
  rw [bytesBeside, bytesWithout, payloadBytes, payloadBytes, hentries]

/-! ## Evictions in order -/

section Ordered

variable (hpolicy : EvictionPolicy.Faithful sound tracked)
  (hordered : EvictionPolicy.Ordered sound order)
include hpolicy

/-- A policy in step nominates stored keys, so each nomination is an eviction. -/
theorem InStep.snd_dropVictim {apart : Option String} {policy : σ} {victim : String}
    (h : store.InStep sound tracked apart)
    (hevict : EvictionPolicy.evict store.policy = (policy, some victim)) :
    ({ store with policy }.dropVictim victim).2 = [victim] := by
  obtain ⟨hcontains, -⟩ := h.contains_victim hpolicy (congrArg Prod.snd hevict)
  obtain ⟨block, hblock⟩ := Option.isSome_iff_exists.mp hcontains
  rw [dropVictim, hblock]

include hordered

/-- Evictions take keys off the front of the order. -/
theorem InStep.order_evictsTo {apart : Option String} (h : store.InStep sound tracked apart)
    (hrun : EvictsTo store evicted last) :
    order store.policy = evicted ++ order last.policy := by
  induction hrun with
  | refl store => rfl
  | @step store last policy victim evicted hevict hrest ih =>
      obtain ⟨hhead, htail⟩ := hordered.evict store.policy h.sound
      rw [hevict] at hhead htail
      obtain ⟨rest, horder⟩ := List.head?_eq_some_iff.mp hhead.symm
      rw [h.snd_dropVictim hpolicy hevict, List.append_assoc, ← ih (h.evict hpolicy hevict),
        policy_dropVictim, htail, horder]
      rfl

end Ordered

omit [EvictionPolicy σ] in
theorem snd_dropVictim_cases (store : Store σ) (victim : String) :
    (store.dropVictim victim).2 = [] ∨ (store.dropVictim victim).2 = [victim] := by
  rw [dropVictim]
  cases store.index.get? victim with
  | none => exact Or.inl rfl
  | some block => exact Or.inr rfl

/-- While there is no room the loop goes on with the next nomination. -/
theorem makeRoom_succ {previous incoming : UInt64} {fuel : Nat} {policy : σ} {victim : String}
    (hfull : ¬store.fits previous incoming = true)
    (hevict : EvictionPolicy.evict store.policy = (policy, some victim)) :
    store.makeRoom previous incoming (fuel + 1) =
      (makeRoom previous incoming fuel ({ store with policy }.dropVictim victim).1).map
        fun room => (room.1, ({ store with policy }.dropVictim victim).2 ++ room.2.1, room.2.2) := by
  rw [makeRoom, if_neg hfull, hevict, Option.map_eq_bind]
  rfl

/-- At every point of the loop but the last there was no room, and at the last one neither if
victims ran out. -/
theorem exists_not_fits_of_makeRoom {previous incoming : UInt64} {fuel : Nat} {room : Store σ}
    {exhausted : Bool}
    (hroom : store.makeRoom previous incoming fuel = some (room, evicted, exhausted))
    (hbefore : before <+: evicted) (hmore : before ≠ evicted ∨ exhausted = true) :
    ∃ mid, EvictsTo store before mid ∧ mid.fits previous incoming = false := by
  induction fuel generalizing store evicted before with
  | zero =>
      rw [makeRoom] at hroom
      split_ifs at hroom
      cases hroom
      obtain rfl := List.prefix_nil.mp hbefore
      simp at hmore
  | succ fuel ih =>
      by_cases hfits : store.fits previous incoming = true
      · rw [makeRoom, if_pos hfits] at hroom
        cases hroom
        obtain rfl := List.prefix_nil.mp hbefore
        simp at hmore
      have hfull : store.fits previous incoming = false := by simpa using hfits
      by_cases hstart : before = []
      · exact ⟨store, hstart ▸ .refl store, hfull⟩
      rcases hevict : EvictionPolicy.evict store.policy with ⟨policy, _ | victim⟩
      · rw [makeRoom, if_neg hfits, hevict] at hroom
        cases hroom
        exact absurd (List.prefix_nil.mp hbefore) hstart
      · rw [makeRoom_succ hfits hevict, Option.map_eq_some_iff] at hroom
        obtain ⟨⟨room', later, exhausted'⟩, hrest, heq⟩ := hroom
        have hdropped := snd_dropVictim_cases { store with policy } victim
        have hstep {mid : Store σ} {front : List String}
            (hlater : EvictsTo ({ store with policy }.dropVictim victim).1 front mid) :
            EvictsTo store (({ store with policy }.dropVictim victim).2 ++ front) mid :=
          .step hevict hlater
        generalize ({ store with policy }.dropVictim victim).2 = dropped at heq hdropped hstep
        cases heq
        obtain ⟨front, rfl, hfront⟩ : ∃ front, before = dropped ++ front ∧ front <+: later := by
          rcases hdropped with rfl | rfl
          · exact ⟨before, rfl, hbefore⟩
          · exact (List.prefix_cons_iff.mp hbefore).resolve_left hstart
        obtain ⟨mid, hmid, hfull⟩ :=
          ih hrest hfront (hmore.imp_left fun hne heq => hne (by rw [heq]))
        exact ⟨mid, hstep hmid, hfull⟩

/-! ## Insertions -/

section Insertions

variable (hpolicy : EvictionPolicy.Faithful sound tracked)
include hpolicy

/-- In the loop the test for room sees the blocks that are left beside the one to be
replaced. -/
theorem InStep.fits_iff_hasRoom (h : store.InStep sound tracked (some key))
    (hbytes : store.bytesBeside key + payload.size < UInt64.size)
    (hrun : EvictsTo store evicted last) :
    last.fits (store.blockSize key) (UInt64.ofNat payload.size) = true ↔
      store.HasRoom key payload evicted := by
  have hlast := h.evictsTo hpolicy hrun
  have hblock : last.blockSize key = store.blockSize key := by
    rw [blockSize, blockSize, h.get?_evictsTo hpolicy hrun]
  have hbeside := (h.accounted.evictsTo hrun).2 key
  rw [← hblock, hlast.accounted.fits_iff (by omega), h.accounted.bytesBeside_evictsTo hrun,
    HasRoom, hrun.capacityBytes_eq]

/-- Over an ordered policy an insertion returns, has evicted the shortest prefix of the other
keys' order that makes room, and changes nothing else but its own key. -/
theorem Settled.put_evicts (h : store.Settled sound tracked)
    (hordered : EvictionPolicy.Ordered sound order)
    (hperm : (order store.policy).Perm (tracked store.policy)) (hkey : key.isEmpty = false)
    (hbytes : store.bytesBeside key + payload.size < UInt64.size) :
    ∃ final outcome, store.put? key payload = some (final, .ok outcome) ∧
      ShortestPrefix (store.HasRoom key payload) ((order store.policy).erase key)
        outcome.evicted ∧
      (∀ k, (final.get k).2 =
        if k = key then some payload
        else if k ∈ outcome.evicted then none else (store.get k).2) ∧
      outcome.replaced = store.contains key ∧
      (outcome.overCapacity = true ↔ store.capacityBytes.toNat < payload.size) := by
  obtain ⟨final, outcome, hput, -⟩ := h.put hpolicy hbytes
  rw [put?_eq_map hkey, Option.map_eq_some_iff] at hput
  obtain ⟨⟨room, evicted, exhausted⟩, hroom, heq⟩ := hput
  cases heq
  have hunlinked := h.inStep.unlink hpolicy key
  obtain ⟨last, hrun, hend⟩ := makeRoom_eq_some hroom
  have horder : (order store.policy).erase key = evicted ++ order last.policy :=
    (hordered.remove store.policy key h.inStep.sound).symm.trans
      (hunlinked.order_evictsTo hpolicy hordered hrun)
  have hindex : room.index = last.index := by
    rcases hend with ⟨-, rfl, -⟩ | ⟨-, -, rfl⟩
    · rfl
    · rfl
  have hstop : (exhausted = false ∧ store.HasRoom key payload evicted) ∨
      (exhausted = true ∧ (order store.policy).erase key = evicted) := by
    rcases hend with ⟨hfound, -, hfits⟩ | ⟨hexhausted, hnone, -⟩
    · exact Or.inl ⟨hfound, (hunlinked.fits_iff_hasRoom hpolicy hbytes hrun).mp hfits⟩
    · obtain ⟨hhead, -⟩ := hordered.evict last.policy (hunlinked.evictsTo hpolicy hrun).sound
      rw [hnone] at hhead
      rw [horder, List.head?_eq_none_iff.mp hhead.symm, List.append_nil]
      exact Or.inr ⟨hexhausted, rfl⟩
  have hearlier (shorter : List String) (hshorter : shorter <+: evicted)
      (hmore : shorter ≠ evicted ∨ exhausted = true) : ¬store.HasRoom key payload shorter := by
    obtain ⟨mid, hmid, hfull⟩ := exists_not_fits_of_makeRoom hroom hshorter hmore
    intro hhas
    have hfits := (hunlinked.fits_iff_hasRoom hpolicy hbytes hmid).mpr hhas
    exact Bool.noConfusion (hfits.symm.trans hfull)
  have hspared : key ∉ evicted := by
    have hnodup := hperm.nodup_iff.mpr (hpolicy.nodup store.policy h.inStep.sound)
    intro hin
    exact hnodup.not_mem_erase (horder ▸ List.mem_append_left _ hin)
  have hget (k : String) : room.index.get? k = if k ∈ evicted then none else store.index.get? k := by
    rw [hindex]
    exact hrun.get?_eq k
  refine ⟨_, ⟨evicted, _, exhausted⟩, by rw [put?_eq_map hkey, hroom, Option.map_some], ?_, ?_, ?_,
    ?_⟩
  · refine ⟨horder ▸ List.prefix_append _ _, fun shorter hshorter hne =>
      hearlier shorter hshorter (Or.inl hne), ?_⟩
    exact hstop.imp And.right fun h => h.2.symm
  · intro k
    rw [get_payload, get_payload, Store.place, Table.get?_insert, hget]
    split_ifs
    · rfl
    · rfl
    · rfl
  · rw [Store.place, contains, contains, Table.contains, Table.contains, hget, if_neg hspared]
  · rcases hstop with ⟨rfl, hhas⟩ | ⟨rfl, hall⟩
    · rw [HasRoom] at hhas
      exact iff_of_false Bool.false_ne_true (by omega)
    · -- with all the others gone, the block stands against the capacity alone
      have hempty : store.bytesWithout (key :: evicted) = 0 := by
        apply bytesWithout_eq_zero
        intro k hk
        by_cases hself : k = key
        · exact hself ▸ List.mem_cons_self
        · have htracked := (h.inStep.mem_tracked_iff k).mpr ⟨hk, by simp⟩
          rw [← hall]
          exact List.mem_cons_of_mem _
            ((List.mem_erase_of_ne hself).mpr (hperm.mem_iff.mpr htracked))
      have hfull := hearlier evicted (List.prefix_refl _) (Or.inr rfl)
      rw [HasRoom, hempty, Nat.zero_add, Nat.not_le] at hfull
      exact iff_of_true rfl hfull

end Insertions

/-- An insertion into a store over a built-in policy, after any calls, returns.  It has evicted
the other keys in the order in which the policy would nominate them, up to the first point at
which the block fits beside the blocks that are left, or all of them if it never does.  Then the
key has its new payload, the other keys have theirs unless they were evicted, and nothing else is
stored.  It reports whether the key was stored before, and that the store is over its capacity
exactly if the payload alone is. -/
theorem put_evicts_what_is_needed (config : StoreConfig) (start store : Store BuiltinPolicy)
    (calls : List Call) (replies : List Reply) (key : String) (payload : ByteArray)
    (hstart : ofConfig config = .ok start) (hcalls : Addressable start calls)
    (hrun : start.run calls = some (store, replies)) (hkey : key ≠ "")
    (hbytes : store.bytesBeside key + payload.size < UInt64.size) :
    let others := (EvictionPolicy.drain store.policy).2.erase key
    others.Nodup ∧ (∀ k, k ∈ others ↔ store.contains k = true ∧ k ≠ key) ∧
      ∃ final outcome, store.put? key payload = some (final, .ok outcome) ∧
        ShortestPrefix (store.HasRoom key payload) others outcome.evicted ∧
        (∀ k, (final.get k).2 =
          if k = key then some payload
          else if k ∈ outcome.evicted then none else (store.get k).2) ∧
        outcome.replaced = store.contains key ∧
        (outcome.overCapacity = true ↔ store.capacityBytes.toNat < payload.size) ∧
        key ∉ outcome.evicted := by
  intro others
  have hpolicy := BuiltinPolicy.faithful
  obtain ⟨hsound, hnone⟩ := BuiltinPolicy.sound_ofKind config.policy
  obtain ⟨hcreated, -⟩ := settled_create hsound hnone hstart
  obtain ⟨reached, _, hreached, h, -⟩ := hcreated.run hpolicy hcalls
  obtain rfl : reached = store := congrArg Prod.fst (Option.some.inj (hreached.symm.trans hrun))
  have hperm := BuiltinPolicy.nominations_perm h.inStep.sound
  have hdrain : (EvictionPolicy.drain reached.policy).2 = reached.policy.nominations :=
    BuiltinPolicy.ordered.snd_drain hpolicy hperm h.inStep.sound
  have hnodup := hperm.nodup_iff.mpr (hpolicy.nodup reached.policy h.inStep.sound)
  have hothers : others = reached.policy.nominations.erase key := congrArg (·.erase key) hdrain
  obtain ⟨final, outcome, hput, hshortest, hrest⟩ :=
    h.put_evicts hpolicy BuiltinPolicy.ordered hperm (by simpa using hkey) hbytes
  rw [← hothers] at hshortest
  refine ⟨hothers ▸ hnodup.erase key, ?_, final, outcome, hput, hshortest, hrest.1, hrest.2.1,
    hrest.2.2, ?_⟩
  · intro k
    rw [hothers, hnodup.mem_erase_iff, hperm.mem_iff, h.inStep.mem_tracked_iff, and_comm]
    simp
  · intro hin
    have hmem := hshortest.1.subset hin
    rw [hothers] at hmem
    exact hnodup.not_mem_erase hmem

/-- Three blocks of which the first and the last have been hit. -/
def threeBlocks : List Call :=
  [.put "a" ⟨#[1, 2, 3]⟩, .put "b" ⟨#[1, 2, 3]⟩, .put "c" ⟨#[1, 2, 3]⟩, .get "a", .get "c"]

/-- A larger block for the last of the three keys drives out the one that was never hit, and
then fits in the place of the old one. -/
theorem put_evicts_block_without_hits :
    let config : StoreConfig := ⟨10, .lfu⟩
    let start : Store BuiltinPolicy := ⟨10, .lfu .empty, .empty, 0, .zero, 0⟩
    let larger : ByteArray := ⟨#[1, 2, 3, 4, 5, 6]⟩
    ofConfig config = .ok start ∧ Addressable start threeBlocks ∧
      ∃ store replies, start.run threeBlocks = some (store, replies) ∧
        store.bytesBeside "c" + larger.size < UInt64.size ∧
        ∃ final, store.put? "c" larger = some (final, .ok ⟨["b"], true, false⟩) ∧
          (final.get "a").2 = some ⟨#[1, 2, 3]⟩ ∧ (final.get "b").2 = none ∧
          (final.get "c").2 = some larger := by
  intro config start larger
  have hcalls : Addressable start threeBlocks :=
    addressable_of_incoming_lt ⟨Table.ascending_empty, rfl⟩ (by decide)
  have heval : (start.run threeBlocks).bind (fun result =>
      (result.1.put? "c" larger).map fun put =>
        (put.2, result.1.bytesBeside "c", (result.1.get "a").2)) =
      some (.ok ⟨["b"], true, false⟩, 6, some ⟨#[1, 2, 3]⟩) := by cbv
  obtain ⟨⟨store, replies⟩, hrun, hput⟩ := Option.bind_eq_some_iff.mp heval
  obtain ⟨⟨final, _⟩, hput, heq⟩ := Option.map_eq_some_iff.mp hput
  obtain ⟨rfl, hbeside, hfirst⟩ : _ ∧ store.bytesBeside "c" = 6 ∧ _ := by
    simpa only [Prod.mk.injEq] using heq
  have hbytes : store.bytesBeside "c" + larger.size < UInt64.size := by
    rw [hbeside]
    decide
  obtain ⟨-, -, final', outcome, hput', -, hget, -⟩ :=
    put_evicts_what_is_needed config start store threeBlocks replies "c" larger rfl hcalls hrun
      (by decide) hbytes
  obtain ⟨rfl, houtcome⟩ := Prod.mk.inj (Option.some.inj (hput'.symm.trans hput))
  obtain rfl := Except.ok.inj houtcome
  exact ⟨rfl, hcalls, store, replies, hrun, hbytes, final', hput, (hget "a").trans hfirst,
    hget "b", hget "c"⟩

end Store
end CacheTier
