import CacheTier.Proofs.Cache.Lfu.FrequencyList
import CacheTier.Proofs.Cache.Store.History
import CacheTier.Proofs.Cache.Store.InStep

/-!
# Hits in the store and in its policy

The block of a key counts its hits, and the least frequently used policy has a count of its own.
Insertions start both anew and look-ups raise both, so they stay the same, and both tell how
often the key was found since it was put in last.  What an insertion evicts can then be read
off the calls that were made: the keys that were found the fewest times, and of these first the
one that was not put in or looked up for the longest time.
-/

namespace CacheTier

/-! ## Lists in the order of use -/

namespace FrequencyList

variable {list : FrequencyList} {key victim : String} {f : Nat} {idle later : String → Nat}

theorem frequency?_drop (list : FrequencyList) (key k : String) :
    (list.drop key).frequency? k = if k = key then none else list.frequency? k := by
  rw [frequency?, frequency?, drop, List.find?_filter]
  split_ifs with hk
  · rw [Option.map_eq_none_iff, List.find?_eq_none]
    simp [hk]
  · congr 2
    funext pair
    by_cases hpair : pair.1 = k
    · simp [hpair, hk]
    · simp [hpair]

theorem frequency?_place (list : FrequencyList) (key : String) (f : Nat) (k : String) :
    (list.place key f).frequency? k = if k = key then some f else list.frequency? k := by
  have hdropped := list.frequency?_drop key k
  rw [frequency?] at hdropped
  rw [frequency?, place, List.find?_cons]
  split_ifs with hk
  · simp [hk]
  · rw [if_neg hk] at hdropped
    have hother : (key == k) = false := beq_eq_false_iff_ne.mpr (Ne.symm hk)
    simp only [hother, hdropped]

/-- The keys that have been idle for less time come first. -/
def OrderedBy (idle : String → Nat) (list : FrequencyList) : Prop :=
  list.entries.Pairwise fun a b => idle a.1 < idle b.1

theorem OrderedBy.mono (h : list.OrderedBy idle)
    (hlater : ∀ pair ∈ list.entries, later pair.1 = idle pair.1 + 1) : list.OrderedBy later :=
  h.imp_of_mem fun ha hb hlt => by
    rw [hlater _ ha, hlater _ hb]
    omega

theorem OrderedBy.drop (h : list.OrderedBy idle) (key : String) :
    (list.drop key).OrderedBy idle := h.filter _

/-- A key that is used comes first, and the others stay in their order. -/
theorem OrderedBy.place (h : list.OrderedBy idle) (hused : later key = 0)
    (hlater : ∀ k, k ≠ key → later k = idle k + 1) : (list.place key f).OrderedBy later := by
  have hother : ∀ pair ∈ (list.drop key).entries, later pair.1 = idle pair.1 + 1 := by
    intro pair hpair
    exact hlater pair.1 (by simpa using (List.mem_filter.mp hpair).2)
  refine List.pairwise_cons.mpr ⟨fun pair hpair => ?_, (h.drop key).mono hother⟩
  rw [hused, hother pair hpair]
  exact Nat.succ_pos _

/-- The victim has the fewest hits, and the others that have as few have been idle for less
time. -/
theorem OrderedBy.of_victim? (h : list.OrderedBy idle) (hvictim : list.victim? = some victim) :
    ∃ f, (victim, f) ∈ list.entries ∧ ∀ k g, (k, g) ∈ list.entries → k ≠ victim →
      f < g ∨ f = g ∧ idle k < idle victim := by
  obtain ⟨f, hleast, hlast⟩ := Option.bind_eq_some_iff.mp hvictim
  obtain ⟨-, hmin⟩ := List.min?_eq_some_iff.mp hleast
  obtain ⟨front, hkeys⟩ := List.getLast?_eq_some_iff.mp hlast
  have hshelf : (list.keysAt f).Pairwise fun a b => idle a < idle b :=
    List.pairwise_map.mpr (h.filter _)
  rw [hkeys, List.pairwise_append] at hshelf
  refine ⟨f, mem_keysAt_iff.mp (List.mem_of_getLast? hlast), fun k g hmem hne => ?_⟩
  rcases Nat.eq_or_lt_of_le (hmin g (List.mem_map_of_mem hmem)) with rfl | hlt
  · rw [← mem_keysAt_iff, hkeys, List.mem_append, List.mem_singleton] at hmem
    exact Or.inr ⟨rfl, hshelf.2.2 k (hmem.resolve_right hne) victim List.mem_cons_self⟩
  · exact Or.inl hlt

end FrequencyList

/-! ## The configured policy -/

namespace BuiltinPolicy

/-- The policy is the least frequently used one, and agrees with a list of hits. -/
def Counts (hits : Nat) (policy : BuiltinPolicy) (list : FrequencyList) : Prop :=
  ∃ lfu, policy = .lfu lfu ∧ Lfu.Counts hits lfu list

namespace Counts

variable {hits f : Nat} {policy next : BuiltinPolicy} {list : FrequencyList} {key victim : String}

theorem distinct (h : Counts hits policy list) : list.Distinct := by
  obtain ⟨lfu, -, hcounts⟩ := h
  exact hcounts.distinct

theorem bound (h : Counts hits policy list) (hf : list.frequency? key = some f) :
    f + hits < UInt64.size := by
  obtain ⟨lfu, -, hcounts⟩ := h
  exact hcounts.bound _ (hcounts.distinct.frequency?_eq_some_iff.mp hf)

theorem sound (h : Counts hits policy list) : policy.Sound := by
  obtain ⟨lfu, rfl, hcounts⟩ := h
  exact ⟨_, hcounts.shelved⟩

theorem of_fewer {more : Nat} (h : Counts (more + hits) policy list) :
    Counts hits policy list := by
  obtain ⟨lfu, rfl, hcounts⟩ := h
  exact ⟨lfu, rfl, hcounts.of_fewer⟩

theorem insert (h : Counts hits policy list) (hnew : list.frequency? key = none) :
    Counts hits (EvictionPolicy.insert policy key) (list.place key 0) := by
  obtain ⟨lfu, rfl, hcounts⟩ := h
  have hinserted := hcounts.insert key
  rw [hnew] at hinserted
  exact ⟨_, rfl, hinserted⟩

theorem access (h : Counts (1 + hits) policy list) (hf : list.frequency? key = some f) :
    Counts hits (EvictionPolicy.access policy key).1 (list.place key (f + 1)) := by
  obtain ⟨lfu, rfl, hcounts⟩ := h
  exact ⟨_, rfl, (hcounts.access hf).1⟩

theorem drop (h : Counts hits policy list) (key : String) :
    Counts hits (EvictionPolicy.remove policy key).1 (list.drop key) := by
  obtain ⟨lfu, rfl, hcounts⟩ := h
  exact ⟨_, rfl, (hcounts.drop key).1⟩

theorem evict (h : Counts hits policy list)
    (hevict : EvictionPolicy.evict policy = (next, some victim)) :
    list.victim? = some victim ∧ Counts hits next (list.drop victim) := by
  obtain ⟨lfu, rfl, hcounts⟩ := h
  obtain ⟨hvictim, -, hafter⟩ := hcounts.evict
  have hreply : lfu.evict.2 = some victim := congrArg Prod.snd hevict
  have hnext : BuiltinPolicy.lfu lfu.evict.1 = next := congrArg Prod.fst hevict
  have hsome : list.victim? = some victim := hvictim.symm.trans hreply
  rw [hsome] at hafter
  exact ⟨hsome, _, hnext.symm, hafter ▸ (hcounts.drop victim).1⟩

theorem fst_evict (h : Counts hits policy list) (hnone : (EvictionPolicy.evict policy).2 = none) :
    (EvictionPolicy.evict policy).1 = policy := by
  obtain ⟨lfu, rfl, hcounts⟩ := h
  obtain ⟨hvictim, -, hafter⟩ := hcounts.evict
  have hreply : lfu.evict.2 = none := hnone
  rw [← hvictim, hreply] at hafter
  exact congrArg BuiltinPolicy.lfu hafter

theorem clear (h : Counts hits policy list) : Counts hits (EvictionPolicy.clear policy) ⟨[]⟩ := by
  obtain ⟨lfu, rfl, hcounts⟩ := h
  exact ⟨_, rfl, Lfu.counts_empty hcounts.hits_lt⟩

end Counts
end BuiltinPolicy

namespace Store

/-! ## What the calls tell -/

/-- A call has put a block under a key. -/
def puts (key : String) : Call × Reply → Bool
  | (.put k _, .stored (.ok _)) => k == key
  | _ => false

/-- A call has looked a key up. -/
def gets (key : String) : Call × Reply → Bool
  | (.get k, _) => k == key
  | _ => false

/-- A look-up has found a block. -/
def isHit : Call × Reply → Bool
  | (.get _, .found (some _)) => true
  | _ => false

/-- How often a key was found since a block was put under it the last time.  The latest of the
calls stands first. -/
def hitsSincePut (entries : List (Call × Reply)) (key : String) : Nat :=
  (entries.takeWhile fun entry => !puts key entry).countP fun entry =>
    gets key entry && isHit entry

/-- How many calls were made since a key was put in or looked up the last time. -/
def idle (entries : List (Call × Reply)) (key : String) : Nat :=
  entries.findIdx fun entry => puts key entry || gets key entry

/-- One key has fewer hits than another, or as many and has been idle for longer. -/
def Sooner (entries : List (Call × Reply)) (a b : String) : Prop :=
  hitsSincePut entries a < hitsSincePut entries b ∨
    hitsSincePut entries a = hitsSincePut entries b ∧ idle entries b < idle entries a

section Entries

variable {entries : List (Call × Reply)} {entry : Call × Reply} {key : String}

theorem hitsSincePut_cons (entry : Call × Reply) (entries : List (Call × Reply)) (key : String) :
    hitsSincePut (entry :: entries) key =
      if puts key entry then 0
      else hitsSincePut entries key + if gets key entry && isHit entry then 1 else 0 := by
  rw [hitsSincePut, List.takeWhile_cons]
  cases puts key entry with
  | true => rfl
  | false => exact List.countP_cons

theorem idle_cons (entry : Call × Reply) (entries : List (Call × Reply)) (key : String) :
    idle (entry :: entries) key =
      if puts key entry || gets key entry then 0 else idle entries key + 1 := by
  rw [idle, List.findIdx_cons, cond_eq_ite]
  rfl

end Entries

/-! ## Agreement -/

/-- The policy agrees with a list of hits.  The list has the keys of the index, but for one that
is being replaced, with the counts of their blocks.  These are what the calls tell, and the list
is in the order in which the keys were used. -/
structure Tallied (more : Nat) (entries : List (Call × Reply)) (apart : Option String)
    (store : Store BuiltinPolicy) (list : FrequencyList) : Prop where
  counts : BuiltinPolicy.Counts more store.policy list
  frequency?_eq : ∀ k, list.frequency? k =
    if some k = apart then none else (store.index.get? k).map fun block => block.accessCount.toNat
  hits_eq : ∀ k f, (k, f) ∈ list.entries → f = hitsSincePut entries k
  ordered : list.OrderedBy (idle entries)

variable {more : Nat} {entries : List (Call × Reply)} {entry : Call × Reply}
  {apart : Option String} {store next last : Store BuiltinPolicy} {list : FrequencyList}
  {key victim : String} {block : Block} {evicted : List String}

namespace Tallied

theorem exists_mem_iff (h : Tallied more entries apart store list) {k : String} :
    (∃ f, (k, f) ∈ list.entries) ↔ store.contains k = true ∧ some k ≠ apart := by
  simp only [← h.counts.distinct.frequency?_eq_some_iff, h.frequency?_eq]
  rw [contains, Table.contains]
  split_ifs with hk
  · simp [hk]
  · cases store.index.get? k with
    | none => simp
    | some block => simp [hk]

theorem of_fewer {fewer : Nat} (h : Tallied (fewer + more) entries apart store list) :
    Tallied more entries apart store list :=
  ⟨h.counts.of_fewer, h.frequency?_eq, h.hits_eq, h.ordered⟩

theorem of_index_eq (h : Tallied more entries apart store list)
    (hpolicy : next.policy = store.policy) (hindex : next.index = store.index) :
    Tallied more entries apart next list where
  counts := hpolicy ▸ h.counts
  frequency?_eq := hindex ▸ h.frequency?_eq
  hits_eq := h.hits_eq
  ordered := h.ordered

theorem mem_of_get? (h : Tallied more entries none store list)
    (hget : store.index.get? key = some block) : (key, block.accessCount.toNat) ∈ list.entries := by
  rw [← h.counts.distinct.frequency?_eq_some_iff, h.frequency?_eq, hget]
  rfl

/-! ### Evictions -/

/-- The policy nominates a stored key, and goes on with the list without it. -/
theorem evict {policy : BuiltinPolicy} (h : Tallied more entries apart store list)
    (hevict : EvictionPolicy.evict store.policy = (policy, some victim)) :
    ({ store with policy }.dropVictim victim).2 = [victim] ∧
      (store.contains victim = true ∧ some victim ≠ apart) ∧
      (∀ k, store.contains k = true → some k ≠ apart → k ≠ victim → Sooner entries victim k) ∧
      Tallied more entries apart ({ store with policy }.dropVictim victim).1
        (list.drop victim) := by
  obtain ⟨hvictim, hcounts⟩ := h.counts.evict hevict
  obtain ⟨f, hmem, hfirst⟩ := h.ordered.of_victim? hvictim
  have hstored := h.exists_mem_iff.mp ⟨f, hmem⟩
  refine ⟨?_, hstored, ?_, ?_, ?_, ?_, h.ordered.drop victim⟩
  · obtain ⟨block, hblock⟩ := Option.isSome_iff_exists.mp hstored.1
    rw [dropVictim, hblock]
  · intro k hk hapart hne
    obtain ⟨g, hg⟩ := h.exists_mem_iff.mpr ⟨hk, hapart⟩
    rw [Sooner, ← h.hits_eq victim f hmem, ← h.hits_eq k g hg]
    exact hfirst k g hg hne
  · rw [policy_dropVictim]
    exact hcounts
  · intro k
    rw [FrequencyList.frequency?_drop, h.frequency?_eq, index_dropVictim, Table.get?_erase]
    split_ifs
    · rfl
    · rfl
    · rfl
    · rfl
  · intro k f hkept
    exact h.hits_eq k f (List.mem_of_mem_filter hkept)

/-- The keys that are evicted come in the order of their hits and of their last use, and the
ones that are left would come after them. -/
theorem evictsTo (h : Tallied more entries apart store list) (hrun : EvictsTo store evicted last) :
    (∃ rest, Tallied more entries apart last rest) ∧ evicted.Pairwise (Sooner entries) ∧
      ∀ victim ∈ evicted, (store.contains victim = true ∧ some victim ≠ apart) ∧
        ∀ k, store.contains k = true → some k ≠ apart → k ∉ evicted →
          Sooner entries victim k := by
  induction hrun generalizing list with
  | refl store => exact ⟨⟨list, h⟩, .nil, by simp⟩
  | @step store last policy victim later hevict hrest ih =>
      obtain ⟨hdropped, hstored, hfirst, hnext⟩ := h.evict hevict
      obtain ⟨hlast, hsorted, hlater⟩ := ih hnext
      have hcontains (k : String) :
          ({ store with policy }.dropVictim victim).1.contains k = true ↔
            k ≠ victim ∧ store.contains k = true := by
        rw [contains, index_dropVictim, Table.contains_erase_iff]
        rfl
      simp only [hcontains] at hlater
      rw [hdropped, List.singleton_append, List.pairwise_cons]
      refine ⟨hlast, ⟨?_, hsorted⟩, List.forall_mem_cons.mpr ⟨⟨hstored, ?_⟩, ?_⟩⟩
      · intro k hk
        obtain ⟨⟨⟨hne, hk⟩, hapart⟩, -⟩ := hlater k hk
        exact hfirst k hk hapart hne
      · intro k hk hapart hkept
        exact hfirst k hk hapart (List.ne_of_not_mem_cons hkept)
      · intro other hother
        obtain ⟨⟨⟨-, hstored⟩, hapart⟩, hafter⟩ := hlater other hother
        refine ⟨⟨hstored, hapart⟩, fun k hk hapart hkept => ?_⟩
        exact hafter k ⟨List.ne_of_not_mem_cons hkept, hk⟩ hapart (List.not_mem_of_not_mem_cons hkept)

/-- The loop of an insertion ends with the policy still in agreement. -/
theorem makeRoom {previous incoming : UInt64} {fuel : Nat} {room : Store BuiltinPolicy}
    {exhausted : Bool} (h : Tallied more entries apart store list)
    (hroom : store.makeRoom previous incoming fuel = some (room, evicted, exhausted)) :
    (∃ rest, Tallied more entries apart room rest) ∧ evicted.Pairwise (Sooner entries) ∧
      ∀ victim ∈ evicted, (store.contains victim = true ∧ some victim ≠ apart) ∧
        ∀ k, store.contains k = true → some k ≠ apart → k ∉ evicted →
          Sooner entries victim k := by
  obtain ⟨last, hrun, hend⟩ := makeRoom_eq_some hroom
  obtain ⟨⟨rest, hlast⟩, horder⟩ := h.evictsTo hrun
  refine ⟨⟨rest, ?_⟩, horder⟩
  rcases hend with ⟨-, rfl, -⟩ | ⟨-, hnone, rfl⟩
  · exact hlast
  · exact hlast.of_index_eq (hlast.counts.fst_evict hnone) rfl

/-! ### Calls -/

/-- A call that uses none of the listed keys lets all of them wait. -/
theorem quiet (h : Tallied more entries apart store list)
    (hentry : ∀ k, store.contains k = true → puts k entry = false ∧ gets k entry = false) :
    Tallied more (entry :: entries) apart store list := by
  have hunused (k : String) (f : Nat) (hmem : (k, f) ∈ list.entries) :=
    hentry k (h.exists_mem_iff.mp ⟨f, hmem⟩).1
  refine ⟨h.counts, h.frequency?_eq, fun k f hmem => ?_, h.ordered.mono fun pair hpair => ?_⟩
  · obtain ⟨hput, hget⟩ := hunused k f hmem
    rw [hitsSincePut_cons, hput, hget, h.hits_eq k f hmem]
    rfl
  · obtain ⟨hput, hget⟩ := hunused pair.1 pair.2 hpair
    rw [idle_cons, hput, hget]
    rfl

/-- A call that uses one key brings it to the front with its new count. -/
theorem use {fewer : Nat} (h : Tallied more entries apart store list) (key : String)
    (block : Block)
    (hapart : ∀ k, k ≠ key → some k ≠ apart)
    (hcounts : BuiltinPolicy.Counts fewer next.policy (list.place key block.accessCount.toNat))
    (hindex : next.index = store.index.insert key block)
    (hused : (puts key entry || gets key entry) = true)
    (hothers : ∀ k, k ≠ key → puts k entry = false ∧ gets k entry = false)
    (hhits : block.accessCount.toNat = hitsSincePut (entry :: entries) key) :
    Tallied fewer (entry :: entries) none next (list.place key block.accessCount.toNat) := by
  refine ⟨hcounts, fun k => ?_, fun k f hmem => ?_, h.ordered.place ?_ fun k hk => ?_⟩
  · rw [FrequencyList.frequency?_place, hindex, Table.get?_insert]
    split_ifs with hk hnone hnone
    · exact absurd hnone (by simp)
    · rfl
    · exact absurd hnone (by simp)
    · rw [h.frequency?_eq, if_neg (hapart k hk)]
  · rcases List.mem_cons.mp hmem with heq | hkept
    · obtain ⟨rfl, rfl⟩ := Prod.mk.inj heq
      exact hhits
    · obtain ⟨hmem, hne⟩ := List.mem_filter.mp hkept
      obtain ⟨hput, hget⟩ := hothers k (by simpa using hne)
      rw [hitsSincePut_cons, hput, hget, h.hits_eq k f hmem]
      rfl
  · rw [idle_cons, if_pos hused]
  · obtain ⟨hput, hget⟩ := hothers k hk
    rw [idle_cons, hput, hget]
    rfl

/-- A look-up raises the count of the block that it finds. -/
theorem get (h : Tallied (1 + more) entries none store list)
    (hget : store.index.get? key = some block) (payload : ByteArray) :
    ∃ rest, Tallied more ((.get key, .found (some payload)) :: entries) none (store.get key).1
      rest := by
  have hmem := h.mem_of_get? hget
  have hfrequency := h.counts.distinct.frequency?_eq_some_iff.mpr hmem
  have hbound := h.counts.bound hfrequency
  have hraised : (block.touched store.clock).accessCount.toNat = block.accessCount.toNat + 1 := by
    rw [Block.touched, UInt64.toNat_add]
    exact Nat.mod_eq_of_lt (show block.accessCount.toNat + 1 < UInt64.size by omega)
  refine ⟨_, h.use key (block.touched store.clock) ?_ ?_ ?_ ?_ ?_ ?_⟩
  · simp
  · rw [hraised, Store.get, hget]
    exact h.counts.access hfrequency
  · rw [Store.get, hget]
  · simp [gets]
  · intro k hk
    exact ⟨rfl, beq_eq_false_iff_ne.mpr (Ne.symm hk)⟩
  · rw [hraised, hitsSincePut_cons, h.hits_eq _ _ hmem]
    simp [puts, gets, isHit]

/-- Taking a key out takes it from the policy as well. -/
theorem unlink (h : Tallied more entries none store list) (key : String) :
    Tallied more entries (some key)
      { store with policy := (EvictionPolicy.remove store.policy key).1 } (list.drop key) := by
  refine ⟨h.counts.drop key, fun k => ?_, fun k f hkept => ?_, h.ordered.drop key⟩
  · rw [FrequencyList.frequency?_drop, h.frequency?_eq]
    simp
  · exact h.hits_eq k f (List.mem_of_mem_filter hkept)

theorem remove (h : Tallied more entries none store list) (key : String) :
    ∃ rest, Tallied more entries none (store.remove key).1 rest := by
  rw [Store.remove]
  cases hget : store.index.get? key with
  | none => exact ⟨list, h⟩
  | some block =>
      have hunlinked := h.unlink key
      refine ⟨_, hunlinked.counts, fun k => ?_, hunlinked.hits_eq, hunlinked.ordered⟩
      rw [hunlinked.frequency?_eq, Table.get?_erase]
      by_cases hk : k = key
      · simp [hk]
      · simp [hk]

theorem clear (h : Tallied more entries none store list) :
    Tallied more entries none store.clear ⟨[]⟩ where
  counts := h.counts.clear
  frequency?_eq k := by
    rw [Store.clear, Table.get?_empty]
    rfl
  hits_eq k f hmem := by simp at hmem
  ordered := .nil

/-- An insertion evicts in the order of hits and of last use, and its block starts without
hits. -/
theorem put {fuel : Nat} {payload : ByteArray} {outcome : PutOutcome}
    (h : Tallied more entries none store list)
    (hput : store.putWithin fuel key payload = some (next, .ok outcome)) :
    (∃ rest, Tallied more ((.put key payload, .stored (.ok outcome)) :: entries) none next rest) ∧
      outcome.evicted.Pairwise (Sooner entries) ∧
      ∀ victim ∈ outcome.evicted, (store.contains victim = true ∧ victim ≠ key) ∧
        ∀ k, store.contains k = true → k ≠ key → k ∉ outcome.evicted →
          Sooner entries victim k := by
  have hkey : key.isEmpty = false := by
    by_contra hempty
    rw [putWithin_of_isEmpty (by simpa using hempty)] at hput
    cases hput
  rw [putWithin_eq_map hkey, Option.map_eq_some_iff] at hput
  obtain ⟨⟨room, evicted, exhausted⟩, hroom, heq⟩ := hput
  cases heq
  obtain ⟨⟨rest, hrest⟩, hsorted, hfirst⟩ := (h.unlink key).makeRoom hroom
  have hunlisted : rest.frequency? key = none := by rw [hrest.frequency?_eq, if_pos rfl]
  refine ⟨⟨_, hrest.use key (Block.create key payload room.clock) ?_ ?_ rfl ?_ ?_
    ?_⟩, hsorted, ?_⟩
  · simp
  · exact hrest.counts.insert hunlisted
  · simp [puts]
  · intro k hk
    exact ⟨beq_eq_false_iff_ne.mpr (Ne.symm hk), rfl⟩
  · rw [hitsSincePut_cons]
    simp [puts, Block.create]
  · intro victim hvictim
    obtain ⟨⟨hstored, hne⟩, hafter⟩ := hfirst victim hvictim
    exact ⟨⟨hstored, by simpa using hne⟩, fun k hk hother => hafter k hk (by simpa using hother)⟩

/-- Every call that returns keeps the agreement, and uses up one of the hits that can still be
counted if it is one. -/
theorem returns {call : Call} {reply : Reply}
    (h : Tallied ([(call, reply)].countP isHit + more) entries none store list)
    (hreturns : Returns store call next reply) :
    ∃ rest, Tallied more ((call, reply) :: entries) none next rest := by
  cases hreturns with
  | @put fuel key payload _ outcome hput =>
      cases outcome with
      | ok outcome => exact (h.of_fewer.put hput).1
      | error cause =>
          obtain rfl : next = store := by
            rcases putWithin_eq_some hput with ⟨rfl, -⟩ | ⟨_, _, _, _, -, -, -, -, -, hok⟩
            · rfl
            · cases hok
          exact ⟨list, h.of_fewer.quiet fun k _ => ⟨rfl, rfl⟩⟩
  | get key =>
      cases hget : store.index.get? key with
      | none =>
          have hmissed : store.get key =
              ({ store with counters := store.counters.countMiss }, none) := by
            rw [Store.get, hget]
          rw [hmissed] at h ⊢
          refine ⟨list, .of_index_eq (h.of_fewer.quiet fun k hk => ⟨rfl, ?_⟩) rfl rfl⟩
          refine beq_eq_false_iff_ne.mpr ?_
          rintro rfl
          rw [contains, Table.contains, hget] at hk
          exact Bool.noConfusion hk
      | some block =>
          have hfound : (store.get key).2 = some block.payload := by
            rw [get_payload, hget, Option.map_some]
          rw [hfound] at h ⊢
          exact h.get hget block.payload
  | contains key => exact ⟨list, h.of_fewer.quiet fun k _ => ⟨rfl, rfl⟩⟩
  | remove key =>
      obtain ⟨rest, hrest⟩ := h.of_fewer.remove key
      exact ⟨rest, hrest.quiet fun k _ => ⟨rfl, rfl⟩⟩
  | clear => exact ⟨_, h.of_fewer.clear.quiet fun k _ => ⟨rfl, rfl⟩⟩

/-- Calls that return keep the agreement as long as all the hits can be counted. -/
theorem run {calls : List Call} {replies : List Reply}
    (h : Tallied ((calls.zip replies).countP isHit + more) entries none store list)
    (hrun : store.run calls = some (last, replies)) :
    ∃ rest, Tallied more ((calls.zip replies).reverse ++ entries) none last rest := by
  induction calls generalizing store list entries replies with
  | nil =>
      cases hrun
      exact ⟨list, h.of_fewer⟩
  | cons first others ih =>
      obtain ⟨⟨next, reply⟩, hcall, hrest⟩ := Option.bind_eq_some_iff.mp hrun
      obtain ⟨⟨final, later⟩, hmore, heq⟩ := Option.bind_eq_some_iff.mp hrest
      cases heq
      have hsplit : (((first :: others).zip (reply :: later)).countP isHit) + more =
          [(first, reply)].countP isHit + ((others.zip later).countP isHit + more) := by
        rw [List.zip_cons_cons, ← List.singleton_append, List.countP_append, Nat.add_assoc]
      rw [hsplit] at h
      obtain ⟨rest, hnext⟩ := h.returns (.of_call hcall)
      rw [List.zip_cons_cons, List.reverse_cons, List.append_assoc]
      exact ih hnext hmore

end Tallied

theorem tallied_ofConfig {capacityBytes : UInt64}
    (hstart : ofConfig ⟨capacityBytes, .lfu⟩ = .ok store) (hmore : more < UInt64.size) :
    Tallied more [] none store ⟨[]⟩ := by
  rw [ofConfig, create] at hstart
  split_ifs at hstart
  cases hstart
  exact ⟨⟨.empty, rfl, Lfu.counts_empty hmore⟩, fun k => rfl, by simp, .nil⟩

/-- Whatever is called on a store over the least frequently used policy, the calls return.  If
they find fewer blocks than there are words, the policy has the count of its block for every
stored key, and no other key; this is the number of look-ups that found the key since a block was
put under it the last time; and an insertion evicts stored keys other than its own, each of which
has, among those that were still there beside the key of the insertion, the fewest hits, and of
the ones with as few was put in or looked up the longest time ago. -/
theorem lfu_evicts_fewest_hits_since_put (capacityBytes : UInt64) (start : Store BuiltinPolicy)
    (calls : List Call) (hstart : ofConfig ⟨capacityBytes, .lfu⟩ = .ok start) :
    ∃ store replies, start.run calls = some (store, replies) ∧
      let entries := (calls.zip replies).reverse
      (entries.countP isHit < UInt64.size →
        (∃ lfu, store.policy = .lfu lfu ∧ ∀ key,
          lfu.frequency? key = (store.index.get? key).map fun block => block.accessCount.toNat) ∧
        (∀ key block, store.index.get? key = some block →
          block.accessCount.toNat = hitsSincePut entries key) ∧
        ∀ key payload, key ≠ "" →
          ∃ final outcome, store.put? key payload = some (final, .ok outcome) ∧
            outcome.evicted.Pairwise (Sooner entries) ∧
            ∀ victim ∈ outcome.evicted, (store.contains victim = true ∧ victim ≠ key) ∧
              ∀ k, store.contains k = true → k ≠ key → k ∉ outcome.evicted →
                Sooner entries victim k) := by
  have hempty : Tallied 0 [] none start ⟨[]⟩ := tallied_ofConfig hstart (by decide)
  obtain ⟨store, replies, hrun⟩ := exists_run BuiltinPolicy.faithful hempty.counts.sound calls
  refine ⟨store, replies, hrun, fun hhits => ?_⟩
  rw [List.countP_reverse] at hhits
  obtain ⟨list, h⟩ : ∃ list, Tallied 0 ((calls.zip replies).reverse ++ []) none store list :=
    (tallied_ofConfig hstart hhits).run hrun
  rw [List.append_nil] at h
  refine ⟨?_, fun key block hget => h.hits_eq _ _ (h.mem_of_get? hget), fun key payload hkey => ?_⟩
  · obtain ⟨lfu, hlfu, hcounts⟩ := h.counts
    refine ⟨lfu, hlfu, fun key => ?_⟩
    rw [hcounts.frequency?_eq, h.frequency?_eq]
    rfl
  · obtain ⟨room, evicted, exhausted, hroom⟩ := exists_makeRoom_of_supply BuiltinPolicy.faithful
      h.counts.sound key (store.blockSize key) (UInt64.ofNat payload.size)
    have hput : store.put? key payload = some ((room.place key payload).1,
        .ok ⟨evicted, (room.place key payload).2, exhausted⟩) := by
      rw [put?_eq_map (by simpa using hkey), hroom, Option.map_some]
    exact ⟨_, _, hput, (h.put hput).2⟩

/-- Two blocks that fill a store of six bytes, the first found twice and the second once. -/
def twoBlocks : List Call :=
  [.put "a" ⟨#[1, 2, 3]⟩, .put "b" ⟨#[4, 5, 6]⟩, .get "a", .get "a", .get "b"]

/-- The block that was found once makes room for the next. -/
theorem lfu_evicts_block_with_one_hit :
    let start : Store BuiltinPolicy := ⟨6, .lfu .empty, .empty, 0, .zero, 0⟩
    ofConfig ⟨6, .lfu⟩ = .ok start ∧
      ∃ store replies, start.run twoBlocks = some (store, replies) ∧
        (twoBlocks.zip replies).reverse.countP isHit < UInt64.size ∧
        (∃ block, store.index.get? "a" = some block ∧ block.accessCount = 2) ∧
        (∃ lfu, store.policy = .lfu lfu ∧ lfu.frequency? "a" = some 2) ∧
        ∃ final, store.put? "c" ⟨#[7, 8, 9]⟩ = some (final, .ok ⟨["b"], false, false⟩) ∧
          Sooner (twoBlocks.zip replies).reverse "b" "a" := by
  intro start
  obtain ⟨store, replies, hrun, hrest⟩ := lfu_evicts_fewest_hits_since_put 6 start twoBlocks rfl
  have heval : (start.run twoBlocks).bind (fun result =>
      (result.1.put? "c" ⟨#[7, 8, 9]⟩).map fun put => (put.2,
        (twoBlocks.zip result.2).reverse.countP isHit,
        (result.1.index.get? "a").map Block.accessCount)) =
      some (.ok ⟨["b"], false, false⟩, 3, some 2) := by cbv
  rw [hrun, Option.bind_some, Option.map_eq_some_iff] at heval
  obtain ⟨⟨final, reply⟩, hput, heq⟩ := heval
  obtain ⟨rfl, hthree, hcount⟩ : reply = .ok ⟨["b"], false, false⟩ ∧
      (twoBlocks.zip replies).reverse.countP isHit = 3 ∧
      (store.index.get? "a").map Block.accessCount = some 2 := by simpa using heq
  have hhits : (twoBlocks.zip replies).reverse.countP isHit < UInt64.size := by
    rw [hthree]
    decide
  obtain ⟨⟨lfu, hlfu, hfrequency⟩, -, hputs⟩ := hrest hhits
  obtain ⟨final', outcome, hput', -, hfirst⟩ := hputs "c" ⟨#[7, 8, 9]⟩ (by decide)
  obtain ⟨block, hget, htwo⟩ := Option.map_eq_some_iff.mp hcount
  obtain ⟨-, houtcome⟩ := Prod.mk.inj (Option.some.inj (hput'.symm.trans hput))
  obtain rfl := Except.ok.inj houtcome
  refine ⟨rfl, store, replies, hrun, hhits, ⟨block, hget, htwo⟩, ⟨lfu, hlfu, ?_⟩, final, hput, ?_⟩
  · rw [hfrequency, hget, Option.map_some, htwo]
    rfl
  · have hstored : store.contains "a" = true := by
      rw [contains, Table.contains, hget]
      rfl
    exact (hfirst "b" List.mem_cons_self).2 "a" hstored (by decide) (by decide)

end Store
end CacheTier
