import CacheTier.Exposition
import CacheTier.Proofs.Table
import Mathlib.Data.List.Induction
import Mathlib.Data.List.Perm.Basic
import Mathlib.Data.String.Basic
import Mathlib.Tactic.SplitIfs

/-!
# Exported totals are running maxima

The statistics of stores, registries and probers are observed in any order, some of them again
and some of them late.  A counter shows the largest total that was observed for its very label,
so it never goes back and the order of the observations does not matter.  A gauge shows the last
level, and no observation touches a series of another subject.
-/

namespace CacheTier
namespace Exposition

/-! ## Observations -/

/-- What is observed. -/
inductive Subject where
  | store
  | registry
  | prober
  deriving DecidableEq, Repr

/-- The statistics of a subject at one moment. -/
inductive Observation where
  | store (stats : StoreStats)
  | registry (stats : RegistryStats)
  | prober (stats : ProberStats)

/-- A running total that is exported: the evicted bytes, or what a subject counts under a
label. -/
inductive Counter where
  | evictedBytes
  | events (subject : Subject) (label : String)
  deriving DecidableEq, Repr

/-- A level that is exported as a whole number. -/
inductive Level where
  | storeBytes (kind : String)
  | storeEntries
  | registryNodes
  | registryVirtualNodes
  | proberEndpoints (state : String)
  deriving DecidableEq, Repr

namespace Observation

def subject : Observation → Subject
  | store _ => .store
  | registry _ => .registry
  | prober _ => .prober

/-- The total that an observation has for a counter. -/
def total? : Observation → Counter → Option UInt64
  | store s, .evictedBytes => some s.counters.bytesEvicted
  | store s, .events .store label =>
    match label with
    | "hit" => some s.counters.hits
    | "miss" => some s.counters.misses
    | "put" => some s.counters.puts
    | "eviction" => some s.counters.evictions
    | "over_capacity" => some s.counters.overCapacity
    | _ => none
  | registry s, .events .registry label =>
    match label with
    | "pulse" => some s.counters.pulses
    | "join" => some s.counters.joins
    | "update" => some s.counters.updates
    | "stale_pulse" => some s.counters.stalePulses
    | "expiration" => some s.counters.expirations
    | "removal" => some s.counters.removals
    | _ => none
  | prober s, .events .prober label =>
    match label with
    | "cycle" => some s.cycles
    | "all_failed" => some s.allFailed
    | "failure_reported" => some s.failuresReported
    | _ => none
  | _, _ => none

/-- The number that an observation has for a level. -/
def level? : Observation → Level → Option UInt64
  | store s, .storeBytes kind =>
    match kind with
    | "size" => some s.sizeBytes
    | "capacity" => some s.capacityBytes
    | _ => none
  | store s, .storeEntries => some s.entryCount
  | registry s, .registryNodes => some s.nodeCount
  | registry s, .registryVirtualNodes => some s.virtualNodes
  | prober s, .proberEndpoints state =>
    match state with
    | "active" => some s.activeEndpoints
    | "known" => some s.knownEndpoints
    | _ => none
  | _, _ => none

end Observation

/-- Takes an observation in. -/
def observe (m : Exposition) : Observation → Exposition
  | .store stats => m.withStore stats
  | .registry stats => m.withRegistry stats
  | .prober stats => m.withProber stats

/-- Takes observations in one after another. -/
def observeAll (m : Exposition) (observations : List Observation) : Exposition :=
  observations.foldl observe m

/-- The totals that a subject counts, by label. -/
def totalsOf (m : Exposition) : Subject → Table String UInt64
  | .store => m.storeOperations
  | .registry => m.registryEvents
  | .prober => m.proberEvents

/-- The value of a counter; a label has none until something was observed for it. -/
def counter? (m : Exposition) : Counter → Option UInt64
  | .evictedBytes => some m.storeEvictedBytes
  | .events subject label => (m.totalsOf subject).get? label

/-- The value of a counter, zero until something was observed for it. -/
def counter (m : Exposition) (c : Counter) : UInt64 := (m.counter? c).getD 0

/-- The value of a gauge, zero until something was observed for it. -/
def level (m : Exposition) : Level → Int64
  | .storeBytes kind => (m.storeBytes.get? kind).getD 0
  | .storeEntries => m.storeEntries
  | .registryNodes => m.registryNodes
  | .registryVirtualNodes => m.registryVirtualNodes
  | .proberEndpoints state => (m.proberEndpoints.get? state).getD 0

variable {m : Exposition}

/-! ## Totals of several labels -/

theorem raised_eq_max (counter total : UInt64) : raised counter total = max counter total := by
  rw [raised, UInt64.max_def]
  split_ifs with hlt hle hle
  · rfl
  · exact absurd (UInt64.le_of_lt hlt) hle
  · exact UInt64.le_antisymm hle (UInt64.not_lt.mp hlt)
  · rfl

theorem max_zero (total : UInt64) : max total 0 = total := by
  rw [← UInt64.toNat_inj, UInt64.toNat_max]
  exact Nat.max_zero _

theorem max_max (counter total : UInt64) : max (max counter total) total = max counter total := by
  rw [← UInt64.toNat_inj]
  simp only [UInt64.toNat_max]
  exact max_eq_left (le_max_right _ _)

instance rightCommutative_max : RightCommutative (max : UInt64 → UInt64 → UInt64) where
  right_comm a b c := by
    rw [← UInt64.toNat_inj]
    simp only [UInt64.toNat_max]
    exact Nat.max_right_comm _ _ _

/-- A counter that shows some value or none, moved up to a total if there is one. -/
def movedUp (shown total? : Option UInt64) : Option UInt64 :=
  match total? with
  | some total => some (max (shown.getD 0) total)
  | none => shown

theorem getD_movedUp (shown total? : Option UInt64) :
    (movedUp shown total?).getD 0 = max (shown.getD 0) (total?.getD 0) := by
  cases total? with
  | none => exact (max_zero _).symm
  | some total => rfl

theorem get?_advanceLabel (counters : Table String UInt64) (label other : String)
    (total : UInt64) :
    (advanceLabel counters label total).get? other =
      movedUp (counters.get? other) (if other = label then some total else none) := by
  rw [advanceLabel, Table.get?_insert, raised_eq_max]
  split_ifs with hlabel
  · rw [hlabel]
    rfl
  · rfl

/-- Where no label is named twice, each counter moves up to its own total and no other
counter moves. -/
theorem get?_advanceAll {totals : List (String × UInt64)} (h : (totals.map Prod.fst).Nodup)
    (counters : Table String UInt64) (label : String) :
    (advanceAll counters totals).get? label =
      movedUp (counters.get? label) (totals.lookup label) := by
  induction totals generalizing counters with
  | nil => rfl
  | cons total rest ih =>
      obtain ⟨hfirst, hrest⟩ := List.nodup_cons.mp h
      rw [advanceAll, List.foldl_cons, ← advanceAll, ih hrest, get?_advanceLabel,
        Table.lookup_cons_eq_ite]
      split_ifs with hlabel
      · -- the rest says nothing of the label of the first
        have hnone : rest.lookup label = none := by
          rw [List.lookup_eq_none_iff]
          intro pair hpair
          have hne : pair.1 ≠ total.1 := fun heq => hfirst (heq ▸ List.mem_map_of_mem hpair)
          simpa [hlabel] using hne.symm
        rw [hnone]
        rfl
      · rfl

/-! The totals that are taken in are those of the observation. -/

theorem total?_store (s : StoreStats) (label : String) :
    (Observation.store s).total? (.events .store label) =
      (storeTotals s.counters).lookup label := by
  simp only [Observation.total?, storeTotals, Table.lookup_cons_eq_ite]
  split
  all_goals simp_all

theorem total?_registry (s : RegistryStats) (label : String) :
    (Observation.registry s).total? (.events .registry label) =
      (registryTotals s.counters).lookup label := by
  simp only [Observation.total?, registryTotals, Table.lookup_cons_eq_ite]
  split
  all_goals simp_all

theorem total?_prober (s : ProberStats) (label : String) :
    (Observation.prober s).total? (.events .prober label) = (proberTotals s).lookup label := by
  simp only [Observation.total?, proberTotals, Table.lookup_cons_eq_ite]
  split
  all_goals simp_all

/-! ## One observation -/

/-- An observation moves every counter up to the total that it has for it. -/
theorem counter?_observe (m : Exposition) (observation : Observation) (c : Counter) :
    (m.observe observation).counter? c = movedUp (m.counter? c) (observation.total? c) := by
  cases c with
  | evictedBytes =>
      cases observation with
      | store s => exact congrArg some (raised_eq_max _ _)
      | registry s => rfl
      | prober s => rfl
  | events subject label =>
      cases observation with
      | store s =>
          cases subject with
          | store =>
              rw [total?_store]
              exact get?_advanceAll (by simp [storeTotals]) _ _
          | registry => rfl
          | prober => rfl
      | registry s =>
          cases subject with
          | store => rfl
          | registry =>
              rw [total?_registry]
              exact get?_advanceAll (by simp [registryTotals]) _ _
          | prober => rfl
      | prober s =>
          cases subject with
          | store => rfl
          | registry => rfl
          | prober =>
              rw [total?_prober]
              exact get?_advanceAll (by simp [proberTotals]) _ _

theorem counter_observe (m : Exposition) (observation : Observation) (c : Counter) :
    (m.observe observation).counter c =
      max (m.counter c) ((observation.total? c).getD 0) := by
  rw [counter, counter?_observe, getD_movedUp, counter]

/-- An observation sets every gauge to the number that it has for it. -/
theorem level_observe (m : Exposition) (observation : Observation) (l : Level) :
    (m.observe observation).level l =
      ((observation.level? l).map UInt64.toInt64).getD (m.level l) := by
  cases observation with
  | store s =>
      cases l with
      | storeBytes kind =>
          simp only [observe, withStore, level, Observation.level?, Table.get?_insert, signed]
          symm
          split
          all_goals simp_all
      | storeEntries => rfl
      | registryNodes => rfl
      | registryVirtualNodes => rfl
      | proberEndpoints state => rfl
  | registry s =>
      cases l with
      | storeBytes kind => rfl
      | storeEntries => rfl
      | registryNodes => rfl
      | registryVirtualNodes => rfl
      | proberEndpoints state => rfl
  | prober s =>
      cases l with
      | storeBytes kind => rfl
      | storeEntries => rfl
      | registryNodes => rfl
      | registryVirtualNodes => rfl
      | proberEndpoints state =>
          simp only [observe, withProber, level, Observation.level?, Table.get?_insert, signed]
          symm
          split
          all_goals simp_all

/-! ## Series as they are exported -/

/-- What the names of a subject's series begin with. -/
def Subject.name : Subject → String
  | store => "store"
  | registry => "registry"
  | prober => "prober"

/-- The series of a subject. -/
def seriesOf (m : Exposition) (subject : Subject) : List Family :=
  m.families.filter fun family => subject.name.toList.isPrefixOf family.name.toList

/-- Every series is of one of the subjects. -/
theorem families_eq (m : Exposition) :
    m.families = m.seriesOf .prober ++ m.seriesOf .registry ++ m.seriesOf .store := by
  simp [seriesOf, families, Subject.name]

/-- An observation changes no series of another subject. -/
theorem seriesOf_observe {observation : Observation} {subject : Subject}
    (h : subject ≠ observation.subject) (m : Exposition) :
    (m.observe observation).seriesOf subject = m.seriesOf subject := by
  cases observation with
  | store s =>
      cases subject with
      | store => exact absurd rfl h
      | registry => simp [observe, withStore, seriesOf, families, Subject.name]
      | prober => simp [observe, withStore, seriesOf, families, Subject.name]
  | registry s =>
      cases subject with
      | store => simp [observe, withRegistry, seriesOf, families, Subject.name]
      | registry => exact absurd rfl h
      | prober => simp [observe, withRegistry, seriesOf, families, Subject.name]
  | prober s =>
      cases subject with
      | store => simp [observe, withProber, seriesOf, families, Subject.name]
      | registry => simp [observe, withProber, seriesOf, families, Subject.name]
      | prober => exact absurd rfl h

/-- The family that a counter is exported in. -/
def Counter.family : Counter → String
  | evictedBytes => "store_evicted_bytes_total"
  | events .store _ => "store_operations_total"
  | events .registry _ => "registry_events_total"
  | events .prober _ => "prober_events_total"

/-- The label that a counter is exported with, if any. -/
def Counter.label? : Counter → Option String
  | evictedBytes => none
  | events _ label => some label

/-- The sample of a family with a label or none. -/
def sample? (m : Exposition) (family : String) (label : Option String) : Option Float :=
  (m.families.find? (·.name == family)).bind fun family => family.samples.lookup label

theorem lookup_map_some {α β : Type} (f : α → β) (entries : List (String × α)) (label : String) :
    (entries.map fun pair => (some pair.1, f pair.2)).lookup (some label) =
      (entries.lookup label).map f := by
  induction entries with
  | nil => rfl
  | cons pair rest ih =>
      obtain ⟨key, value⟩ := pair
      by_cases hlabel : label = key
      · simp [hlabel]
      · simp [List.lookup_cons, ih, beq_false_of_ne hlabel]

/-- The sample of a counter is its value as a float. -/
theorem sample?_counter (m : Exposition) (c : Counter) :
    m.sample? c.family c.label? = (m.counter? c).map UInt64.toFloat := by
  cases c with
  | evictedBytes => rfl
  | events subject label =>
      cases subject with
      | store => exact lookup_map_some UInt64.toFloat m.storeOperations.entries label
      | registry => exact lookup_map_some UInt64.toFloat m.registryEvents.entries label
      | prober => exact lookup_map_some UInt64.toFloat m.proberEvents.entries label

/-! ## Observing again -/

/-- Every table of series is in the order of its labels. -/
structure Sorted (m : Exposition) : Prop where
  storeBytes : m.storeBytes.Ascending
  proberEndpoints : m.proberEndpoints.Ascending
  totalsOf : ∀ subject, (m.totalsOf subject).Ascending

theorem sorted_empty : empty.Sorted where
  storeBytes := Table.ascending_empty
  proberEndpoints := Table.ascending_empty
  totalsOf subject := by
    cases subject with
    | store => exact Table.ascending_empty
    | registry => exact Table.ascending_empty
    | prober => exact Table.ascending_empty

theorem ascending_advanceAll {counters : Table String UInt64} (h : counters.Ascending)
    (totals : List (String × UInt64)) : (advanceAll counters totals).Ascending := by
  induction totals generalizing counters with
  | nil => exact h
  | cons total rest ih => exact ih (Table.ascending_insert h _ _)

theorem Sorted.observe (h : m.Sorted) (observation : Observation) :
    (m.observe observation).Sorted := by
  cases observation with
  | store s =>
      refine ⟨Table.ascending_insert (Table.ascending_insert h.storeBytes _ _) _ _,
        h.proberEndpoints, fun subject => ?_⟩
      cases subject with
      | store => exact ascending_advanceAll (h.totalsOf .store) _
      | registry => exact h.totalsOf .registry
      | prober => exact h.totalsOf .prober
  | registry s =>
      refine ⟨h.storeBytes, h.proberEndpoints, fun subject => ?_⟩
      cases subject with
      | store => exact h.totalsOf .store
      | registry => exact ascending_advanceAll (h.totalsOf .registry) _
      | prober => exact h.totalsOf .prober
  | prober s =>
      refine ⟨h.storeBytes,
        Table.ascending_insert (Table.ascending_insert h.proberEndpoints _ _) _ _,
        fun subject => ?_⟩
      cases subject with
      | store => exact h.totalsOf .store
      | registry => exact h.totalsOf .registry
      | prober => exact ascending_advanceAll (h.totalsOf .prober) _

theorem movedUp_movedUp (shown total? : Option UInt64) :
    movedUp (movedUp shown total?) total? = movedUp shown total? := by
  cases total? with
  | none => rfl
  | some total =>
      rw [movedUp, getD_movedUp, Option.getD_some, max_max]
      rfl

/-- Moving the counters up to the same totals again changes nothing. -/
theorem advanceAll_advanceAll {counters : Table String UInt64} (h : counters.Ascending)
    (totals : List (String × UInt64)) (hlabels : (totals.map Prod.fst).Nodup) :
    advanceAll (advanceAll counters totals) totals = advanceAll counters totals := by
  have honce := ascending_advanceAll h totals
  apply honce.eq_of_get? (ascending_advanceAll honce totals)
  intro label
  rw [get?_advanceAll hlabels, get?_advanceAll hlabels, movedUp_movedUp]

/-- Storing two values again changes nothing. -/
theorem insert_insert_again {t : Table String Int64} (h : t.Ascending) (k k' : String)
    (hk : k ≠ k') (v v' : Int64) :
    (((t.insert k v).insert k' v').insert k v).insert k' v' = (t.insert k v).insert k' v' := by
  have hboth := Table.ascending_insert (Table.ascending_insert h k v) k' v'
  have hfirst : ((t.insert k v).insert k' v').get? k = some v := by
    rw [Table.get?_insert_of_ne _ hk, Table.get?_insert_self]
  have hsecond : ((t.insert k v).insert k' v').get? k' = some v' := by
    rw [Table.get?_insert_self]
  rw [hboth.insert_of_get? hfirst, hboth.insert_of_get? hsecond]

/-- Observing the same again changes nothing. -/
theorem Sorted.observe_observe (h : m.Sorted) (observation : Observation) :
    (m.observe observation).observe observation = m.observe observation := by
  cases observation with
  | store s =>
      have htotals := advanceAll_advanceAll (h.totalsOf .store) (storeTotals s.counters)
        (by simp [storeTotals])
      have hbytes := insert_insert_again h.storeBytes "size" "capacity" (by simp)
        (signed s.sizeBytes) (signed s.capacityBytes)
      have hevicted := max_max m.storeEvictedBytes s.counters.bytesEvicted
      simp only [Exposition.totalsOf] at htotals
      simp only [Exposition.observe, withStore, htotals, hbytes, raised_eq_max, hevicted]
  | registry s =>
      have htotals := advanceAll_advanceAll (h.totalsOf .registry) (registryTotals s.counters)
        (by simp [registryTotals])
      simp only [Exposition.totalsOf] at htotals
      simp only [Exposition.observe, withRegistry, htotals]
  | prober s =>
      have htotals := advanceAll_advanceAll (h.totalsOf .prober) (proberTotals s)
        (by simp [proberTotals])
      have hendpoints := insert_insert_again h.proberEndpoints "active" "known" (by simp)
        (signed s.activeEndpoints) (signed s.knownEndpoints)
      simp only [Exposition.totalsOf] at htotals
      simp only [Exposition.observe, withProber, htotals, hendpoints]

/-! ## Runs -/

theorem Sorted.observeAll (h : m.Sorted) (observations : List Observation) :
    (m.observeAll observations).Sorted := by
  induction observations generalizing m with
  | nil => exact h
  | cons first rest ih => exact ih (h.observe first)

/-- The largest total that was observed for a counter, zero before any. -/
def largest (observations : List Observation) (c : Counter) : UInt64 :=
  (observations.filterMap (·.total? c)).foldl max 0

/-- The last number that was observed for a level. -/
def last? (observations : List Observation) (l : Level) : Option UInt64 :=
  (observations.filterMap (·.level? l)).getLast?

/-- A counter is exported: that of the evicted bytes always, one with a label once something
was observed for it. -/
def Exported (observations : List Observation) (c : Counter) : Prop :=
  c = .evictedBytes ∨ ∃ observation ∈ observations, observation.total? c ≠ none

theorem counter_observeAll (m : Exposition) (observations : List Observation) (c : Counter) :
    (m.observeAll observations).counter c =
      (observations.filterMap (·.total? c)).foldl max (m.counter c) := by
  induction observations generalizing m with
  | nil => rfl
  | cons first rest ih =>
      rw [observeAll, List.foldl_cons, ← observeAll, ih, counter_observe, List.filterMap_cons]
      cases first.total? c with
      | none => rw [Option.getD_none, max_zero]
      | some total => rfl

theorem level_observeAll (m : Exposition) (observations : List Observation) (l : Level) :
    (m.observeAll observations).level l =
      ((last? observations l).map UInt64.toInt64).getD (m.level l) := by
  induction observations using List.reverseRecOn with
  | nil => rfl
  | append_singleton observations latest ih =>
      rw [observeAll, List.foldl_concat, ← observeAll, level_observe, ih, last?, last?,
        List.filterMap_append]
      cases hlatest : latest.level? l with
      | none => simp [hlatest]
      | some number => simp [hlatest]

theorem isSome_counter?_observeAll (observations : List Observation) (c : Counter) :
    ((empty.observeAll observations).counter? c).isSome = true ↔ Exported observations c := by
  induction observations using List.reverseRecOn with
  | nil =>
      cases c with
      | evictedBytes => simp [Exported, counter?]
      | events subject label =>
          have hnone : empty.counter? (.events subject label) = none := by
            cases subject with
            | store => rfl
            | registry => rfl
            | prober => rfl
          simp [Exported, observeAll, hnone]
  | append_singleton observations latest ih =>
      have hmoved (shown total? : Option UInt64) :
          (movedUp shown total?).isSome = true ↔ shown.isSome = true ∨ total? ≠ none := by
        cases total? with
        | none => simp [movedUp]
        | some total => simp [movedUp]
      rw [observeAll, List.foldl_concat, ← observeAll, counter?_observe, hmoved, ih, Exported,
        Exported]
      simp [or_assoc, or_and_right, exists_or]

theorem counter_le_observe (m : Exposition) (observation : Observation) (c : Counter) :
    m.counter c ≤ (m.observe observation).counter c := by
  rw [counter_observe, UInt64.le_iff_toNat_le, UInt64.toNat_max]
  exact Nat.le_max_left _ _

theorem counter_observeAll_of_perm {observations others : List Observation}
    (h : others.Perm observations) (m : Exposition) (c : Counter) :
    (m.observeAll others).counter c = (m.observeAll observations).counter c := by
  rw [counter_observeAll, counter_observeAll]
  exact (h.filterMap _).foldl_eq _

/-- What was observed before moves no counter, however much was observed since. -/
theorem counter_observe_of_mem {observations : List Observation} {observation : Observation}
    (h : observation ∈ observations) (m : Exposition) (c : Counter) :
    ((m.observeAll observations).observe observation).counter c =
      (m.observeAll observations).counter c := by
  obtain ⟨before, after, rfl⟩ := List.append_of_mem h
  -- as far as the counters go, it may as well have come last
  have hlast : (before ++ observation :: after).Perm ((before ++ after) ++ [observation]) :=
    List.perm_middle.trans (List.perm_append_singleton _ _).symm
  rw [counter_observe, ← counter_observeAll_of_perm hlast.symm, observeAll, List.foldl_concat,
    counter_observe, max_max]

/-- Whatever is observed in whatever order, a counter shows the largest total that was observed
for its very label, zero before any, and its sample is this value as a float.  So no counter
goes back, what was observed before moves none, observing the same again changes nothing at
all, and the counters do not depend on the order.  A gauge of a whole number shows the last one
that was observed for it, as a signed word.  Every series is of one of the subjects, and an
observation changes no series of another one. -/
theorem counters_are_running_maxima (observations : List Observation) :
    let m := empty.observeAll observations
    (∀ c, m.counter c = largest observations c ∧
      (Exported observations c → m.sample? c.family c.label? = some (m.counter c).toFloat) ∧
      (¬Exported observations c → m.sample? c.family c.label? = none)) ∧
    (∀ next c, m.counter c ≤ (m.observe next).counter c) ∧
    (∀ earlier ∈ observations, ∀ c, (m.observe earlier).counter c = m.counter c) ∧
    (∀ next, (m.observe next).observe next = m.observe next) ∧
    (∀ others : List Observation, others.Perm observations →
      ∀ c, (empty.observeAll others).counter c = m.counter c) ∧
    (∀ l, m.level l = ((last? observations l).map UInt64.toInt64).getD 0) ∧
    m.families = m.seriesOf .prober ++ m.seriesOf .registry ++ m.seriesOf .store ∧
    ∀ next subject, subject ≠ next.subject →
      (m.observe next).seriesOf subject = m.seriesOf subject := by
  intro m
  refine ⟨?_, counter_le_observe m, fun earlier h c => counter_observe_of_mem h empty c,
    (sorted_empty.observeAll observations).observe_observe,
    fun others h c => counter_observeAll_of_perm h empty c, ?_,
    families_eq m, fun next subject h => seriesOf_observe h m⟩
  · intro c
    have hexported := isSome_counter?_observeAll observations c
    have hzero : empty.counter c = 0 := by
      cases c with
      | evictedBytes => rfl
      | events subject label =>
          cases subject with
          | store => rfl
          | registry => rfl
          | prober => rfl
    refine ⟨(counter_observeAll empty observations c).trans (by rw [hzero, largest]), ?_, ?_⟩
    · intro h
      obtain ⟨shown, hshown⟩ := Option.isSome_iff_exists.mp (hexported.mpr h)
      rw [sample?_counter, counter, hshown]
      rfl
    · intro h
      rw [sample?_counter, Option.map_eq_none_iff, ← Option.not_isSome_iff_eq_none]
      exact mt hexported.mp h
  · intro l
    have hzero : empty.level l = 0 := by
      cases l with
      | storeBytes kind => rfl
      | storeEntries => rfl
      | registryNodes => rfl
      | registryVirtualNodes => rfl
      | proberEndpoints state => rfl
    exact (level_observeAll empty observations l).trans (by rw [hzero])

/-- The statistics of a store with some hits and one block of three bytes. -/
def storeWithHits (hits : UInt64) : Observation :=
  .store ⟨"lru", 10, 3, 1, { hits, bytesEvicted := 100 }⟩

/-- Three statistics of a store, of which the newest was observed before the last one. -/
def lateStatistics : List Observation :=
  [storeWithHits 5, storeWithHits 8, .registry ⟨3, 450, { joins := 4 }⟩, storeWithHits 2]

/-- The counter stays at the eight hits of the newest, and the registry's totals and gauges
are its own. -/
theorem counters_of_lateStatistics :
    let m := empty.observeAll lateStatistics
    m.counter (.events .store "hit") = 8 ∧
      m.sample? "store_operations_total" (some "hit") = some 8 ∧
      (m.observe (storeWithHits 5)).counter (.events .store "hit") = 8 ∧
      m.counter (.events .registry "join") = 4 ∧ m.level .registryNodes = 3 ∧
      (m.observe (storeWithHits 9)).seriesOf .registry = m.seriesOf .registry := by
  intro m
  obtain ⟨hcounters, -, hagain, -, -, hlevels, -, hothers⟩ :=
    counters_are_running_maxima lateStatistics
  obtain ⟨hhits, hshown, -⟩ := hcounters (.events .store "hit")
  have height : m.counter (.events .store "hit") = 8 := hhits.trans (by rfl)
  have hexported : Exported lateStatistics (.events .store "hit") :=
    Or.inr ⟨storeWithHits 5, List.mem_cons_self, Option.some_ne_none _⟩
  refine ⟨height, ?_, ?_, (hcounters _).1.trans (by rfl), (hlevels _).trans (by rfl),
    hothers _ _ (by decide)⟩
  · exact (hshown hexported).trans (by rw [height]; rfl)
  · rw [hagain _ List.mem_cons_self, height]

end Exposition
end CacheTier
