import CacheTier.Proofs.Prober.Steps
import Mathlib

/-!
# The list of endpoints

The list is replaced by rankings of those that answered, and changed in place by reports.
Through all of this it stays fit for use: there is always an endpoint in it, none is in it
twice, and it is in the order of the seeds or in that of a ranking.
-/

namespace CacheTier

/-- One record ranks before another: its latency is lower, or equal and its URL comes
first. -/
def EndpointRecord.Precedes (a b : EndpointRecord) : Prop :=
  ∃ x y, a.latency = some x ∧ b.latency = some y ∧ (x < y ∨ x = y ∧ a.url < b.url)

instance : Std.Asymm EndpointRecord.Precedes where
  asymm := by
    rintro a b ⟨x, y, ha, hb, hab⟩ ⟨y', x', hb', ha', hba⟩
    obtain rfl := Option.some.inj (ha.symm.trans ha')
    obtain rfl := Option.some.inj (hb.symm.trans hb')
    rcases hab with hab | ⟨rfl, hab⟩
    · rcases hba with hba | ⟨rfl, -⟩
      · exact Nat.lt_asymm hab hba
      · exact Nat.lt_irrefl _ hab
    · rcases hba with hba | ⟨-, hba⟩
      · exact Nat.lt_irrefl _ hba
      · exact lt_asymm hab hba

namespace ProbeCycle

theorem prefers_iff {a b : String × Span} :
    prefers a b = true ↔ a.2 < b.2 ∨ a.2 = b.2 ∧ a.1 ≤ b.1 := by
  simp [prefers]

theorem prefers_trans (a b c : String × Span) (hab : prefers a b = true)
    (hbc : prefers b c = true) : prefers a c = true := by
  rw [prefers_iff] at hab hbc ⊢
  rcases hab with hab | ⟨hab, hab'⟩
  · rcases hbc with hbc | ⟨hbc, -⟩
    · exact Or.inl (Nat.lt_trans hab hbc)
    · exact Or.inl (hbc ▸ hab)
  · rw [hab]
    exact hbc.imp_right (And.imp_right hab'.trans)

theorem prefers_total (a b : String × Span) : (prefers a b || prefers b a) = true := by
  rw [Bool.or_eq_true, prefers_iff, prefers_iff]
  rcases Nat.lt_trichotomy a.2.nanos b.2.nanos with hlt | heq | hlt
  · exact Or.inl (Or.inl hlt)
  · have hlatency : a.2 = b.2 := congrArg Span.mk heq
    exact (le_total a.1 b.1).imp (fun hle => Or.inr ⟨hlatency, hle⟩)
      fun hle => Or.inr ⟨hlatency.symm, hle⟩
  · exact Or.inr (Or.inl hlt)

theorem ranking_urls_perm (cycle : ProbeCycle) :
    (cycle.ranking.map EndpointRecord.url).Perm (cycle.responsive.map Prod.fst) := by
  rw [ranking, List.map_map]
  exact (List.mergeSort_perm _ _).map Prod.fst

theorem mem_ranking_iff {cycle : ProbeCycle} {record : EndpointRecord} :
    record ∈ cycle.ranking ↔
      ∃ entry ∈ cycle.responsive, record = .ofAnswer entry.1 entry.2 := by
  simp only [ranking, List.mem_map, List.mem_mergeSort, eq_comm]

/-- Where nobody answered twice, the ranking has no ties. -/
theorem pairwise_ranking {cycle : ProbeCycle} (h : (cycle.responsive.map Prod.fst).Nodup) :
    cycle.ranking.Pairwise EndpointRecord.Precedes := by
  have hsorted := List.pairwise_mergeSort prefers_trans prefers_total cycle.responsive
  have hdistinct : ((cycle.responsive.mergeSort prefers).map Prod.fst).Nodup :=
    ((List.mergeSort_perm _ _).map Prod.fst).nodup_iff.mpr h
  rw [List.Nodup, List.pairwise_map] at hdistinct
  rw [ranking, List.pairwise_map]
  apply (hsorted.and hdistinct).imp
  rintro a b ⟨hprefers, hne⟩
  refine ⟨a.2, b.2, rfl, rfl, (prefers_iff.mp hprefers).imp_right ?_⟩
  rintro ⟨hlatency, hle⟩
  exact ⟨hlatency, lt_of_le_of_ne hle hne⟩

end ProbeCycle

namespace Prober

/-! ## Usable lists -/

/-- A list of endpoints has one for every caller, names each once, and is in the order of
the seeds as long as nothing has been measured, or in that of a ranking. -/
structure Usable (seeds : List String) (endpoints : List EndpointRecord) : Prop where
  ne_nil : endpoints ≠ []
  nodup : (endpoints.map EndpointRecord.url).Nodup
  named : ∀ record ∈ endpoints, record.url ≠ ""
  ordered : (endpoints.map EndpointRecord.url = seeds ∧
      ∀ record ∈ endpoints, record.latency = none) ∨
    (∀ record ∈ endpoints, record.latency ≠ none) ∧
      endpoints.Pairwise EndpointRecord.Precedes

theorem usable_ofSeeds {seeds : List String} (hne : seeds ≠ []) (hnodup : seeds.Nodup)
    (hnamed : ∀ seed ∈ seeds, seed ≠ "") : Usable seeds (seeds.map EndpointRecord.ofSeed) := by
  have hurls : (seeds.map EndpointRecord.ofSeed).map EndpointRecord.url = seeds := by
    simp [Function.comp_def, EndpointRecord.ofSeed]
  refine ⟨?_, ?_, ?_, Or.inl ⟨hurls, ?_⟩⟩
  · simpa using hne
  · rw [hurls]
    exact hnodup
  · rintro record hrecord
    obtain ⟨seed, hseed, rfl⟩ := List.mem_map.mp hrecord
    exact hnamed seed hseed
  · rintro record hrecord
    obtain ⟨seed, hseed, rfl⟩ := List.mem_map.mp hrecord
    rfl

theorem Usable.map {seeds : List String} {endpoints : List EndpointRecord}
    (h : Usable seeds endpoints) {f : EndpointRecord → EndpointRecord}
    (hurl : ∀ record, (f record).url = record.url)
    (hlatency : ∀ record, (f record).latency = record.latency) :
    Usable seeds (endpoints.map f) := by
  have hurls : (endpoints.map f).map EndpointRecord.url = endpoints.map EndpointRecord.url := by
    simp [Function.comp_def, hurl]
  have hmeasured : ∀ P : Option Span → Prop, (∀ record ∈ endpoints, P record.latency) →
      ∀ record ∈ endpoints.map f, P record.latency := by
    intro P hall record hrecord
    obtain ⟨before, hbefore, rfl⟩ := List.mem_map.mp hrecord
    rw [hlatency]
    exact hall before hbefore
  refine ⟨?_, ?_, ?_, h.ordered.imp ?_ ?_⟩
  · simpa using h.ne_nil
  · rw [hurls]
    exact h.nodup
  · intro record hrecord
    obtain ⟨before, hbefore, rfl⟩ := List.mem_map.mp hrecord
    rw [hurl]
    exact h.named before hbefore
  · rintro ⟨hseeds, hnone⟩
    exact ⟨hurls.trans hseeds, hmeasured (· = none) hnone⟩
  · rintro ⟨hsome, hpairwise⟩
    refine ⟨hmeasured (· ≠ none) hsome, List.pairwise_map.mpr (hpairwise.imp ?_)⟩
    rintro a b ⟨x, y, ha, hb, horder⟩
    refine ⟨x, y, (hlatency a).trans ha, (hlatency b).trans hb, ?_⟩
    rw [hurl, hurl]
    exact horder

theorem usable_ranking {seeds : List String} {cycle : ProbeCycle} (h : cycle.Sound)
    (hne : cycle.ranking ≠ []) : Usable seeds cycle.ranking := by
  have hresponsive := h.nodup.of_append_left
  refine ⟨hne, cycle.ranking_urls_perm.nodup_iff.mpr hresponsive, ?_,
    Or.inr ⟨?_, ProbeCycle.pairwise_ranking hresponsive⟩⟩
  · intro record hrecord
    obtain ⟨entry, hentry, rfl⟩ := ProbeCycle.mem_ranking_iff.mp hrecord
    have hcontacted := h.contacted entry.1
      (List.mem_append_left _ (List.mem_map_of_mem hentry))
    exact h.named entry.1 hcontacted
  · intro record hrecord
    obtain ⟨entry, hentry, rfl⟩ := ProbeCycle.mem_ranking_iff.mp hrecord
    exact Option.some_ne_none entry.2

/-! ## Runs -/

/-- The list of a prober is usable, and the cycles under way will leave it so. -/
structure Orderly (seeds : List String) (prober : Prober) : Prop where
  seeds_eq : prober.seeds = seeds
  named : ∀ seed ∈ seeds, seed ≠ ""
  usable : Usable seeds prober.endpoints
  cycles : ∀ call cycle, prober.cycles.get? call = some cycle → cycle.Sound

section Orderly

variable {seeds : List String} {prober marked : Prober} {event : Event} {call : Nat}
  {cycle : ProbeCycle} {now : Span}

theorem Orderly.due (h : prober.Orderly seeds) (hdue : Due prober event marked call cycle now) :
    cycle.Sound := by
  cases hdue with
  | begun _ _ => exact .ofEndpoints h.usable.named
  | settled hget _ => exact ((h.cycles _ _ hget).note _ _).absorbAll

theorem Orderly.step (h : prober.Orderly seeds) (event : Event) :
    (prober.step event).Orderly seeds := by
  have hmoved := prober.moved event
  rw [Prober.step]
  generalize prober.react event = next at hmoved ⊢
  cases hmoved with
  | refuses _ => exact h
  | ignores _ => exact h
  | asks _ _ => exact h
  | waits hget _ =>
      have hnoted := (h.cycles _ _ hget).note
      exact ⟨h.seeds_eq, h.named, h.usable, Table.forall_get?_insert h.cycles (hnoted _ _)⟩
  | contacts hdue _ =>
      have hsound := h.due hdue
      obtain ⟨_, rfl⟩ := hdue.marked_eq
      refine ⟨h.seeds_eq, h.named, h.usable, Table.forall_get?_insert h.cycles ?_⟩
      rw [h.seeds_eq]
      exact hsound.nextPass h.named
  | ends hdue _ hreplaced =>
      have hsound := h.due hdue
      obtain ⟨_, rfl⟩ := hdue.marked_eq
      refine ⟨h.seeds_eq, h.named, ?_, Table.forall_get?_erase h.cycles _⟩
      cases hreplaced with
      | kept _ => exact h.usable
      | swapped hranking => exact usable_ranking hsound hranking
  | reports url =>
      refine ⟨h.seeds_eq, h.named, h.usable.map ?_ ?_, h.cycles⟩
      · intro record
        split_ifs
        · rfl
        · rfl
      · intro record
        split_ifs
        · rfl
        · rfl

theorem Orderly.run (h : prober.Orderly seeds) (events : List Event) :
    (prober.run events).Orderly seeds :=
  run_induction (Orderly seeds) h (fun _ event hprober => hprober.step event) events

theorem mem_eraseDups_filter {seed : String} :
    seed ∈ (seeds.filter (· ≠ "")).eraseDups ↔ seed ∈ seeds ∧ seed ≠ "" := by
  rw [List.mem_eraseDups, List.mem_filter, decide_eq_true_iff]

theorem orderly_of_create {service : String} {config : ProberConfig}
    (h : create service seeds config = .ok prober) :
    prober.Orderly (seeds.filter (· ≠ "")).eraseDups := by
  obtain ⟨hne, rfl⟩ := create_eq_ok_iff.mp h
  have hnamed : ∀ seed ∈ (seeds.filter (· ≠ "")).eraseDups, seed ≠ "" :=
    fun seed hseed => (mem_eraseDups_filter.mp hseed).2
  have hnodup : (seeds.filter (· ≠ "")).eraseDups.Nodup := by
    rw [← firstOfEach_eq_eraseDups]
    exact nodup_firstOfEach _
  exact ⟨rfl, hnamed, usable_ofSeeds hne hnodup hnamed, by simp [ofSeeds]⟩

end Orderly

/-! ## The endpoint to talk to -/

/-- A record is the first active one of a list, or the first of all if none is active. -/
def Foremost (endpoints : List EndpointRecord) (record : EndpointRecord) : Prop :=
  ∃ before after, endpoints = before ++ record :: after ∧
    (record.active = true ∧ (∀ earlier ∈ before, earlier.active = false) ∨
      before = [] ∧ ∀ other ∈ endpoints, other.active = false)

theorem exists_foremost {prober : Prober} (hne : prober.endpoints ≠ []) :
    ∃ record, Foremost prober.endpoints record ∧ prober.best? = some record.url := by
  rw [best?]
  cases hfind : prober.endpoints.find? (·.active) with
  | some record =>
      obtain ⟨hactive, before, after, hsplit, hbefore⟩ :=
        List.find?_eq_some_iff_append.mp hfind
      refine ⟨record, ⟨before, after, hsplit, Or.inl ⟨hactive, ?_⟩⟩, rfl⟩
      simpa using hbefore
  | none =>
      obtain ⟨first, rest, hlist⟩ := List.exists_cons_of_ne_nil hne
      refine ⟨first, ⟨[], rest, hlist, Or.inr ⟨rfl, ?_⟩⟩, ?_⟩
      · simpa using List.find?_eq_none.mp hfind
      · rw [hlist]
        rfl

/-- A prober is created of any seeds among which there is one with a name.  Whatever then
happens at it, its list stays fit for use, and there is always an endpoint to talk to. -/
theorem endpoints_stay_usable (service : String) (seeds : List String) (config : ProberConfig) :
    ((∃ prober, create service seeds config = .ok prober) ↔ ∃ seed ∈ seeds, seed ≠ "") ∧
      ∀ prober, create service seeds config = .ok prober → ∀ events,
        Usable (seeds.filter (· ≠ "")).eraseDups (prober.run events).endpoints ∧
          ∃ record, Foremost (prober.run events).endpoints record ∧
            (prober.run events).current.1 = some record.url := by
  refine ⟨?_, ?_⟩
  · simp only [create_eq_ok_iff, exists_and_left, exists_eq, and_true]
    rw [ne_eq, List.eq_nil_iff_forall_not_mem, not_forall_not]
    exact exists_congr fun seed => mem_eraseDups_filter
  · intro prober hcreate events
    have husable := ((orderly_of_create hcreate).run events).usable
    exact ⟨husable, exists_foremost husable.ne_nil⟩

/-- Equally fast endpoints are ranked by their URLs behind a faster one that they reported,
and the report of that one makes the first of them the one to talk to. -/
theorem endpoints_stay_usable_after_report :
    ∃ prober, create "meta" ["", "b", "a", "b"] {} = .ok prober ∧
      ∃ events, (prober.run events).endpoints =
          [⟨"c", some (.ofMillis 5), false⟩, ⟨"a", some (.ofMillis 20), true⟩,
            ⟨"b", some (.ofMillis 20), true⟩] ∧
        Usable ["b", "a"] (prober.run events).endpoints ∧
        ∃ record, Foremost (prober.run events).endpoints record ∧
          (prober.run events).current.1 = some record.url := by
  obtain ⟨hcreate, husable⟩ := endpoints_stay_usable "meta" ["", "b", "a", "b"] {}
  obtain ⟨prober, hprober⟩ := hcreate.mpr ⟨"b", by decide, by decide⟩
  obtain ⟨-, rfl⟩ := create_eq_ok_iff.mp hprober
  exact ⟨_, hprober,
    [.begin 0 true (.ofMillis 1), .receive 0 "b" (.answered (.ofMillis 20) ["c"]) (.ofMillis 21),
      .receive 0 "a" (.answered (.ofMillis 20) []) (.ofMillis 21),
      .receive 0 "c" (.answered (.ofMillis 5) []) (.ofMillis 26), .report "c"],
    by cbv, husable _ hprober _⟩

end Prober
end CacheTier
