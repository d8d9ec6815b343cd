import CacheTier.Proofs.Prober.Setting

/-!
# The passes of a cycle

What a cycle has collected at any point is what those endpoints have to give that its passes,
up to the present one, are for.  Each step of a cycle among endpoints of a known behaviour keeps
this: an answer, the end of a pass and the beginning of the next.
-/

namespace CacheTier

/-- The passes before a pass. -/
def ProbePass.before : ProbePass → List ProbePass
  | .active => []
  | .inactive => [.active]
  | .seeds => [.active, .inactive]
  | .reported => [.active, .inactive, .seeds]

namespace ProbeCycle

theorem not_mem_passes_iff {pass : ProbePass} {rest : List ProbePass}
    (h : pass :: rest <:+ allPasses) (earlier : ProbePass) :
    earlier ∉ pass :: rest ↔ earlier ∈ pass.before := by
  have htails : pass :: rest ∈ allPasses.tails := (List.mem_tails _ _).mpr h
  simp only [allPasses, List.tails, List.mem_cons, List.cons.injEq, reduceCtorEq, List.not_mem_nil,
    or_false] at htails
  rcases htails with ⟨rfl, rfl⟩ | ⟨rfl, rfl⟩ | ⟨rfl, rfl⟩ | ⟨rfl, rfl⟩ <;>
    cases earlier <;> decide

/-- The next pass depends neither on the probes of the one before nor on the passes to come. -/
theorem enter_idle (seeds : List String) (cycle : ProbeCycle) (ahead passes : List ProbePass)
    (probes : List Probe) :
    enter seeds { cycle with passes := ahead, probes } passes = enter seeds cycle passes := by
  induction passes with
  | nil => rfl
  | cons pass rest ih =>
      rw [enter, enter, ih]
      rfl

/-- A cycle has no pass left, or it is about to contact somebody and has fewer left. -/
theorem passes_enter (seeds : List String) (cycle : ProbeCycle) (passes : List ProbePass) :
    (enter seeds cycle passes).probes = [] ∧ (enter seeds cycle passes).passes = [] ∨
      (enter seeds cycle passes).probes ≠ [] ∧
        (enter seeds cycle passes).passes.length < passes.length := by
  induction passes with
  | nil => exact Or.inl ⟨rfl, rfl⟩
  | cons pass rest ih =>
      rw [enter]
      split
      · exact ih.imp_right (And.imp_right Nat.lt_succ_of_lt)
      · exact Or.inr ⟨List.cons_ne_nil _ _, Nat.lt_succ_self _⟩

/-! ## What a cycle has collected -/

/-- What a cycle has collected is what the endpoints have to give that its passes, but for
those still to come, are for. -/
structure Explored (s : ProbeSetting) (cycle : ProbeCycle) : Prop where
  listed : cycle.listed = s.listed
  passes : cycle.passes <:+ allPasses
  nodup : cycle.contacted.Nodup
  contacted : ∀ url, url ∈ cycle.contacted ↔ ∃ pass ∉ cycle.passes, s.Includes pass url
  probes : ∀ probe ∈ cycle.probes, probe.url ∈ cycle.contacted ∧
    ∀ answer, probe.answer = some answer → answer = s.answer probe.url
  responsive : ∀ entry, entry ∈ cycle.responsive ↔ entry.1 ∈ cycle.contacted ∧
    entry.1 ∉ cycle.probes.map Probe.url ∧ s.AnswersIn entry.1 entry.2
  heard : .reported ∈ cycle.passes → ∀ peer, peer ∈ cycle.contacted ∨ peer ∈ cycle.reported ↔
    peer ∈ cycle.contacted ∨ peer ≠ "" ∧ ∃ entry ∈ cycle.responsive, peer ∈ s.peers entry.1

theorem Explored.ofEndpoints (s : ProbeSetting) : Explored s (ofEndpoints s.listed) where
  listed := rfl
  passes := List.suffix_refl _
  nodup := List.nodup_nil
  contacted := by
    intro url
    refine iff_of_false List.not_mem_nil ?_
    rintro ⟨pass, hpass, -⟩
    cases pass <;> simp [ProbeCycle.ofEndpoints, allPasses] at hpass
  probes := by simp [ProbeCycle.ofEndpoints]
  responsive := by simp [ProbeCycle.ofEndpoints]
  heard := by simp [ProbeCycle.ofEndpoints]

namespace Explored

variable {s : ProbeSetting} {cycle : ProbeCycle}

theorem note (h : Explored s cycle) (url : String) :
    Explored s (cycle.note url (s.answer url)) where
  listed := h.listed
  passes := h.passes
  nodup := h.nodup
  contacted := h.contacted
  probes := by
    intro probe hprobe
    rcases mem_probes_note hprobe with hprobe | ⟨hawaits, rfl⟩
    · exact h.probes probe hprobe
    · exact ⟨(h.probes _ hawaits).1, fun answer hanswer => (Option.some.inj hanswer).symm⟩
  responsive := by
    rw [urls_note]
    exact h.responsive
  heard := h.heard

/-- When a pass is over, its probes have come to what the endpoints answer. -/
theorem probe_eq (h : Explored s cycle) (hsettled : cycle.isSettled = true) {probe : Probe}
    (hprobe : probe ∈ cycle.probes) : probe = ⟨probe.url, some (s.answer probe.url)⟩ := by
  obtain ⟨answer, hanswer⟩ :=
    Option.isSome_iff_exists.mp (List.all_eq_true.mp hsettled probe hprobe)
  obtain ⟨url, _⟩ := probe
  cases hanswer
  rw [(h.probes _ hprobe).2 answer rfl]

theorem mem_answers_iff (h : Explored s cycle) (hsettled : cycle.isSettled = true)
    (entry : String × Span) :
    entry ∈ cycle.answers ↔ entry.1 ∈ cycle.contacted ∧ s.AnswersIn entry.1 entry.2 := by
  rw [answers, List.mem_append, h.responsive, List.mem_filterMap]
  constructor
  · rintro (⟨hcontacted, -, hanswers⟩ | ⟨probe, hprobe, hentry⟩)
    · exact ⟨hcontacted, hanswers⟩
    · rw [h.probe_eq hsettled hprobe, ProbeSetting.answered?_answer_iff] at hentry
      obtain ⟨hurl, hanswers⟩ := hentry
      rw [hurl]
      exact ⟨(h.probes probe hprobe).1, hanswers⟩
  · rintro ⟨hcontacted, hanswers⟩
    by_cases hurl : entry.1 ∈ cycle.probes.map Probe.url
    · obtain ⟨probe, hprobe, hurl⟩ := List.mem_map.mp hurl
      refine Or.inr ⟨probe, hprobe, ?_⟩
      rw [h.probe_eq hsettled hprobe, ProbeSetting.answered?_answer_iff, hurl]
      exact ⟨rfl, hanswers⟩
    · exact Or.inl ⟨hcontacted, hurl, hanswers⟩

theorem absorbAll (h : Explored s cycle) (hsettled : cycle.isSettled = true) :
    Explored s cycle.absorbAll := by
  have hanswers := h.mem_answers_iff hsettled
  obtain ⟨reported, hcycle, hreported⟩ := cycle.absorbAll_eq
  rw [hcycle]
  refine ⟨h.listed, h.passes, h.nodup, h.contacted, by simp, by simpa using hanswers, ?_⟩
  intro hahead peer
  have hheard := h.heard hahead peer
  -- what the probes of the pass add is what the endpoints that answered it report
  have hpeers : peer ∈ cycle.probes.flatMap Probe.peers ↔
      ∃ entry ∈ cycle.probes.filterMap Probe.answered?, peer ∈ s.peers entry.1 := by
    rw [List.mem_flatMap]
    constructor
    · rintro ⟨probe, hprobe, hpeer⟩
      rw [h.probe_eq hsettled hprobe, ProbeSetting.mem_peers_answer_iff] at hpeer
      obtain ⟨⟨latency, hlatency⟩, hpeer⟩ := hpeer
      refine ⟨(probe.url, latency), List.mem_filterMap.mpr ⟨probe, hprobe, ?_⟩, hpeer⟩
      rw [h.probe_eq hsettled hprobe, ProbeSetting.answered?_answer_iff]
      exact ⟨rfl, hlatency⟩
    · rintro ⟨entry, hentry, hpeer⟩
      obtain ⟨probe, hprobe, hentry⟩ := List.mem_filterMap.mp hentry
      rw [h.probe_eq hsettled hprobe, ProbeSetting.answered?_answer_iff] at hentry
      obtain ⟨hurl, hlatency⟩ := hentry
      refine ⟨probe, hprobe, ?_⟩
      rw [h.probe_eq hsettled hprobe, ProbeSetting.mem_peers_answer_iff, ← hurl]
      exact ⟨⟨entry.2, hurl ▸ hlatency⟩, hpeer⟩
  dsimp only
  rw [hreported, hpeers, answers]
  simp only [List.mem_append, or_and_right, exists_or]
  by_cases hcontacted : peer ∈ cycle.contacted
  · exact iff_of_true (Or.inl hcontacted) (Or.inl hcontacted)
  · simp only [hcontacted, false_or, not_false_iff, and_true] at hheard ⊢
    rw [hheard, and_or_left, and_comm (b := peer ≠ "")]

theorem contacted_iff (h : Explored s cycle) (hpasses : cycle.passes = []) (url : String) :
    url ∈ cycle.contacted ↔ s.Contacts url := by
  rw [h.contacted, hpasses]
  simp [ProbeSetting.Contacts]

/-! ## The next pass -/

section Idle

variable (h : Explored s cycle) (hidle : cycle.probes = [])
include h hidle

theorem mem_responsive_iff (entry : String × Span) :
    entry ∈ cycle.responsive ↔ entry.1 ∈ cycle.contacted ∧ s.AnswersIn entry.1 entry.2 := by
  rw [h.responsive, hidle]
  simp

theorem responsive_isEmpty_iff :
    cycle.responsive.isEmpty = true ↔ ∀ url ∈ cycle.contacted, ¬s.Answers url := by
  rw [List.isEmpty_iff, List.eq_nil_iff_forall_not_mem]
  constructor
  · rintro hnone url hurl ⟨latency, hlatency⟩
    exact hnone (url, latency) ((h.mem_responsive_iff hidle _).mpr ⟨hurl, hlatency⟩)
  · intro hsilent entry hentry
    obtain ⟨hurl, hlatency⟩ := (h.mem_responsive_iff hidle entry).mp hentry
    exact hsilent entry.1 hurl ⟨entry.2, hlatency⟩

/-- Before the last pass, it is for those whom the endpoints that have answered report. -/
theorem includes_reported_iff
    (hlast : ∀ earlier, earlier ∉ cycle.passes ↔ earlier ≠ .reported) (url : String) :
    s.Includes .reported url ↔
      url ≠ "" ∧ ∃ entry ∈ cycle.responsive, url ∈ s.peers entry.1 := by
  constructor
  · rintro (_ | _ | _ | ⟨hsource, hpass, ⟨latency, hlatency⟩, hpeer, hnamed⟩)
    have hcontacted := (h.contacted _).mpr ⟨_, (hlast _).mpr hpass, hsource⟩
    exact ⟨hnamed, (_, latency), (h.mem_responsive_iff hidle _).mpr ⟨hcontacted, hlatency⟩, hpeer⟩
  · rintro ⟨hnamed, entry, hentry, hpeer⟩
    obtain ⟨hcontacted, hlatency⟩ := (h.mem_responsive_iff hidle entry).mp hentry
    obtain ⟨pass, hpass, hsource⟩ := (h.contacted entry.1).mp hcontacted
    exact .reported hsource ((hlast pass).mp hpass) ⟨entry.2, hlatency⟩ hpeer hnamed

/-- Up to those that have been contacted, the candidates of the next pass are the endpoints
that the pass is for. -/
theorem mem_candidates_iff {pass : ProbePass} {rest : List ProbePass}
    (hpasses : cycle.passes = pass :: rest) (url : String) :
    url ∈ cycle.contacted ∨ url ∈ cycle.candidates s.seeds pass ↔
      url ∈ cycle.contacted ∨ s.Includes pass url := by
  have hcontacted : ∀ url,
      url ∈ cycle.contacted ↔ ∃ earlier ∈ pass.before, s.Includes earlier url := by
    intro url
    rw [h.contacted, hpasses]
    simp only [not_mem_passes_iff (hpasses ▸ h.passes)]
  -- each later pass looks only at whether anybody has answered, which the setting tells
  have hempty := h.responsive_isEmpty_iff hidle
  cases pass with
  | active => simp [candidates, h.listed, ProbeSetting.Lists, and_assoc]
  | inactive =>
      have hsilent : cycle.responsive.isEmpty = true ↔
          ∀ other, s.Lists true other → ¬s.Answers other := by
        simpa [hcontacted, ProbePass.before] using hempty
      rw [candidates, ProbeSetting.includes_inactive_iff, ← hsilent]
      by_cases hnone : cycle.responsive.isEmpty = true
      · simp [hnone, h.listed, ProbeSetting.Lists, and_assoc]
      · simp [hnone]
  | seeds =>
      have hsilent : cycle.responsive.isEmpty = true ↔
          ∀ record ∈ s.listed, ¬s.Answers record.url := by
        rw [ProbeSetting.silent_listed_iff, hempty]
        simp only [hcontacted, ProbePass.before, List.mem_cons, List.not_mem_nil, or_false,
          exists_eq_or_imp, exists_eq_left]
      rw [candidates, ProbeSetting.includes_seeds_iff, ← hsilent]
      by_cases hnone : cycle.responsive.isEmpty = true
      · simp [hnone]
      · simp [hnone]
  | reported =>
      have hheard := h.heard (hpasses ▸ List.mem_cons_self) url
      have hlast : ∀ earlier, earlier ∉ cycle.passes ↔ earlier ≠ .reported := by
        intro earlier
        rw [hpasses, not_mem_passes_iff (hpasses ▸ h.passes)]
        cases earlier <;> decide
      rw [h.includes_reported_iff hidle hlast, ← hheard, candidates]
      by_cases hnone : cycle.responsive.isEmpty = true
      · rw [List.isEmpty_iff] at hnone
        simpa [hnone] using hheard.symm
      · simp [hnone]

/-- A pass contacts those whom it is for, but for those who have been contacted. -/
theorem contact {pass : ProbePass} {rest : List ProbePass} (hpasses : cycle.passes = pass :: rest) :
    Explored s { cycle with
      passes := rest
      contacted := cycle.contacted ++ cycle.targets s.seeds pass
      probes := (cycle.targets s.seeds pass).map (⟨·, none⟩) } := by
  have htargets : ∀ url, url ∈ cycle.targets s.seeds pass ↔
      url ∈ cycle.candidates s.seeds pass ∧ url ∉ cycle.contacted := by
    intro url
    rw [targets, List.mem_filter, mem_firstOfEach, decide_eq_true_iff]
  have hnodup : (pass :: rest).Nodup := (hpasses ▸ h.passes).sublist.nodup (by decide)
  refine ⟨h.listed, (List.suffix_cons pass rest).trans (hpasses ▸ h.passes), ?_, ?_, ?_, ?_, ?_⟩
  · refine h.nodup.append ((nodup_firstOfEach _).filter _) ?_
    intro url hurl htarget
    exact ((htargets url).mp htarget).2 hurl
  · intro url
    have hbegun : (∃ begun ∉ rest, s.Includes begun url) ↔
        url ∈ cycle.contacted ∨ s.Includes pass url := by
      rw [h.contacted, hpasses]
      constructor
      · rintro ⟨begun, hbegun, hincludes⟩
        by_cases hpass : begun = pass
        · exact Or.inr (hpass ▸ hincludes)
        · exact Or.inl ⟨begun, by simp [hpass, hbegun], hincludes⟩
      · rintro (⟨begun, hbegun, hincludes⟩ | hincludes)
        · exact ⟨begun, mt (List.mem_cons_of_mem _) hbegun, hincludes⟩
        · exact ⟨pass, (List.nodup_cons.mp hnodup).1, hincludes⟩
    rw [hbegun, ← h.mem_candidates_iff hidle hpasses, List.mem_append, htargets]
    tauto
  · rintro probe hprobe
    obtain ⟨url, hurl, rfl⟩ := List.mem_map.mp hprobe
    exact ⟨List.mem_append_right _ hurl, by simp⟩
  · intro entry
    rw [Probe.map_url_map_none, h.mem_responsive_iff hidle, List.mem_append, htargets]
    tauto
  · intro hahead peer
    have hheard := h.heard (hpasses ▸ List.mem_cons_of_mem _ hahead) peer
    dsimp only
    rw [List.mem_append, or_right_comm, hheard, or_right_comm]

theorem nextPass : Explored s (cycle.nextPass s.seeds) := by
  rw [ProbeCycle.nextPass]
  generalize hpasses : cycle.passes = passes
  induction passes generalizing cycle with
  | nil =>
      rw [enter, ← hpasses, ← hidle]
      exact h
  | cons pass rest ih =>
      have hcontact := h.contact hidle hpasses
      rw [enter]
      split
      · rename_i htargets
        rw [htargets, List.append_nil, List.map_nil] at hcontact
        have hlater := ih hcontact rfl rfl
        rwa [enter_idle] at hlater
      · rename_i htargets
        rwa [htargets] at hcontact

/-- When no pass is left, what becomes of the list is settled by the setting. -/
theorem verdict (hpasses : cycle.passes = []) (hdistinct : (cycle.responsive.map Prod.fst).Nodup)
    {endpoints : List EndpointRecord} {outcome : ProbeOutcome}
    (hreplaced : Prober.Replaced s.listed cycle.ranking endpoints outcome) :
    s.Verdict outcome endpoints := by
  have hcontacted := h.contacted_iff hpasses
  cases hreplaced with
  | kept hranking =>
      have hempty : cycle.responsive.isEmpty = true := by
        rw [List.isEmpty_iff, ← List.length_eq_zero_iff, ← List.length_map (f := Prod.fst),
          ← cycle.ranking_urls_perm.length_eq, hranking]
        rfl
      have hsilent : ∀ url, s.Contacts url → ¬s.Answers url := fun url hurl =>
        (h.responsive_isEmpty_iff hidle).mp hempty url ((hcontacted url).mpr hurl)
      obtain ⟨hlisted, hseeds⟩ := ProbeSetting.silent_contacts_iff.mp hsilent
      exact .allFailed hlisted hseeds
  | swapped hranking =>
      refine .completed hranking (cycle.ranking_urls_perm.nodup_iff.mpr hdistinct)
        (pairwise_ranking hdistinct) ?_
      intro record
      rw [mem_ranking_iff]
      constructor
      · rintro ⟨entry, hentry, rfl⟩
        obtain ⟨hurl, hlatency⟩ := (h.mem_responsive_iff hidle entry).mp hentry
        exact ⟨entry.1, entry.2, rfl, (hcontacted entry.1).mp hurl, hlatency⟩
      · rintro ⟨url, latency, rfl, hurl, hlatency⟩
        refine ⟨(url, latency), ?_, rfl⟩
        exact (h.mem_responsive_iff hidle _).mpr ⟨(hcontacted url).mpr hurl, hlatency⟩

end Idle

end Explored
end ProbeCycle
end CacheTier
