import CacheTier.Prober.Cycle
import Mathlib.Data.List.Induction
import Mathlib.Data.List.Nodup
import Mathlib.Data.String.Basic

/-!
# The steps of a probe cycle

Going on to the next pass, noting an answer and taking in the answers of a pass each change a
few parts of a cycle.  No endpoint is contacted twice and none without a name, so those that
answered are ranked without repeats.
-/

namespace CacheTier

/-! ## Lists without repeats -/

theorem firstOfEach_concat (xs : List String) (x : String) :
    firstOfEach (xs ++ [x]) =
      if x ∈ firstOfEach xs then firstOfEach xs else firstOfEach xs ++ [x] :=
  List.foldl_concat ..

theorem firstOfEach_eq_eraseDups (xs : List String) : firstOfEach xs = xs.eraseDups := by
  induction xs using List.reverseRecOn with
  | nil => rfl
  | append_singleton xs x ih =>
      rw [firstOfEach_concat, List.eraseDups_append, ih]
      split_ifs with hx
      · rw [List.mem_eraseDups] at hx
        simp [List.removeAll, hx]
      · rw [List.mem_eraseDups] at hx
        simp [List.removeAll, hx, List.eraseDups_cons]

theorem mem_firstOfEach {xs : List String} {x : String} : x ∈ firstOfEach xs ↔ x ∈ xs := by
  rw [firstOfEach_eq_eraseDups, List.mem_eraseDups]

theorem nodup_firstOfEach (xs : List String) : (firstOfEach xs).Nodup := by
  induction xs using List.reverseRecOn with
  | nil => exact List.nodup_nil
  | append_singleton xs x ih =>
      rw [firstOfEach_concat]
      split_ifs with hx
      · exact ih
      · rw [← List.concat_eq_append]
        exact ih.concat hx

namespace Probe

/-- The endpoint of a probe that was answered, with its latency. -/
def answered? (probe : Probe) : Option (String × Span) :=
  match probe.answer with
  | some (.answered latency _) => some (probe.url, latency)
  | _ => none

/-- The peers that an endpoint has reported with its answer. -/
def peers (probe : Probe) : List String :=
  match probe.answer with
  | some (.answered _ peers) => peers
  | _ => []

theorem fst_of_answered? {probe : Probe} {entry : String × Span}
    (h : probe.answered? = some entry) : entry.1 = probe.url := by
  rw [answered?] at h
  split at h
  · cases h
    rfl
  · cases h

/-- The endpoints of the probes that a pass begins with. -/
theorem map_url_map_none (urls : List String) :
    (urls.map fun url => (⟨url, none⟩ : Probe)).map url = urls := by
  simp [Function.comp_def]

theorem map_fst_entries_sublist (probes : List Probe) :
    ((probes.filterMap answered?).map Prod.fst).Sublist (probes.map url) := by
  induction probes with
  | nil => exact List.Sublist.refl _
  | cons probe rest ih =>
      rw [List.map_cons]
      cases hentry : probe.answered? with
      | none =>
          rw [List.filterMap_cons_none hentry]
          exact ih.cons _
      | some entry =>
          rw [List.filterMap_cons_some hentry, List.map_cons, fst_of_answered? hentry]
          exact ih.cons_cons _

end Probe

namespace ProbeCycle

/-! ## Passes -/

/-- An endpoint is one of those that a cycle knows of. -/
def Knows (seeds : List String) (cycle : ProbeCycle) (url : String) : Prop :=
  (∃ record ∈ cycle.listed, record.url = url) ∨ url ∈ seeds ∨ url ∈ cycle.reported

theorem knows_of_mem_candidates {seeds : List String} {cycle : ProbeCycle} {pass : ProbePass}
    {url : String} (h : url ∈ cycle.candidates seeds pass) : cycle.Knows seeds url := by
  have hlisted : ∀ keep : EndpointRecord → Bool,
      url ∈ (cycle.listed.filter keep).map EndpointRecord.url → cycle.Knows seeds url := by
    intro keep hurl
    obtain ⟨record, hrecord, rfl⟩ := List.mem_map.mp hurl
    exact Or.inl ⟨record, List.mem_of_mem_filter hrecord, rfl⟩
  cases pass with
  | active => exact hlisted _ h
  | inactive =>
      rw [candidates] at h
      split_ifs at h
      · exact hlisted _ h
      · cases h
  | seeds =>
      rw [candidates] at h
      split_ifs at h
      · exact Or.inr (Or.inl h)
      · cases h
  | reported =>
      rw [candidates] at h
      split_ifs at h
      · cases h
      · exact Or.inr (Or.inr h)

/-- The next pass contacts endpoints that the cycle knows of and has not contacted, or there
is none. -/
theorem enter_eq (seeds : List String) (cycle : ProbeCycle) (passes : List ProbePass) :
    ∃ targets rest, cycle.enter seeds passes = { cycle with
          passes := rest
          contacted := cycle.contacted ++ targets
          probes := targets.map (⟨·, none⟩) } ∧
      targets.Nodup ∧ ∀ url ∈ targets, url ∉ cycle.contacted ∧ cycle.Knows seeds url := by
  induction passes with
  | nil => exact ⟨[], [], by simp [enter], List.nodup_nil, by simp⟩
  | cons pass rest ih =>
      rw [enter]
      split
      · exact ih
      · rename_i url urls htargets
        refine ⟨url :: urls, rest, rfl, ?_, ?_⟩
        · rw [← htargets]
          exact (nodup_firstOfEach _).filter _
        · intro target htarget
          rw [← htargets, targets, List.mem_filter, mem_firstOfEach] at htarget
          exact ⟨by simpa using htarget.2, knows_of_mem_candidates htarget.1⟩

/-! ## Answers -/

/-- Those that answered, in the present pass too. -/
def answers (cycle : ProbeCycle) : List (String × Span) :=
  cycle.responsive ++ cycle.probes.filterMap Probe.answered?

theorem map_fst_answers_sublist (cycle : ProbeCycle) :
    (cycle.answers.map Prod.fst).Sublist
      (cycle.responsive.map Prod.fst ++ cycle.probes.map Probe.url) := by
  rw [answers, List.map_append]
  exact (List.Sublist.refl _).append (Probe.map_fst_entries_sublist cycle.probes)

/-- The probe of an endpoint is outstanding. -/
def Awaits (cycle : ProbeCycle) (url : String) : Prop := ⟨url, none⟩ ∈ cycle.probes

section Note

variable {cycle : ProbeCycle} {url : String} {answer : ProbeAnswer}

theorem urls_note (cycle : ProbeCycle) (url : String) (answer : ProbeAnswer) :
    (cycle.note url answer).probes.map Probe.url = cycle.probes.map Probe.url := by
  rw [note, List.map_map]
  apply List.map_congr_left
  intro probe _
  rw [Function.comp_apply]
  split_ifs with hprobe
  · rw [Bool.and_eq_true, beq_iff_eq] at hprobe
    exact hprobe.1.symm
  · rfl

theorem mem_probes_note {probe : Probe} (h : probe ∈ (cycle.note url answer).probes) :
    probe ∈ cycle.probes ∨ cycle.Awaits url ∧ probe = ⟨url, some answer⟩ := by
  obtain ⟨before, hbefore, rfl⟩ := List.mem_map.mp h
  split_ifs with hprobe
  · rw [Bool.and_eq_true, beq_iff_eq, Option.isNone_iff_eq_none] at hprobe
    obtain ⟨hurl, hanswer⟩ := hprobe
    right
    refine ⟨?_, rfl⟩
    rw [Awaits, ← hurl, ← hanswer]
    exact hbefore
  · exact Or.inl hbefore

theorem awaits_note_iff {other : String} :
    (cycle.note url answer).Awaits other ↔ cycle.Awaits other ∧ other ≠ url := by
  rw [Awaits, Awaits, note, List.mem_map]
  constructor
  · rintro ⟨probe, hprobe, heq⟩
    split_ifs at heq with hfirst
    · cases heq
    · subst heq
      exact ⟨hprobe, by simpa using hfirst⟩
  · rintro ⟨hprobe, hne⟩
    exact ⟨_, hprobe, by simp [hne]⟩

theorem mem_answers_note {entry : String × Span} (h : entry ∈ (cycle.note url answer).answers) :
    entry ∈ cycle.answers ∨
      cycle.Awaits url ∧ entry.1 = url ∧ ∃ peers, answer = .answered entry.2 peers := by
  rcases List.mem_append.mp h with hresponsive | hanswered
  · exact Or.inl (List.mem_append_left _ hresponsive)
  · obtain ⟨probe, hprobe, hentry⟩ := List.mem_filterMap.mp hanswered
    rcases mem_probes_note hprobe with hprobe | ⟨hawaits, rfl⟩
    · exact Or.inl (List.mem_append_right _ (List.mem_filterMap.mpr ⟨probe, hprobe, hentry⟩))
    · right
      refine ⟨hawaits, ?_⟩
      cases answer with
      | silent => cases hentry
      | answered latency peers =>
          cases hentry
          exact ⟨rfl, peers, rfl⟩

end Note

/-- Those that are reported are taken in if they have a name and have not been contacted. -/
theorem foldl_hear_eq (cycle : ProbeCycle) (peers : List String) :
    ∃ reported, peers.foldl hear cycle = { cycle with reported } ∧
      ∀ peer, peer ∈ reported ↔
        peer ∈ cycle.reported ∨ peer ∈ peers ∧ peer ≠ "" ∧ peer ∉ cycle.contacted := by
  induction peers using List.reverseRecOn with
  | nil => exact ⟨cycle.reported, rfl, by simp⟩
  | append_singleton peers last ih =>
      obtain ⟨reported, hcycle, hreported⟩ := ih
      rw [List.foldl_concat, hcycle, hear]
      split_ifs with hnews
      · refine ⟨reported ++ [last], rfl, ?_⟩
        obtain ⟨⟨hnamed, hfresh⟩, -⟩ : (last ≠ "" ∧ last ∉ cycle.contacted) ∧ last ∉ reported := by
          simpa [isNews] using hnews
        intro peer
        rw [List.mem_append, List.mem_append, List.mem_singleton, hreported]
        by_cases hpeer : peer = last
        · rw [hpeer]
          simp [hnamed, hfresh]
        · simp [hpeer]
      · refine ⟨reported, rfl, ?_⟩
        intro peer
        rw [List.mem_append, List.mem_singleton, hreported]
        by_cases hpeer : peer = last
        · have hknown : last ≠ "" → last ∉ cycle.contacted → last ∈ reported := by
            simpa [isNews] using hnews
          rw [hreported] at hknown
          rw [hpeer]
          tauto
        · simp [hpeer]

theorem absorb_eq (cycle : ProbeCycle) (probe : Probe) :
    ∃ reported, cycle.absorb probe = { cycle with
          responsive := cycle.responsive ++ probe.answered?.toList
          reported } ∧
      ∀ peer, peer ∈ reported ↔
        peer ∈ cycle.reported ∨ peer ∈ probe.peers ∧ peer ≠ "" ∧ peer ∉ cycle.contacted := by
  obtain ⟨url, answer⟩ := probe
  rcases answer with _ | ⟨latency, peers⟩ | _
  · exact ⟨cycle.reported, by simp [absorb, Probe.answered?], by simp [Probe.peers]⟩
  · exact foldl_hear_eq _ peers
  · exact ⟨cycle.reported, by simp [absorb, Probe.answered?], by simp [Probe.peers]⟩

theorem foldl_absorb_eq (cycle : ProbeCycle) (probes : List Probe) :
    ∃ reported, probes.foldl absorb cycle = { cycle with
          responsive := cycle.responsive ++ probes.filterMap Probe.answered?
          reported } ∧
      ∀ peer, peer ∈ reported ↔ peer ∈ cycle.reported ∨
        peer ∈ probes.flatMap Probe.peers ∧ peer ≠ "" ∧ peer ∉ cycle.contacted := by
  induction probes using List.reverseRecOn with
  | nil => exact ⟨cycle.reported, by simp, by simp⟩
  | append_singleton probes last ih =>
      obtain ⟨reported, hcycle, hreported⟩ := ih
      obtain ⟨more, hlast, hmore⟩ := absorb_eq
        { cycle with
          responsive := cycle.responsive ++ probes.filterMap Probe.answered?
          reported } last
      rw [List.foldl_concat, hcycle, hlast]
      refine ⟨more, ?_, ?_⟩
      · have hsingle : [last].filterMap Probe.answered? = last.answered?.toList := by
          cases hentry : last.answered? with
          | none => simp [hentry]
          | some entry => simp [hentry]
        rw [List.filterMap_append, hsingle, List.append_assoc]
      · intro peer
        rw [hmore, hreported, List.flatMap_append, List.mem_append, List.flatMap_singleton,
          or_assoc, ← or_and_right]

/-- Taking in the answers of a pass leaves them all among those that answered, and their peers
among those that were reported. -/
theorem absorbAll_eq (cycle : ProbeCycle) :
    ∃ reported, cycle.absorbAll = { cycle with
          responsive := cycle.answers
          reported
          probes := [] } ∧
      ∀ peer, peer ∈ reported ↔ peer ∈ cycle.reported ∨
        peer ∈ cycle.probes.flatMap Probe.peers ∧ peer ≠ "" ∧ peer ∉ cycle.contacted := by
  obtain ⟨reported, hcycle, hreported⟩ := foldl_absorb_eq cycle cycle.probes
  exact ⟨reported, by rw [absorbAll, hcycle, answers], hreported⟩

/-! ## Contacts -/

/-- A cycle contacts no endpoint twice and none without a name. -/
structure Sound (cycle : ProbeCycle) : Prop where
  nodup : (cycle.responsive.map Prod.fst ++ cycle.probes.map Probe.url).Nodup
  contacted : ∀ url ∈ cycle.responsive.map Prod.fst ++ cycle.probes.map Probe.url,
    url ∈ cycle.contacted
  named : ∀ url ∈ cycle.contacted, url ≠ ""
  listed : ∀ record ∈ cycle.listed, record.url ≠ ""
  reported : ∀ peer ∈ cycle.reported, peer ≠ ""

theorem Sound.ofEndpoints {listed : List EndpointRecord} (h : ∀ record ∈ listed, record.url ≠ "") :
    (ofEndpoints listed).Sound where
  nodup := List.nodup_nil
  contacted := by simp [ProbeCycle.ofEndpoints]
  named := by simp [ProbeCycle.ofEndpoints]
  listed := h
  reported := by simp [ProbeCycle.ofEndpoints]

namespace Sound

variable {cycle : ProbeCycle} (h : cycle.Sound)
include h

theorem note (url : String) (answer : ProbeAnswer) : (cycle.note url answer).Sound where
  nodup := by
    rw [urls_note]
    exact h.nodup
  contacted := by
    rw [urls_note]
    exact h.contacted
  named := h.named
  listed := h.listed
  reported := h.reported

theorem absorbAll : cycle.absorbAll.Sound := by
  obtain ⟨reported, hcycle, hreported⟩ := cycle.absorbAll_eq
  have hsublist := cycle.map_fst_answers_sublist
  rw [hcycle]
  refine ⟨?_, ?_, h.named, h.listed, ?_⟩
  · simpa using h.nodup.sublist hsublist
  · intro url hurl
    exact h.contacted url (hsublist.subset (by simpa using hurl))
  · intro peer hpeer
    exact ((hreported peer).mp hpeer).elim (h.reported peer) fun hnews => hnews.2.1

theorem nextPass {seeds : List String} (hseeds : ∀ seed ∈ seeds, seed ≠ "") :
    (cycle.nextPass seeds).Sound := by
  obtain ⟨targets, rest, hcycle, hnodup, htargets⟩ := enter_eq seeds cycle cycle.passes
  have hresponsive : ∀ url ∈ cycle.responsive.map Prod.fst, url ∈ cycle.contacted :=
    fun url hurl => h.contacted url (List.mem_append_left _ hurl)
  rw [ProbeCycle.nextPass, hcycle]
  refine ⟨?_, ?_, ?_, h.listed, h.reported⟩
  -- those who answered have been contacted, and the pass is for others
  · rw [Probe.map_url_map_none]
    refine h.nodup.of_append_left.append hnodup ?_
    intro url hurl htarget
    exact (htargets url htarget).1 (hresponsive url hurl)
  · rw [Probe.map_url_map_none]
    intro url hurl
    exact List.mem_append.mpr ((List.mem_append.mp hurl).imp_left (hresponsive url))
  · intro url hurl
    rcases List.mem_append.mp hurl with hurl | hurl
    · exact h.named url hurl
    · rcases (htargets url hurl).2 with ⟨record, hrecord, rfl⟩ | hseed | hpeer
      · exact h.listed record hrecord
      · exact hseeds url hseed
      · exact h.reported url hpeer

end Sound

/-! ## What the next pass keeps -/

theorem responsive_nextPass (seeds : List String) (cycle : ProbeCycle) :
    (cycle.nextPass seeds).responsive = cycle.responsive := by
  obtain ⟨targets, rest, hcycle, -⟩ := enter_eq seeds cycle cycle.passes
  rw [nextPass, hcycle]

theorem answers_nextPass (seeds : List String) (cycle : ProbeCycle) :
    (cycle.nextPass seeds).answers = cycle.responsive := by
  obtain ⟨targets, rest, hcycle, -⟩ := enter_eq seeds cycle cycle.passes
  rw [nextPass, hcycle]
  simp [answers, List.filterMap_map, Function.comp_def, Probe.answered?]

theorem ranking_nextPass (seeds : List String) (cycle : ProbeCycle) :
    (cycle.nextPass seeds).ranking = cycle.ranking := by
  rw [ranking, responsive_nextPass, ranking]

end ProbeCycle
end CacheTier
