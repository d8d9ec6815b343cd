import CacheTier.Proofs.Prober.Ranking

/-!
# Reports of failures

A report makes an endpoint inactive at once.  The endpoint becomes active again when it is
contacted later and answers.  A cycle that had contacted it before the report is the only
exception: its ranking takes the place of the list without regard to the report.
-/

namespace CacheTier
namespace Prober

/-- In the course of a run, an endpoint is contacted by a cycle and answers it. -/
def AnswersIn (start : Prober) (events : List Event) (url : String) : Prop :=
  ∃ before call latency peers now after,
    events = before ++ .receive call url (.answered latency peers) now :: after ∧
      .contact call url ∈ start.demands before ∧
      ∃ cycle, (start.run before).cycles.get? call = some cycle ∧ cycle.Awaits url

/-- The cycle of a call is under way and has contacted an endpoint. -/
def HasContacted (prober : Prober) (call : Nat) (url : String) : Prop :=
  ∃ cycle, prober.cycles.get? call = some cycle ∧ url ∈ cycle.contacted

/-! ## Where answers come from -/

/-- What a cycle knows of an endpoint comes from contacts and answers of the run, unless the
cycle had contacted the endpoint at the start. -/
structure TracedCycle (start : Prober) (url : String) (events : List Event)
    (demands : List ProberDemand) (call : Nat) (cycle : ProbeCycle) : Prop where
  awaited : cycle.Awaits url → .contact call url ∈ demands ∨ start.HasContacted call url
  answered : url ∈ cycle.answers.map Prod.fst →
    start.AnswersIn events url ∨ start.HasContacted call url

/-- So does what a prober believes of the endpoint, after some events with their demands. -/
structure Traced (start : Prober) (url : String) (events : List Event) (later : Prober)
    (demands : List ProberDemand) : Prop where
  cycles : ∀ call cycle, later.cycles.get? call = some cycle →
    start.TracedCycle url events demands call cycle
  active : ∀ record ∈ later.endpoints, record.url = url → record.active = true →
    start.AnswersIn events url ∨
      ∃ call n, start.HasContacted call url ∧ .finish call (.completed n) ∈ demands

section Traced

variable {start later marked : Prober} {url : String} {events : List Event} {event : Event}
  {demands : List ProberDemand} {call : Nat} {cycle : ProbeCycle} {now : Span}

theorem AnswersIn.concat (h : start.AnswersIn events url) (event : Event) :
    start.AnswersIn (events ++ [event]) url := by
  obtain ⟨before, call, latency, peers, now, after, hevents, hcontact, hcycle⟩ := h
  refine ⟨before, call, latency, peers, now, after ++ [event], ?_, hcontact, hcycle⟩
  rw [hevents, List.append_assoc, List.cons_append]

theorem TracedCycle.concat (h : start.TracedCycle url events demands call cycle) (event : Event)
    (more : List ProberDemand) :
    start.TracedCycle url (events ++ [event]) (demands ++ more) call cycle where
  awaited hawaits := (h.awaited hawaits).imp_left (List.mem_append_left more)
  answered hanswer := (h.answered hanswer).imp_left (·.concat event)

theorem Traced.concat (h : Traced start url events later demands) (event : Event)
    (more : List ProberDemand) : Traced start url (events ++ [event]) later (demands ++ more) where
  cycles call cycle hget := (h.cycles call cycle hget).concat event more
  active record hrecord hurl hactive := by
    rcases h.active record hrecord hurl hactive with hanswers | ⟨call, n, hcall, hfinish⟩
    · exact Or.inl (hanswers.concat event)
    · exact Or.inr ⟨call, n, hcall, List.mem_append_left more hfinish⟩

theorem traced_nil
    (hsound : ∀ call cycle, start.cycles.get? call = some cycle → cycle.Sound)
    (hinactive : ∀ record ∈ start.endpoints, record.url = url → record.active = false) :
    Traced start url [] start [] where
  cycles call cycle hget := by
    have hcontacted := (hsound call cycle hget).contacted
    refine ⟨?_, ?_⟩
    · intro hawaits
      have hurl := hcontacted url (List.mem_append_right _ (List.mem_map_of_mem hawaits))
      exact Or.inr ⟨cycle, hget, hurl⟩
    · intro hanswer
      have hurl := hcontacted url (cycle.map_fst_answers_sublist.subset hanswer)
      exact Or.inr ⟨cycle, hget, hurl⟩
  active record hrecord hurl hactive := by
    rw [hinactive record hrecord hurl] at hactive
    cases hactive

/-- An answer to a cycle is one of the run if the cycle has waited for it since a contact of
the run. -/
theorem Traced.note (h : Traced start url events (start.run events) (start.demands events))
    (hget : (start.run events).cycles.get? call = some cycle) (target : String)
    (answer : ProbeAnswer) (now : Span) :
    start.TracedCycle url (events ++ [.receive call target answer now]) (start.demands events)
      call (cycle.note target answer) := by
  have hcycle := h.cycles call cycle hget
  refine ⟨fun hawaits => hcycle.awaited (ProbeCycle.awaits_note_iff.mp hawaits).1, ?_⟩
  intro hanswer
  obtain ⟨entry, hentry, rfl⟩ := List.mem_map.mp hanswer
  rcases ProbeCycle.mem_answers_note hentry with hentry | ⟨hawaits, rfl, peers, rfl⟩
  · exact (hcycle.answered (List.mem_map_of_mem hentry)).imp_left (·.concat _)
  · refine (hcycle.awaited hawaits).imp_left ?_
    intro hcontact
    exact ⟨events, call, entry.2, peers, now, [], rfl, hcontact, cycle, hget, hawaits⟩

theorem Traced.due (h : Traced start url events (start.run events) (start.demands events))
    (hdue : Due (start.run events) event marked call cycle now)
    (hresponsive : url ∈ cycle.responsive.map Prod.fst) :
    start.AnswersIn (events ++ [event]) url ∨ start.HasContacted call url := by
  cases hdue with
  | begun _ _ => cases hresponsive
  | @settled _ cycle target answer _ hget _ =>
      obtain ⟨reported, habsorbed, -⟩ := (cycle.note target answer).absorbAll_eq
      rw [habsorbed] at hresponsive
      exact (h.note hget target answer now).answered hresponsive

theorem Traced.step (h : Traced start url events (start.run events) (start.demands events))
    (event : Event) :
    Traced start url (events ++ [event]) ((start.run events).react event).1
      (start.demands events ++ ((start.run events).react event).2) := by
  have hmoved := (start.run events).moved event
  generalize (start.run events).react event = next at hmoved ⊢
  cases hmoved with
  | refuses _ => exact h.concat _ _
  | ignores _ => exact h.concat _ _
  | asks _ _ => exact h.concat _ _
  | @waits call _ target answer now hget _ =>
      have hkept := h.concat (.receive call target answer now) []
      refine ⟨Table.forall_get?_insert hkept.cycles ?_, hkept.active⟩
      rw [List.append_nil]
      exact h.note hget target answer now
  | @contacts event marked call cycle now hdue _ =>
      have hresponsive := h.due hdue
      have hkept := h.concat event
        ((cycle.nextPass marked.seeds).probes.map fun probe => .contact call probe.url)
      obtain ⟨_, rfl⟩ := hdue.marked_eq
      refine ⟨Table.forall_get?_insert hkept.cycles ⟨?_, ?_⟩, hkept.active⟩
      · intro hawaits
        exact Or.inl (List.mem_append_right _ (List.mem_map.mpr ⟨_, hawaits, rfl⟩))
      · rw [ProbeCycle.answers_nextPass]
        exact hresponsive
  | @ends event marked call cycle now endpoints allFailed outcome hdue _ hreplaced =>
      have hresponsive := h.due hdue
      have hkept := h.concat event [.finish call outcome]
      obtain ⟨_, rfl⟩ := hdue.marked_eq
      refine ⟨Table.forall_get?_erase hkept.cycles call, ?_⟩
      cases hreplaced with
      | kept _ => exact hkept.active
      | swapped _ =>
          -- whoever is ranked has answered this cycle, but perhaps before the report
          rintro record hrecord rfl -
          obtain ⟨entry, hentry, rfl⟩ := ProbeCycle.mem_ranking_iff.mp hrecord
          rcases hresponsive (List.mem_map_of_mem hentry) with hanswers | hcontacted
          · exact Or.inl hanswers
          · exact Or.inr ⟨call, _, hcontacted, List.mem_append_right _ List.mem_cons_self⟩
  | reports target =>
      have hkept := h.concat (.report target) ((start.run events).markFailed target).2.2
      refine ⟨hkept.cycles, ?_⟩
      intro record hrecord hurl hactive
      obtain ⟨before, hbefore, rfl⟩ := List.mem_map.mp hrecord
      split_ifs at hurl hactive
      · cases hactive
      · exact hkept.active before hbefore hurl hactive

theorem traced_run
    (hsound : ∀ call cycle, start.cycles.get? call = some cycle → cycle.Sound)
    (hinactive : ∀ record ∈ start.endpoints, record.url = url → record.active = false)
    (events : List Event) :
    Traced start url events (start.run events) (start.demands events) := by
  induction events using List.reverseRecOn with
  | nil => exact traced_nil hsound hinactive
  | append_singleton events event ih =>
      rw [run_concat, demands_concat]
      exact ih.step event

end Traced

/-! ## After a report -/

theorem inactive_of_mem_markFailed {prober : Prober} {url : String} {record : EndpointRecord}
    (hrecord : record ∈ (prober.markFailed url).1.endpoints) (hurl : record.url = url) :
    record.active = false := by
  obtain ⟨before, -, rfl⟩ := List.mem_map.mp hrecord
  split_ifs at hurl ⊢ with hreported
  · rfl
  · exact absurd hurl (by simpa using hreported)

/-- An endpoint that is active some time after a report of its failure has been contacted
and has answered since, or it had been contacted before by the cycle that was under way at
the report and has replaced the list since. -/
theorem active_after_report {service : String} {seeds : List String} {config : ProberConfig}
    {prober : Prober} (hcreate : create service seeds config = .ok prober)
    (events later : List Event) (url : String)
    (hactive : ∃ record ∈ (((prober.run events).markFailed url).1.run later).endpoints,
      record.url = url ∧ record.active = true) :
    ((prober.run events).markFailed url).1.AnswersIn later url ∨
      ∃ call n, (prober.run events).HasContacted call url ∧
        .finish call (.completed n) ∈ ((prober.run events).markFailed url).1.demands later := by
  obtain ⟨record, hrecord, hurl, hactive⟩ := hactive
  have hsound : ∀ call cycle,
      ((prober.run events).markFailed url).1.cycles.get? call = some cycle → cycle.Sound :=
    ((orderly_of_create hcreate).run events).cycles
  have htraced := traced_run hsound (fun _ => inactive_of_mem_markFailed) later
  exact htraced.active record hrecord hurl hactive

/-- An endpoint that was reported comes back when another one names it and it answers. -/
theorem active_after_report_and_answer :
    let prober := ofSeeds "meta" ["a", "b"] {}
    let reported := (prober.markFailed "a").1
    let later : List Event := [.begin 0 true (.ofMillis 1),
      .receive 0 "b" (.answered (.ofMillis 20) ["a"]) (.ofMillis 21),
      .receive 0 "a" (.answered (.ofMillis 5) []) (.ofMillis 26)]
    create "meta" ["a", "b"] {} = .ok prober ∧
      (∃ record ∈ (reported.run later).endpoints, record.url = "a" ∧ record.active = true) ∧
      reported.AnswersIn later "a" := by
  intro prober reported later
  have hcreate : create "meta" ["a", "b"] {} = .ok prober := rfl
  have hendpoints : (reported.run later).endpoints =
      [⟨"a", some (.ofMillis 5), true⟩, ⟨"b", some (.ofMillis 20), true⟩] := by cbv
  have hactive : ∃ record ∈ (reported.run later).endpoints,
      record.url = "a" ∧ record.active = true := by
    rw [hendpoints]
    exact ⟨_, List.mem_cons_self, rfl, rfl⟩
  refine ⟨hcreate, hactive, (active_after_report hcreate [] later "a" hactive).resolve_right ?_⟩
  rintro ⟨call, _, ⟨cycle, hget, -⟩, -⟩
  cases hget

theorem not_answersIn_of_not_contact {start : Prober} {events : List Event} {url : String}
    (h : ∀ call, .contact call url ∉ start.demands events) : ¬ start.AnswersIn events url := by
  rintro ⟨before, call, _, _, _, after, rfl, hcontact, -⟩
  apply h call
  rw [demands_append]
  exact List.mem_append_left _ hcontact

/-- A report comes between the answer of its endpoint and the end of the cycle that the
answer was for.  The cycle ends with the endpoint active and best of all, though nobody has
contacted it since the report. -/
theorem report_overwritten_by_cycle_under_way :
    let prober := ofSeeds "meta" ["a", "b"] {}
    let reported := (prober.run [.begin 0 true .zero,
      .receive 0 "a" (.answered (.ofMillis 10) []) (.ofMillis 10)]).markFailed "a"
    let later : List Event := [.receive 0 "b" (.answered (.ofMillis 100) []) (.ofMillis 100)]
    create "meta" ["a", "b"] {} = .ok prober ∧ reported.2.1 = true ∧
      (reported.1.run later).endpoints =
        [⟨"a", some (.ofMillis 10), true⟩, ⟨"b", some (.ofMillis 100), true⟩] ∧
      ¬ reported.1.AnswersIn later "a" := by
  intro prober reported later
  have hdemands : reported.1.demands later = [.finish 0 (.completed 2)] := by cbv
  refine ⟨rfl, by cbv, by cbv, not_answersIn_of_not_contact ?_⟩
  intro call
  rw [hdemands]
  simp

end Prober
end CacheTier
