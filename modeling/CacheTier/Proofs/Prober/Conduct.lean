import CacheTier.Proofs.Prober.Contacts
import CacheTier.Proofs.Prober.SingleFlight

/-!
# A cycle from its beginning to its end

A call begins a cycle, the endpoints that it contacts answer in any order, and anything but a
report may happen meanwhile.  The cycle goes on exactly as long as an endpoint is still to be
heard from.  Then it has contacted those whom the behaviour of the endpoints lets it contact,
and has come to the verdict that this behaviour leaves.
-/

namespace CacheTier

namespace ProbeCycle

theorem finite_awaits (cycle : ProbeCycle) : {url | cycle.Awaits url}.Finite := by
  apply (List.finite_toSet (cycle.probes.map Probe.url)).subset
  intro url hawaits
  exact List.mem_map.mpr ⟨_, hawaits, rfl⟩

theorem ncard_awaits_note_lt {cycle : ProbeCycle} {url : String} (h : cycle.Awaits url)
    (answer : ProbeAnswer) :
    {other | (cycle.note url answer).Awaits other}.ncard < {other | cycle.Awaits other}.ncard := by
  have hnote : {other | (cycle.note url answer).Awaits other} =
      {other | cycle.Awaits other} \ {url} :=
    Set.ext fun _ => awaits_note_iff
  rw [hnote]
  exact Set.ncard_sdiff_singleton_lt_of_mem h cycle.finite_awaits

end ProbeCycle

namespace Prober

/-! ## Cycles -/

/-- A prober can come to this state. -/
def Reachable (prober : Prober) : Prop :=
  ∃ service seeds config first events,
    create service seeds config = .ok first ∧ prober = first.run events

/-- What a cycle depends on that begins now. -/
def setting (prober : Prober) (refresher : Refresher) : ProbeSetting :=
  { refresher with
    listed := prober.endpoints
    seeds := prober.seeds
    timeout := prober.config.timeout }

/-- A call begins a cycle, and some things happen until its end at the latest.  None is a
report, and the answers to the cycle are those of a refresher. -/
inductive CycleRun (start : Prober) (refresher : Refresher) (call : Nat) (force : Bool)
    (now : Span) : List Event → Prop
  | begun (hreachable : start.Reachable) (hbegins : ¬start.Declines call force now) :
      CycleRun start refresher call force now []
  | goesOn {during : List Event} {event : Event}
      (hrun : CycleRun start refresher call force now during)
      (hprobing : (start.run (.begin call force now :: during)).probing = true)
      (hreport : ∀ url, event ≠ .report url)
      (hanswer : ∀ url answer time, event = .receive call url answer time →
        answer = (start.setting refresher).answer url) :
      CycleRun start refresher call force now (during ++ [event])

/-! ## The course of a cycle -/

/-- The cycle of a call is under way and waits for somebody. -/
structure Going (start : Prober) (s : ProbeSetting) (call : Nat) (events : List Event)
    (later : Prober) (demands : List ProberDemand) (cycle : ProbeCycle) : Prop where
  get? : later.cycles.get? call = some cycle
  endpoints : later.endpoints = s.listed
  seeds : later.seeds = s.seeds
  follows : Follows start s call events demands cycle
  waiting : ∃ url, cycle.Awaits url

/-- The cycle of a call is over, and so is the wait of the call. -/
structure Over (start : Prober) (s : ProbeSetting) (call : Nat) (events : List Event)
    (later : Prober) (demands : List ProberDemand) : Prop where
  idle : later.probing = false
  nodup : (contactsOf call demands).Nodup
  contacts : ∀ url, url ∈ contactsOf call demands ↔ s.Contacts url
  heard : ∀ url ∈ contactsOf call demands, start.HeardFrom call events url
  ended : ∃ outcome, demands.getLast? = some (.finish call outcome) ∧
    s.Verdict outcome later.endpoints

/-- A cycle that a call has begun is under way, or it is over. -/
def Course (start : Prober) (s : ProbeSetting) (call : Nat) (events : List Event)
    (later : Prober) (demands : List ProberDemand) : Prop :=
  (∃ cycle, Going start s call events later demands cycle) ∨
    Over start s call events later demands

section Course

variable {start : Prober} {s : ProbeSetting} {call : Nat} {events : List Event} {event : Event}
  {demands : List ProberDemand} {cycle : ProbeCycle} {url : String} {now : Span}

section Due

variable {prober : Prober} (hendpoints : prober.endpoints = s.listed)
  (hseeds : prober.seeds = s.seeds)
  (h : Follows start s call (events ++ [event]) (start.demands events) cycle)
  (hidle : cycle.probes = [])
include hendpoints hseeds h hidle

/-- A cycle whose next pass contacts somebody is under way. -/
theorem Follows.going (hprobes : (cycle.nextPass prober.seeds).probes ≠ []) :
    Going start s call (events ++ [event])
      { prober with cycles := prober.cycles.insert call (cycle.nextPass prober.seeds) }
      (start.demands events ++
        (cycle.nextPass prober.seeds).probes.map fun probe => .contact call probe.url)
      (cycle.nextPass prober.seeds) := by
  have hnext : cycle.nextPass prober.seeds = cycle.nextPass s.seeds := by rw [hseeds]
  rw [hnext] at hprobes ⊢
  refine ⟨(Table.get?_insert ..).trans (if_pos rfl), hendpoints, hseeds, h.nextPass hidle, ?_⟩
  obtain ⟨targets, rest, hcycle, -⟩ := ProbeCycle.enter_eq s.seeds cycle cycle.passes
  rw [ProbeCycle.nextPass] at hprobes ⊢
  rw [hcycle] at hprobes ⊢
  obtain ⟨probe, hprobe⟩ := List.exists_mem_of_ne_nil _ hprobes
  obtain ⟨url, -, rfl⟩ := List.mem_map.mp hprobe
  exact ⟨url, hprobe⟩

/-- A cycle whose last pass is behind it is over. -/
theorem Follows.over (hprobes : (cycle.nextPass prober.seeds).probes = []) (hsound : cycle.Sound)
    {endpoints : List EndpointRecord} {outcome : ProbeOutcome}
    (hreplaced : Replaced prober.endpoints cycle.ranking endpoints outcome) {later : Prober}
    (hmark : later.probing = false) (hlater : later.endpoints = endpoints) :
    Over start s call (events ++ [event]) later
      (start.demands events ++ [.finish call outcome]) := by
  rw [hseeds] at hprobes
  rw [hendpoints] at hreplaced
  have hpasses : (cycle.nextPass s.seeds).passes = [] :=
    ((ProbeCycle.passes_enter s.seeds cycle cycle.passes).resolve_right
      fun hmore => hmore.1 hprobes).2
  have hfollows := h.nextPass hidle
  have hcontacts : contactsOf call (start.demands events ++ [.finish call outcome]) =
      (cycle.nextPass s.seeds).contacted := by
    rw [← hfollows.contacts, contactsOf_append, contactsOf_append, hprobes]
    rfl
  have hverdict : s.Verdict outcome endpoints := by
    apply hfollows.explored.verdict hprobes hpasses
    · rw [ProbeCycle.responsive_nextPass]
      exact hsound.nodup.of_append_left
    · rw [ProbeCycle.ranking_nextPass]
      exact hreplaced
  refine ⟨hmark, ?_, ?_, ?_, outcome, List.getLast?_concat, hlater ▸ hverdict⟩
  · rw [hcontacts]
    exact hfollows.explored.nodup
  · rw [hcontacts]
    exact hfollows.explored.contacted_iff hpasses
  · rw [hcontacts]
    intro url hurl
    have hawaits : ¬(cycle.nextPass s.seeds).Awaits url := by
      rw [ProbeCycle.Awaits, hprobes]
      exact List.not_mem_nil
    rwa [hfollows.awaits url hurl, not_not] at hawaits

end Due

/-- An answer to a cycle under way is one to this cycle. -/
theorem Going.eq_of_get? {later : Prober} (h : Going start s call events later demands cycle)
    (hsingle : later.SingleFlight) {other : Nat} {found : ProbeCycle}
    (hget : later.cycles.get? other = some found) : other = call ∧ found = cycle := by
  obtain rfl := (hsingle.only h.get?).2 other (contains_of_get?_eq_some hget)
  exact ⟨rfl, Option.some.inj (hget.symm.trans h.get?)⟩

section Step

variable (h : Going start s call events (start.run events) (start.demands events) cycle)
  (hsingle : (start.run events).SingleFlight) (hsound : cycle.Sound)
  (hanswer : ∀ url answer time, event = .receive call url answer time → answer = s.answer url)
include h hsingle hsound hanswer

theorem Going.due {marked : Prober} {other : Nat} {found : ProbeCycle}
    (hdue : Due (start.run events) event marked other found now) :
    other = call ∧ marked = start.run events ∧
      Follows start s call (events ++ [event]) (start.demands events) found ∧
      found.probes = [] ∧ found.Sound := by
  cases hdue with
  | begun hidle _ =>
      rw [(hsingle.only h.get?).1] at hidle
      cases hidle
  | @settled _ _ url _ now hget hsettled =>
      obtain ⟨rfl, rfl⟩ := h.eq_of_get? hsingle hget
      obtain rfl := hanswer _ _ _ rfl
      exact ⟨rfl, rfl, (h.follows.note url now).absorbAll hsettled, rfl,
        (hsound.note _ _).absorbAll⟩

/-- Whatever happens during a cycle but a report, the cycle goes on or comes to its end. -/
theorem Going.step (hreport : ∀ url, event ≠ .report url) :
    Course start s call (events ++ [event]) ((start.run events).react event).1
      (start.demands events ++ ((start.run events).react event).2) := by
  have hmoved := (start.run events).moved event
  generalize (start.run events).react event = next at hmoved ⊢
  cases hmoved with
  | refuses _ =>
      exact Or.inl ⟨cycle, h.get?, h.endpoints, h.seeds,
        h.follows.concat (fun _ _ _ => Event.noConfusion) (by simp), h.waiting⟩
  | ignores hget =>
      refine Or.inl ⟨cycle, h.get?, h.endpoints, h.seeds, h.follows.concat ?_ (by simp), h.waiting⟩
      rintro url answer time heq
      cases heq
      rw [h.get?] at hget
      cases hget
  | waits hget hunsettled =>
      obtain ⟨rfl, rfl⟩ := h.eq_of_get? hsingle hget
      obtain rfl := hanswer _ _ _ rfl
      rw [List.append_nil]
      exact Or.inl ⟨_, (Table.get?_insert ..).trans (if_pos rfl), h.endpoints, h.seeds,
        h.follows.note _ _, ProbeCycle.isSettled_eq_false_iff.mp hunsettled⟩
  | contacts hdue hprobes =>
      obtain ⟨rfl, rfl, hfollows, hidle, -⟩ := h.due hsingle hsound hanswer hdue
      exact Or.inl ⟨_, hfollows.going h.endpoints h.seeds hidle hprobes⟩
  | ends hdue hprobes hreplaced =>
      obtain ⟨rfl, rfl, hfollows, hidle, hfound⟩ := h.due hsingle hsound hanswer hdue
      exact Or.inr (hfollows.over h.endpoints h.seeds hidle hprobes hfound hreplaced rfl rfl)
  | reports url => exact absurd rfl (hreport url)
  | asks hevent hdemands =>
      refine Or.inl ⟨cycle, h.get?, h.endpoints, h.seeds, h.follows.concat ?_ ?_, h.waiting⟩
      · rintro url answer time rfl
        rcases hevent with hevent | ⟨_, hevent⟩
        · cases hevent
        · cases hevent
      · intro url hcontact
        obtain ⟨_, hprobe⟩ := hdemands _ hcontact
        cases hprobe

end Step

/-- With an answer that a cycle has waited for it goes on to a later pass or has fewer left to
wait for. -/
theorem advance_of_receive {prober : Prober} {answer : ProbeAnswer} {later : ProbeCycle}
    (hget : prober.cycles.get? call = some cycle) (hawaits : cycle.Awaits url)
    (hlater : (prober.step (.receive call url answer now)).cycles.get? call = some later) :
    later.passes.length < cycle.passes.length ∨ later.passes.length = cycle.passes.length ∧
      {other | later.Awaits other}.ncard < {other | cycle.Awaits other}.ncard := by
  have hmoved := prober.moved (.receive call url answer now)
  rw [Prober.step] at hlater
  generalize prober.react (.receive call url answer now) = next at hmoved hlater
  cases hmoved with
  | ignores hnone =>
      rw [hget] at hnone
      cases hnone
  | waits hsame _ =>
      obtain rfl := Option.some.inj (hget.symm.trans hsame)
      rw [Table.get?_insert_self] at hlater
      cases hlater
      exact Or.inr ⟨rfl, ProbeCycle.ncard_awaits_note_lt hawaits answer⟩
  | contacts hdue hprobes =>
      cases hdue with
      | settled hsame _ =>
          obtain rfl := Option.some.inj (hget.symm.trans hsame)
          rw [Table.get?_insert_self] at hlater
          cases hlater
          obtain ⟨reported, hcycle, -⟩ := (cycle.note url answer).absorbAll_eq
          have hpasses : (cycle.note url answer).absorbAll.passes = cycle.passes := by
            rw [hcycle]
            rfl
          rw [← hpasses]
          exact Or.inl ((ProbeCycle.passes_enter _ _ _).resolve_left fun hend => hprobes hend.1).2
  | ends hdue _ _ =>
      cases hdue with
      | settled _ _ =>
          rw [Table.get?_erase, if_pos rfl] at hlater
          cases hlater
  | asks hevent _ =>
      rcases hevent with hevent | ⟨_, hevent⟩
      · cases hevent
      · cases hevent

theorem Reachable.run (h : start.Reachable) (events : List Event) :
    (start.run events).Reachable := by
  obtain ⟨service, seeds, config, first, past, hcreate, rfl⟩ := h
  exact ⟨service, seeds, config, first, past ++ events, hcreate, List.foldl_append.symm⟩

theorem Reachable.singleFlight (h : start.Reachable) : start.SingleFlight := by
  obtain ⟨service, seeds, config, first, past, hcreate, rfl⟩ := h
  obtain ⟨-, rfl⟩ := create_eq_ok_iff.mp hcreate
  exact run_induction SingleFlight (singleFlight_ofSeeds service _ config)
    (fun _ event hprober => hprober.step event) past

theorem Reachable.orderly (h : start.Reachable) : ∃ seeds, start.Orderly seeds := by
  obtain ⟨service, seeds, config, first, past, hcreate, rfl⟩ := h
  exact ⟨_, (orderly_of_create hcreate).run past⟩

end Course

namespace CycleRun

variable {start : Prober} {refresher : Refresher} {call : Nat} {force : Bool} {now : Span}
  {during : List Event}

theorem reachable (h : CycleRun start refresher call force now during) : start.Reachable := by
  induction h with
  | begun hreachable _ => exact hreachable
  | goesOn _ _ _ _ ih => exact ih

theorem course_begun (hreachable : start.Reachable) (hbegins : ¬start.Declines call force now) :
    Course start (start.setting refresher) call [.begin call force now]
      (start.run [.begin call force now]) (start.demands [.begin call force now]) := by
  obtain ⟨seeds, horderly⟩ := hreachable.orderly
  have hmoved := start.moved (.begin call force now)
  have hfollows :=
    Follows.begun start (start.setting refresher) call (.begin call force now)
  have hrun : start.run [.begin call force now] = (start.react (.begin call force now)).1 := rfl
  have hdemands : start.demands [.begin call force now] =
      start.demands [] ++ (start.react (.begin call force now)).2 := demands_concat start [] _
  rw [hrun, hdemands]
  generalize start.react (.begin call force now) = next at hmoved ⊢
  cases hmoved with
  | refuses hrefused =>
      refine absurd (declines_iff.mpr ?_) hbegins
      cases hrefused with
      | throttled hforce hrecent => exact Or.inr ⟨hforce, hrecent⟩
      | inProgress hbusy => exact Or.inl hbusy
  | contacts hdue hprobes =>
      cases hdue with
      | begun _ _ => exact Or.inl ⟨_, hfollows.going rfl rfl rfl hprobes⟩
  | ends hdue hprobes hreplaced =>
      cases hdue with
      | begun _ _ =>
          exact Or.inr (hfollows.over rfl rfl rfl hprobes (.ofEndpoints horderly.usable.named)
            hreplaced rfl rfl)
  | asks hevent _ =>
      rcases hevent with hevent | ⟨_, hevent⟩
      · cases hevent
      · cases hevent

theorem course (h : CycleRun start refresher call force now during) :
    Course start (start.setting refresher) call (.begin call force now :: during)
      (start.run (.begin call force now :: during))
      (start.demands (.begin call force now :: during)) := by
  induction h with
  | begun hreachable hbegins => exact course_begun hreachable hbegins
  | @goesOn during event hrun hprobing hreport hanswer ih =>
      rw [← List.cons_append, run_concat, demands_concat]
      obtain ⟨cycle, hgoing⟩ | hover := ih
      · have hreached := hrun.reachable.run (.begin call force now :: during)
        obtain ⟨seeds, horderly⟩ := hreached.orderly
        exact hgoing.step hreached.singleFlight (horderly.cycles _ _ hgoing.get?) hanswer hreport
      · rw [hover.idle] at hprobing
        cases hprobing

theorem hear (h : CycleRun start refresher call force now during)
    (hprobing : (start.run (.begin call force now :: during)).probing = true) (url : String)
    (time : Span) :
    CycleRun start refresher call force now
      (during ++ [.receive call url ((start.setting refresher).answer url) time]) := by
  refine h.goesOn hprobing (fun _ => Event.noConfusion) ?_
  rintro _ _ _ heq
  cases heq
  rfl

/-- With every answer a cycle waits for fewer endpoints, or has fewer passes to come. -/
theorem exists_end_of_going {during : List Event} {cycle : ProbeCycle}
    (h : CycleRun start refresher call force now during)
    (hgoing : Going start (start.setting refresher) call (.begin call force now :: during)
      (start.run (.begin call force now :: during))
      (start.demands (.begin call force now :: during)) cycle) :
    ∃ more, CycleRun start refresher call force now (during ++ more) ∧
      (start.run (.begin call force now :: (during ++ more))).probing = false := by
  obtain ⟨url, hawaits⟩ := hgoing.waiting
  have hsingle := (h.reachable.run (.begin call force now :: during)).singleFlight
  have hnext := h.hear (hsingle.only hgoing.get?).1 url now
  rcases hnext.course with ⟨later, hlater⟩ | hover
  · obtain ⟨more, hmore, hidle⟩ := exists_end_of_going hnext hlater
    rw [List.append_assoc] at hmore hidle
    exact ⟨_, hmore, hidle⟩
  · exact ⟨_, hnext, hover.idle⟩
termination_by (cycle.passes.length, {url | cycle.Awaits url}.ncard)
decreasing_by
  have hget := hlater.get?
  rw [← List.cons_append, run_concat] at hget
  exact Prod.lex_def.mpr (advance_of_receive hgoing.get? hawaits hget)

theorem exists_end (h : CycleRun start refresher call force now during) :
    ∃ more, CycleRun start refresher call force now (during ++ more) ∧
      (start.run (.begin call force now :: (during ++ more))).probing = false := by
  rcases h.course with ⟨cycle, hgoing⟩ | hover
  · exact h.exists_end_of_going hgoing
  · refine ⟨[], ?_, ?_⟩
    · rwa [List.append_nil]
    · rw [List.append_nil]
      exact hover.idle

end CycleRun

/-- A call begins a cycle at a prober in use, among endpoints of some behaviour, and no report
comes meanwhile.  The cycle contacts nobody twice, and only those whom its setting lets it
contact.  It goes on exactly as long as somebody contacted is still to be heard from, and the
answers to come bring it to an end.  Then it has contacted all of those, and the call gets the
verdict that its setting leaves.  The order of answers and lists does not matter: any other
cycle in an alike setting has the same outcome and, unless nobody answers, leaves the same
list. -/
theorem cycle_settled_by_setting {start : Prober} {refresher : Refresher} {call : Nat}
    {force : Bool} {now : Span} {during : List Event}
    (h : CycleRun start refresher call force now during) :
    let s := start.setting refresher
    let events := .begin call force now :: during
    let contacts := contactsOf call (start.demands events)
    contacts.Nodup ∧ (∀ url ∈ contacts, s.Contacts url) ∧
      ((start.run events).probing = true ↔ ∃ url ∈ contacts, ¬start.HeardFrom call events url) ∧
      (∃ more, CycleRun start refresher call force now (during ++ more) ∧
        (start.run (events ++ more)).probing = false) ∧
      ((start.run events).probing = false →
        (∀ url, s.Contacts url → url ∈ contacts) ∧
          ∃ outcome, (start.demands events).getLast? = some (.finish call outcome) ∧
            s.Verdict outcome (start.run events).endpoints ∧
            ∀ start' refresher' call' force' now' during',
              CycleRun start' refresher' call' force' now' during' →
              s.Alike (start'.setting refresher') →
              let events' := .begin call' force' now' :: during'
              (start'.run events').probing = false →
              (start'.demands events').getLast? = some (.finish call' outcome) ∧
                (outcome ≠ .allFailed →
                  (start'.run events').endpoints = (start.run events).endpoints)) := by
  intro s events contacts
  have hend := h.exists_end
  rcases h.course with ⟨cycle, hgoing⟩ | hover
  -- under way, the cycle waits for somebody of whom a contact was demanded
  · have hcontacts : contacts = cycle.contacted := hgoing.follows.contacts
    have hexplored := hgoing.follows.explored
    have hprobing : (start.run events).probing = true :=
      ((h.reachable.run events).singleFlight.only hgoing.get?).1
    obtain ⟨url, hawaits⟩ := hgoing.waiting
    have hurl := (hexplored.probes _ hawaits).1
    refine ⟨hcontacts ▸ hexplored.nodup, ?_, ?_, hend, ?_⟩
    · intro url hurl
      obtain ⟨pass, -, hincludes⟩ := (hexplored.contacted url).mp (hcontacts ▸ hurl)
      exact ⟨pass, hincludes⟩
    · exact iff_of_true hprobing
        ⟨url, hcontacts ▸ hurl, (hgoing.follows.awaits url hurl).mp hawaits⟩
    · intro hidle
      rw [hprobing] at hidle
      cases hidle
  · refine ⟨hover.nodup, fun url => (hover.contacts url).mp, ?_, hend, ?_⟩
    · rw [hover.idle]
      refine iff_of_false Bool.false_ne_true ?_
      rintro ⟨url, hurl, hunheard⟩
      exact hunheard (hover.heard url hurl)
    · intro _
      obtain ⟨outcome, hlast, hverdict⟩ := hover.ended
      refine ⟨fun url => (hover.contacts url).mpr, outcome, hlast, hverdict, ?_⟩
      intro start' refresher' call' force' now' during' h' halike events' hidle'
      -- the other cycle is over too, and its verdict is one on an alike setting
      rcases h'.course with ⟨cycle, hgoing⟩ | hover'
      · have hprobing := ((h'.reachable.run events').singleFlight.only hgoing.get?).1
        rw [hidle'] at hprobing
        cases hprobing
      · obtain ⟨outcome', hlast', hverdict'⟩ := hover'.ended
        obtain ⟨rfl, hsame⟩ := hverdict.unique hverdict' halike
        exact ⟨hlast', fun hanswered => (hsame hanswered).symm⟩

/-- Of two seeds one fails, and the other reports them both along with a third endpoint.  That
one is contacted and ranked first, but whom it reports itself is not followed. -/
theorem cycle_settled_by_setting_of_reported_peer :
    let start := ofSeeds "meta" ["a", "b"] {}
    let refresher : Refresher :=
      ⟨fun url => if url = "a" then none else some (.ofMillis (if url = "b" then 20 else 5)),
        fun url => if url = "b" then ["", "a", "c", "b", "c"] else ["d"]⟩
    let answer := (start.setting refresher).answer
    let during : List Event := [.receive 0 "b" (answer "b") (.ofMillis 20),
      .receive 0 "a" (answer "a") (.ofMillis 30), .receive 0 "c" (answer "c") (.ofMillis 35)]
    let events := .begin 0 true .zero :: during
    CycleRun start refresher 0 true .zero during ∧
      (start.setting refresher).Verdict (.completed 2)
        [⟨"c", some (.ofMillis 5), true⟩, ⟨"b", some (.ofMillis 20), true⟩] ∧
      contactsOf 0 (start.demands events) = ["a", "b", "c"] ∧
      (start.setting refresher).Contacts "c" ∧ ¬(start.setting refresher).Contacts "d" := by
  intro start refresher answer during events
  have hbegins : ¬start.Declines 0 true .zero := by
    rw [declines_iff]
    decide
  have hrun : CycleRun start refresher 0 true .zero during :=
    (((CycleRun.begun ⟨"meta", ["a", "b"], {}, start, [], rfl, rfl⟩ hbegins).hear (by cbv) "b"
      (.ofMillis 20)).hear (by cbv) "a" (.ofMillis 30)).hear (by cbv) "c" (.ofMillis 35)
  have hidle : (start.run events).probing = false := by cbv
  have hcontacts : contactsOf 0 (start.demands events) = ["a", "b", "c"] := by cbv
  have hendpoints : (start.run events).endpoints =
      [⟨"c", some (.ofMillis 5), true⟩, ⟨"b", some (.ofMillis 20), true⟩] := by cbv
  have hlast : (start.demands events).getLast? = some (.finish 0 (.completed 2)) := by cbv
  obtain ⟨-, hallowed, -, -, hover⟩ := cycle_settled_by_setting hrun
  obtain ⟨hall, outcome, hfinish, hverdict, -⟩ := hover hidle
  obtain rfl : outcome = .completed 2 := by
    simpa using hfinish.symm.trans hlast
  rw [hendpoints] at hverdict
  refine ⟨hrun, hverdict, hcontacts, hallowed "c" ?_, fun hcontacts' => ?_⟩
  · rw [hcontacts]
    decide
  · have hmem := hall "d" hcontacts'
    rw [hcontacts] at hmem
    revert hmem
    decide

end Prober
end CacheTier
