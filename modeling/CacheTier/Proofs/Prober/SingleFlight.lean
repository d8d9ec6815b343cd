import CacheTier.Proofs.Prober.Steps
import Mathlib

/-!
# One cycle at a time

A prober is marked while a cycle is under way, and there is never more than one.  The ends
of its cycles are counted, and the last of them keeps calls that are not forced from
beginning another cycle too soon.
-/

namespace CacheTier

/-- A call with this outcome has brought a cycle to its end. -/
def ProbeOutcome.isEnding : ProbeOutcome → Bool
  | .completed _ => true
  | .allFailed => true
  | .inProgress => false
  | .throttled => false

def ProberDemand.isEnding : ProberDemand → Bool
  | .finish _ outcome => outcome.isEnding
  | .contact _ _ => false
  | .probe _ => false

namespace Prober

/-! ## The cycle under way -/

/-- A prober is marked exactly while a cycle is under way, and there is at most one. -/
structure SingleFlight (prober : Prober) : Prop where
  marked_iff : prober.probing = true ↔ ∃ call, prober.cycles.contains call = true
  unique : ∀ call other, prober.cycles.contains call = true →
    prober.cycles.contains other = true → call = other

section SingleFlight

variable {prober marked : Prober} {event : Event} {call : Nat} {cycle : ProbeCycle} {now : Span}

theorem contains_of_get?_eq_some (hget : prober.cycles.get? call = some cycle) :
    prober.cycles.contains call = true := by
  rw [Table.contains, hget, Option.isSome_some]

theorem SingleFlight.insert (hprobing : prober.probing = true)
    (honly : ∀ other, prober.cycles.contains other = true → other = call) :
    SingleFlight { prober with cycles := prober.cycles.insert call cycle } := by
  have honly' : ∀ other, (prober.cycles.insert call cycle).contains other = true →
      other = call := by
    intro other hother
    exact (Table.contains_insert_iff.mp hother).elim id (honly other)
  refine ⟨iff_of_true hprobing ⟨call, Table.contains_insert_iff.mpr (Or.inl rfl)⟩, ?_⟩
  intro first second hfirst hsecond
  exact (honly' first hfirst).trans (honly' second hsecond).symm

/-- No cycle is under way when the only one is over. -/
theorem SingleFlight.erase {endpoints : List EndpointRecord} {counters : ProberCounters}
    (honly : ∀ other, prober.cycles.contains other = true → other = call) :
    SingleFlight { prober with
      endpoints
      cycles := prober.cycles.erase call
      probing := false
      lastProbe := some now
      counters } := by
  have hnone : ∀ other, (prober.cycles.erase call).contains other ≠ true := by
    intro other hother
    obtain ⟨hne, hother⟩ := Table.contains_erase_iff.mp hother
    exact hne (honly other hother)
  refine ⟨iff_of_false Bool.false_ne_true ?_, ?_⟩
  · rintro ⟨other, hother⟩
    exact hnone other hother
  · intro first _ hfirst _
    exact absurd hfirst (hnone first)

theorem SingleFlight.only (h : prober.SingleFlight) (hget : prober.cycles.get? call = some cycle) :
    prober.probing = true ∧ ∀ other, prober.cycles.contains other = true → other = call :=
  ⟨h.marked_iff.mpr ⟨call, contains_of_get?_eq_some hget⟩,
    fun other hother => h.unique other call hother (contains_of_get?_eq_some hget)⟩

theorem SingleFlight.due (h : prober.SingleFlight)
    (hdue : Due prober event marked call cycle now) :
    marked.probing = true ∧ ∀ other, marked.cycles.contains other = true → other = call := by
  cases hdue with
  | begun hidle _ =>
      refine ⟨rfl, ?_⟩
      intro other hother
      have hbusy := h.marked_iff.mpr ⟨other, hother⟩
      rw [hidle] at hbusy
      cases hbusy
  | settled hget _ => exact h.only hget

theorem SingleFlight.step (h : prober.SingleFlight) (event : Event) :
    (prober.step event).SingleFlight := by
  have hmoved := prober.moved event
  rw [Prober.step]
  generalize prober.react event = next at hmoved ⊢
  cases hmoved with
  | refuses _ => exact h
  | ignores _ => exact h
  | reports _ => exact ⟨h.marked_iff, h.unique⟩
  | asks _ _ => exact h
  | waits hget _ =>
      obtain ⟨hprobing, honly⟩ := h.only hget
      exact .insert hprobing honly
  | contacts hdue _ =>
      obtain ⟨hprobing, honly⟩ := h.due hdue
      exact .insert hprobing honly
  | ends hdue _ _ =>
      obtain ⟨-, honly⟩ := h.due hdue
      exact .erase honly

theorem singleFlight_ofSeeds (service : String) (seeds : List String) (config : ProberConfig) :
    (ofSeeds service seeds config).SingleFlight := by
  refine ⟨by simp [ofSeeds, Table.contains], ?_⟩
  intro call _ hcall _
  cases hcall

/-- A prober contacts endpoints for the cycle under way only. -/
theorem contains_of_contact_mem_react {url : String}
    (h : .contact call url ∈ (prober.react event).2) :
    (prober.step event).cycles.contains call = true := by
  have hmoved := prober.moved event
  rw [Prober.step]
  generalize prober.react event = next at hmoved h ⊢
  cases hmoved with
  | refuses _ => simp at h
  | ignores _ => cases h
  | waits _ _ => cases h
  | contacts _ _ =>
      obtain ⟨_, _, hcontact⟩ := List.mem_map.mp h
      cases hcontact
      exact Table.contains_insert_iff.mpr (Or.inl rfl)
  | ends _ _ _ => simp at h
  | reports _ => cases mem_trigger h
  | asks _ hdemands =>
      obtain ⟨_, hprobe⟩ := hdemands _ h
      cases hprobe

end SingleFlight

/-! ## The ends of cycles -/

/-- When something happens, as far as a prober is told. -/
def Event.time? : Event → Option Span
  | .begin _ _ now => some now
  | .receive _ _ _ now => some now
  | .report _ => none
  | .current => none
  | .trigger _ => none

/-- Events come in the order of their times. -/
def Ordered (events : List Event) : Prop := (events.filterMap Event.time?).Pairwise (· ≤ ·)

instance (events : List Event) : Decidable (Ordered events) :=
  inferInstanceAs (Decidable ((events.filterMap Event.time?).Pairwise (· ≤ ·)))

/-- The time of an event for each cycle that ends at it. -/
def ended (prober : Prober) (event : Event) : List Span :=
  ((prober.react event).2.filter ProberDemand.isEnding).filterMap fun _ => event.time?

/-- The times at which cycles end. -/
def endings (prober : Prober) (events : List Event) : List Span := prober.trace ended events

theorem Due.time?_eq {prober marked : Prober} {event : Event} {call : Nat} {cycle : ProbeCycle}
    {now : Span} (hdue : Due prober event marked call cycle now) : event.time? = some now := by
  cases hdue with
  | begun _ _ => rfl
  | settled _ _ => rfl

theorem Replaced.isEnding {listed ranking endpoints : List EndpointRecord}
    {outcome : ProbeOutcome} (h : Replaced listed ranking endpoints outcome) :
    outcome.isEnding = true := by
  cases h with
  | kept _ => rfl
  | swapped _ => rfl

theorem no_ending_of_probes {demands : List ProberDemand} {time : Option Span}
    (h : ∀ demand ∈ demands, ∃ force, demand = .probe force) :
    ((demands.filter ProberDemand.isEnding).filterMap fun _ => time) = [] := by
  have hnone : demands.filter ProberDemand.isEnding = [] := by
    apply List.filter_eq_nil_iff.mpr
    intro demand hdemand
    obtain ⟨force, rfl⟩ := h demand hdemand
    exact Bool.false_ne_true
  rw [hnone, List.filterMap_nil]

/-- At most one cycle ends at an event, and its end is counted and remembered. -/
theorem ended_cases (prober : Prober) (event : Event) :
    (prober.ended event = [] ∧ (prober.step event).lastProbe = prober.lastProbe ∧
      (prober.step event).counters.cycles = prober.counters.cycles) ∨
    ∃ now, event.time? = some now ∧ prober.ended event = [now] ∧
      (prober.step event).lastProbe = some now ∧
      (prober.step event).counters.cycles = prober.counters.cycles + 1 := by
  have hmoved := prober.moved event
  rw [ended, Prober.step]
  generalize prober.react event = next at hmoved ⊢
  cases hmoved with
  | refuses hrefused =>
      left
      cases hrefused with
      | throttled _ _ => exact ⟨rfl, rfl, rfl⟩
      | inProgress _ => exact ⟨rfl, rfl, rfl⟩
  | ignores _ => exact Or.inl ⟨rfl, rfl, rfl⟩
  | waits _ _ => exact Or.inl ⟨rfl, rfl, rfl⟩
  | contacts hdue _ =>
      left
      obtain ⟨_, rfl⟩ := hdue.marked_eq
      refine ⟨?_, rfl, rfl⟩
      simp [List.filter_map, Function.comp_def, ProberDemand.isEnding]
  | ends hdue _ hreplaced =>
      right
      have htime := hdue.time?_eq
      obtain ⟨_, rfl⟩ := hdue.marked_eq
      refine ⟨_, htime, ?_, rfl, rfl⟩
      simp [ProberDemand.isEnding, hreplaced.isEnding, htime]
  | reports url =>
      have hprobes : ∀ demand ∈ (prober.markFailed url).2.2, ∃ force, demand = .probe force :=
        fun _ hdemand => ⟨_, mem_trigger hdemand⟩
      exact Or.inl ⟨no_ending_of_probes hprobes, rfl, rfl⟩
  | asks _ hdemands => exact Or.inl ⟨no_ending_of_probes hdemands, rfl, rfl⟩

theorem endings_concat (prober : Prober) (events : List Event) (event : Event) :
    prober.endings (events ++ [event]) =
      prober.endings events ++ (prober.run events).ended event :=
  trace_concat ended prober events event

/-- The counter of cycles and the time of the last one, told from the ends of all. -/
theorem counted_and_remembered {prober : Prober} (hcycles : prober.counters.cycles = 0)
    (hlast : prober.lastProbe = none) (events : List Event) :
    (prober.run events).counters.cycles = UInt64.ofNat (prober.endings events).length ∧
      (prober.run events).lastProbe = (prober.endings events).getLast? := by
  induction events using List.reverseRecOn with
  | nil => exact ⟨hcycles, hlast⟩
  | append_singleton events event ih =>
      rw [run_concat, endings_concat]
      rcases (prober.run events).ended_cases event with
        ⟨hended, hlast, hcycles⟩ | ⟨now, -, hended, hlast, hcycles⟩
      · rw [hended, List.append_nil, hcycles, hlast]
        exact ih
      · rw [hended, hcycles, hlast, ih.1, List.length_append, UInt64.ofNat_add]
        exact ⟨rfl, List.getLast?_concat.symm⟩

theorem endings_sublist (prober : Prober) (events : List Event) :
    (prober.endings events).Sublist (events.filterMap Event.time?) := by
  induction events using List.reverseRecOn with
  | nil => exact List.Sublist.refl _
  | append_singleton events event ih =>
      rw [endings_concat, List.filterMap_append]
      apply ih.append
      rcases (prober.run events).ended_cases event with ⟨hended, -⟩ | ⟨now, htime, hended, -⟩
      · rw [hended]
        exact List.nil_sublist _
      · rw [hended, List.filterMap_cons_some htime]
        exact List.Sublist.refl _

theorem le_last_ending {prober : Prober} {events : List Event} (hordered : Ordered events)
    {last : Span} (hlast : (prober.endings events).getLast? = some last) :
    ∀ ended ∈ prober.endings events, ended ≤ last := by
  have hsorted := hordered.sublist (prober.endings_sublist events)
  obtain ⟨earlier, hendings⟩ := List.getLast?_eq_some_iff.mp hlast
  rw [hendings, List.pairwise_append] at hsorted
  intro ended hended
  rw [hendings] at hended
  rcases List.mem_append.mp hended with hended | hended
  · exact hsorted.2.2 ended hended last List.mem_cons_self
  · rw [List.mem_singleton.mp hended]
    exact Nat.le_refl _

theorem config_run (prober : Prober) (events : List Event) :
    (prober.run events).config = prober.config := by
  refine run_induction (fun later => later.config = prober.config) rfl ?_ events
  intro later event hconfig
  have hmoved := later.moved event
  rw [step]
  generalize later.react event = next at hmoved ⊢
  cases hmoved with
  | refuses _ => exact hconfig
  | ignores _ => exact hconfig
  | waits _ _ => exact hconfig
  | reports _ => exact hconfig
  | asks _ _ => exact hconfig
  | contacts hdue _ =>
      obtain ⟨_, rfl⟩ := hdue.marked_eq
      exact hconfig
  | ends hdue _ _ =>
      obtain ⟨_, rfl⟩ := hdue.marked_eq
      exact hconfig

/-! ## Calls that come back at once -/

/-- A probe call comes back at once: nobody is contacted, and nothing is changed. -/
def Declines (prober : Prober) (call : Nat) (force : Bool) (now : Span) : Prop :=
  ∃ outcome, (outcome = .inProgress ∨ outcome = .throttled) ∧
    prober.begin call force now = (prober, [.finish call outcome])

theorem isThrottled_iff {prober : Prober} {now : Span} : prober.isThrottled now = true ↔
    ∃ last, prober.lastProbe = some last ∧ now - last < prober.config.minInterval := by
  rw [isThrottled]
  cases prober.lastProbe with
  | none => simp
  | some last => simp

/-- Calls during a cycle or too soon after one come back at once, and no others do. -/
theorem declines_iff {prober : Prober} {call : Nat} {force : Bool} {now : Span} :
    prober.Declines call force now ↔
      prober.probing = true ∨ force = false ∧ prober.isThrottled now = true := by
  constructor
  · rintro ⟨outcome, houtcome, hbegin⟩
    have hmoved := prober.moved (.begin call force now)
    have hdemands : (prober.react (.begin call force now)).2 = [.finish call outcome] := by
      rw [react, hbegin]
    generalize prober.react (.begin call force now) = next at hmoved hdemands
    cases hmoved with
    | refuses hrefused =>
        cases hrefused with
        | throttled hforce hrecent => exact Or.inr ⟨hforce, hrecent⟩
        | inProgress hbusy => exact Or.inl hbusy
    | contacts _ hprobes =>
        obtain ⟨probe, rest, hpass⟩ := List.exists_cons_of_ne_nil hprobes
        rw [hpass, List.map_cons] at hdemands
        cases hdemands
    | ends _ _ hreplaced =>
        cases hdemands
        rcases houtcome with rfl | rfl
        · cases hreplaced.isEnding
        · cases hreplaced.isEnding
    | asks hevent _ =>
        rcases hevent with hevent | ⟨_, hevent⟩
        · cases hevent
        · cases hevent
  · rintro (hprobing | ⟨rfl, hthrottled⟩)
    · rw [Declines, begin]
      split_ifs
      · exact ⟨.throttled, Or.inr rfl, rfl⟩
      · exact ⟨.inProgress, Or.inl rfl, rfl⟩
    · refine ⟨.throttled, Or.inr rfl, ?_⟩
      rw [begin, hthrottled]
      rfl

/-- Where the last cycle is remembered, a call that is not forced begins none until all have
been over for the least interval. -/
theorem minInterval_le_of_mem_endings {prober : Prober} {events : List Event} {call : Nat}
    {now ended : Span}
    (hlast : (prober.run events).lastProbe = (prober.endings events).getLast?)
    (hordered : Ordered events) (hbegins : ¬ (prober.run events).Declines call false now)
    (hended : ended ∈ prober.endings events) : prober.config.minInterval ≤ now - ended := by
  cases hfinal : (prober.endings events).getLast? with
  | none =>
      rw [List.getLast?_eq_none_iff.mp hfinal] at hended
      cases hended
  | some last =>
      have hinterval : prober.config.minInterval ≤ now - last := by
        rw [← config_run prober events]
        apply Nat.le_of_not_lt
        intro hrecent
        have hthrottled := isThrottled_iff.mpr ⟨last, hlast.trans hfinal, hrecent⟩
        exact hbegins (declines_iff.mpr (Or.inr ⟨rfl, hthrottled⟩))
      have hle : ended.nanos ≤ last.nanos := le_last_ending hordered hfinal ended hended
      exact Nat.le_trans hinterval (Nat.sub_le_sub_left hle now.nanos)

/-- Whatever comes to a prober in whatever order, it is marked exactly while the one cycle
under way goes on, and contacts endpoints for no other.  Its counter is the number of cycles
that have ended.  A call comes back at once exactly during a cycle and, if it is not forced,
for the least interval after the last one; by then all have been over for that long. -/
theorem cycles_are_single_flight {service : String} {seeds : List String}
    {config : ProberConfig} {prober : Prober} (hcreate : create service seeds config = .ok prober)
    (events : List Event) :
    (prober.run events).SingleFlight ∧
      (prober.run events).counters.cycles = UInt64.ofNat (prober.endings events).length ∧
      (∀ event call url, .contact call url ∈ ((prober.run events).react event).2 →
        ((prober.run events).step event).cycles.contains call = true) ∧
      (∀ call force now, (prober.run events).Declines call force now ↔
        (prober.run events).probing = true ∨ force = false ∧
          ∃ last, (prober.endings events).getLast? = some last ∧
            now - last < config.minInterval) ∧
      ∀ call now, Ordered events → ¬ (prober.run events).Declines call false now →
        ∀ ended ∈ prober.endings events, config.minInterval ≤ now - ended := by
  obtain ⟨-, hprober⟩ := create_eq_ok_iff.mp hcreate
  have hstart : prober.SingleFlight := by
    rw [hprober]
    exact singleFlight_ofSeeds service _ config
  have hcycles : prober.counters.cycles = 0 := by
    rw [hprober]
    rfl
  have hfresh : prober.lastProbe = none := by
    rw [hprober]
    rfl
  have hconfig : prober.config = config := by
    rw [hprober]
    rfl
  obtain ⟨hcounted, hlast⟩ := counted_and_remembered hcycles hfresh events
  refine ⟨run_induction SingleFlight hstart (fun _ event h => h.step event) events, hcounted,
    fun _ _ _ hcontact => contains_of_contact_mem_react hcontact, ?_, ?_⟩
  · intro call force now
    rw [declines_iff, isThrottled_iff, hlast, config_run, hconfig]
  · intro call now hordered hbegins ended hended
    rw [← hconfig]
    exact minInterval_le_of_mem_endings hlast hordered hbegins hended

/-- Two calls at once run one cycle, and the next may begin when the interval is over. -/
theorem cycles_are_single_flight_across_interval :
    ∃ prober, create "meta" ["a", "b"] {} = .ok prober ∧
      ∃ during, (prober.run during).SingleFlight ∧
        (prober.run during).Declines 1 true (.ofMillis 3) ∧
        ∃ after, prober.endings after = [.ofMillis 20] ∧ Ordered after ∧
          ¬ (prober.run after).Declines 2 false (.ofMillis 5020) ∧
          ∀ ended ∈ prober.endings after, Span.ofSeconds 5 ≤ .ofMillis 5020 - ended := by
  let prober := ofSeeds "meta" ["a", "b"] {}
  let during : List Event := [.begin 0 true (.ofMillis 1)]
  let after : List Event := [.begin 0 true (.ofMillis 1), .begin 1 true (.ofMillis 3),
    .receive 0 "a" (.answered (.ofMillis 10) []) (.ofMillis 11), .report "a",
    .receive 0 "b" .silent (.ofMillis 20)]
  have hcreate : create "meta" ["a", "b"] {} = .ok prober := rfl
  have hprobing : (prober.run during).probing = true := by cbv
  have hidle : (prober.run after).probing = false := by cbv
  have hendings : prober.endings after = [.ofMillis 20] := by cbv
  have hordered : Ordered after := by decide
  obtain ⟨hsingle, -, -, hduring, -⟩ := cycles_are_single_flight hcreate during
  obtain ⟨-, -, -, hafter, hpaced⟩ := cycles_are_single_flight hcreate after
  have hbegins : ¬ (prober.run after).Declines 2 false (.ofMillis 5020) := by
    rw [hafter, hidle, hendings]
    decide
  exact ⟨prober, hcreate, during, hsingle, (hduring 1 true _).mpr (Or.inl hprobing), after,
    hendings, hordered, hbegins, hpaced 2 _ hordered hbegins⟩

end Prober
end CacheTier
