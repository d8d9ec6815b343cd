import CacheTier.Prober
import CacheTier.Proofs.Prober.Cycle
import CacheTier.Proofs.Table

/-!
# What a prober's calls do

Probe calls, answers of endpoints, reports and requests come to a prober in any order.  Each
either leaves everything as it is, notes something down, lets a cycle contact the endpoints
of its next pass, or ends a cycle.  All that is proved of probers follows from this list of
cases.
-/

namespace CacheTier
namespace Prober

/-- What happens at a prober.  A call that it has asked for in the background begins like any
other, so a run may hold more probe calls than were asked for. -/
inductive Event where
  | begin (call : Nat) (force : Bool) (now : Span)
  /-- A contacted endpoint has answered the cycle of a call, or has failed to. -/
  | receive (call : Nat) (url : String) (answer : ProbeAnswer) (now : Span)
  | report (url : String)
  /-- Somebody asks for the endpoint to talk to. -/
  | current
  /-- Somebody asks for a cycle in the background. -/
  | trigger (force : Bool)

/-- The prober after an event, and what it demands then. -/
def react (prober : Prober) : Event → Prober × List ProberDemand
  | .begin call force now => prober.begin call force now
  | .receive call url answer now => prober.receive call url answer now
  | .report url => ((prober.markFailed url).1, (prober.markFailed url).2.2)
  | .current => (prober, prober.current.2)
  | .trigger force => (prober, prober.trigger force)

def step (prober : Prober) (event : Event) : Prober := (prober.react event).1

def run (prober : Prober) (events : List Event) : Prober := events.foldl step prober

/-- What is seen at the events of a sequence, each with the state that it comes to. -/
def trace {α : Type} (seen : Prober → Event → List α) : Prober → List Event → List α
  | _, [] => []
  | prober, first :: rest => seen prober first ++ trace seen (prober.step first) rest

/-- What a prober demands at the events of a sequence. -/
def demands (prober : Prober) (events : List Event) : List ProberDemand :=
  prober.trace (fun prober event => (prober.react event).2) events

theorem run_concat (prober : Prober) (events : List Event) (event : Event) :
    prober.run (events ++ [event]) = (prober.run events).step event :=
  List.foldl_concat step prober event events

theorem trace_append {α : Type} (seen : Prober → Event → List α) (prober : Prober)
    (before after : List Event) :
    prober.trace seen (before ++ after) =
      prober.trace seen before ++ (prober.run before).trace seen after := by
  induction before generalizing prober with
  | nil => rfl
  | cons first rest ih =>
      rw [List.cons_append, trace, trace, ih, List.append_assoc]
      rfl

theorem trace_concat {α : Type} (seen : Prober → Event → List α) (prober : Prober)
    (events : List Event) (event : Event) :
    prober.trace seen (events ++ [event]) =
      prober.trace seen events ++ seen (prober.run events) event := by
  rw [trace_append, trace, trace, List.append_nil]

theorem demands_append (prober : Prober) (before after : List Event) :
    prober.demands (before ++ after) =
      prober.demands before ++ (prober.run before).demands after :=
  trace_append _ prober before after

theorem demands_concat (prober : Prober) (events : List Event) (event : Event) :
    prober.demands (events ++ [event]) =
      prober.demands events ++ ((prober.run events).react event).2 :=
  trace_concat _ prober events event

/-- What holds of the first state and is kept by every event holds after any run. -/
theorem run_induction (P : Prober → Prop) {prober : Prober} (hstart : P prober)
    (hstep : ∀ prober event, P prober → P (prober.step event)) (events : List Event) :
    P (prober.run events) := by
  induction events using List.reverseRecOn with
  | nil => exact hstart
  | append_singleton events event ih =>
      rw [run_concat]
      exact hstep _ event ih

/-! ## Creation -/

/-- The prober of a service with some seeds, before its first call. -/
def ofSeeds (service : String) (seeds : List String) (config : ProberConfig) : Prober where
  service := service
  config := config
  seeds := seeds
  endpoints := seeds.map EndpointRecord.ofSeed
  probing := false
  lastProbe := none
  cycles := .empty
  counters := {}

theorem create_eq_ok_iff {service : String} {seeds : List String} {config : ProberConfig}
    {prober : Prober} : create service seeds config = .ok prober ↔
      (seeds.filter (· ≠ "")).eraseDups ≠ [] ∧
        prober = ofSeeds service (seeds.filter (· ≠ "")).eraseDups config := by
  have hkept : firstOfEach (seeds.filter (!·.isEmpty)) = (seeds.filter (· ≠ "")).eraseDups := by
    rw [firstOfEach_eq_eraseDups]
    congr 2
    funext seed
    rw [Bool.eq_iff_iff]
    simp
  rw [create, hkept]
  cases (seeds.filter (· ≠ "")).eraseDups with
  | nil => simp
  | cons seed rest => simp [ofSeeds, eq_comm]

/-! ## Cases -/

/-- Why a probe call begins no cycle. -/
inductive Refused (prober : Prober) (force : Bool) (now : Span) : ProbeOutcome → Prop
  | throttled (hforce : force = false) (hrecent : prober.isThrottled now = true) :
      Refused prober force now .throttled
  | inProgress (hbusy : prober.probing = true) : Refused prober force now .inProgress

/-- The next pass of a call's cycle is due: the cycle has just begun, or all probes of its
pass have come to something.  The prober is shown with its mark set. -/
inductive Due (prober : Prober) : Event → Prober → Nat → ProbeCycle → Span → Prop
  | begun {call : Nat} {force : Bool} {now : Span} (hidle : prober.probing = false)
      (hfree : force = true ∨ prober.isThrottled now = false) :
      Due prober (.begin call force now) { prober with probing := true } call
        (.ofEndpoints prober.endpoints) now
  | settled {call : Nat} {cycle : ProbeCycle} {url : String} {answer : ProbeAnswer} {now : Span}
      (hget : prober.cycles.get? call = some cycle)
      (hsettled : (cycle.note url answer).isSettled = true) :
      Due prober (.receive call url answer now) prober call (cycle.note url answer).absorbAll now

/-- What becomes of a list at the end of a cycle with some ranking. -/
inductive Replaced (listed ranking : List EndpointRecord) :
    List EndpointRecord → ProbeOutcome → Prop
  | kept (hranking : ranking = []) : Replaced listed ranking listed .allFailed
  | swapped (hranking : ranking ≠ []) :
      Replaced listed ranking ranking (.completed ranking.length)

/-- What an event comes to. -/
inductive Moved (prober : Prober) : Event → Prober × List ProberDemand → Prop
  | refuses {call : Nat} {force : Bool} {now : Span} {outcome : ProbeOutcome}
      (hrefused : Refused prober force now outcome) :
      Moved prober (.begin call force now) (prober, [.finish call outcome])
  /-- An answer comes to a call whose cycle is over. -/
  | ignores {call : Nat} {url : String} {answer : ProbeAnswer} {now : Span}
      (hget : prober.cycles.get? call = none) :
      Moved prober (.receive call url answer now) (prober, [])
  /-- An answer is noted while others are outstanding. -/
  | waits {call : Nat} {cycle : ProbeCycle} {url : String} {answer : ProbeAnswer} {now : Span}
      (hget : prober.cycles.get? call = some cycle)
      (hunsettled : (cycle.note url answer).isSettled = false) :
      Moved prober (.receive call url answer now)
        ({ prober with cycles := prober.cycles.insert call (cycle.note url answer) }, [])
  | contacts {event : Event} {marked : Prober} {call : Nat} {cycle : ProbeCycle} {now : Span}
      (hdue : Due prober event marked call cycle now)
      (hprobes : (cycle.nextPass marked.seeds).probes ≠ []) :
      Moved prober event
        ({ marked with cycles := marked.cycles.insert call (cycle.nextPass marked.seeds) },
          (cycle.nextPass marked.seeds).probes.map fun probe => .contact call probe.url)
  /-- Nobody is left to be contacted. -/
  | ends {event : Event} {marked : Prober} {call : Nat} {cycle : ProbeCycle} {now : Span}
      {endpoints : List EndpointRecord} {allFailed : UInt64} {outcome : ProbeOutcome}
      (hdue : Due prober event marked call cycle now)
      (hprobes : (cycle.nextPass marked.seeds).probes = [])
      (hreplaced : Replaced marked.endpoints cycle.ranking endpoints outcome) :
      Moved prober event
        ({ marked with
          endpoints
          cycles := marked.cycles.erase call
          probing := false
          lastProbe := some now
          counters := { marked.counters with
            cycles := marked.counters.cycles + 1
            allFailed } }, [.finish call outcome])
  | reports (url : String) :
      Moved prober (.report url) ((prober.markFailed url).1, (prober.markFailed url).2.2)
  /-- Somebody asks for something, and at most a cycle in the background is asked for. -/
  | asks {event : Event} (hevent : event = .current ∨ ∃ force, event = .trigger force)
      {demands : List ProberDemand}
      (hdemands : ∀ demand ∈ demands, ∃ force, demand = .probe force) :
      Moved prober event (prober, demands)

theorem Due.marked_eq {prober marked : Prober} {event : Event} {call : Nat} {cycle : ProbeCycle}
    {now : Span} (hdue : Due prober event marked call cycle now) :
    ∃ probing, marked = { prober with probing } := by
  cases hdue with
  | begun _ _ => exact ⟨true, rfl⟩
  | settled _ _ => exact ⟨prober.probing, rfl⟩

theorem conclude_nextPass (prober : Prober) (call : Nat) (seeds : List String)
    (cycle : ProbeCycle) (now : Span) :
    prober.conclude call (cycle.nextPass seeds) now = prober.conclude call cycle now := by
  rw [conclude, ProbeCycle.ranking_nextPass, conclude]

/-! ## All cases -/

theorem mem_trigger {prober : Prober} {force : Bool} {demand : ProberDemand}
    (h : demand ∈ prober.trigger force) : demand = .probe force := by
  rw [trigger] at h
  split_ifs at h
  · cases h
  · exact List.mem_singleton.mp h

theorem Due.moved {prober marked : Prober} {event : Event} {call : Nat} {cycle : ProbeCycle}
    {now : Span} (hdue : Due prober event marked call cycle now) :
    Moved prober event (marked.proceed call cycle now) := by
  rw [proceed, conclude_nextPass]
  split_ifs with hprobes
  · rw [conclude]
    cases hranking : cycle.ranking with
    | nil => exact .ends hdue (List.isEmpty_iff.mp hprobes) (.kept hranking)
    | cons record rest =>
        have hreplaced : Replaced marked.endpoints cycle.ranking (record :: rest)
            (.completed (record :: rest).length) := by
          rw [hranking]
          exact .swapped (List.cons_ne_nil record rest)
        exact .ends hdue (List.isEmpty_iff.mp hprobes) hreplaced
  · exact .contacts hdue (mt List.isEmpty_iff.mpr hprobes)

theorem moved (prober : Prober) (event : Event) : Moved prober event (prober.react event) := by
  cases event with
  | begin call force now =>
      rw [react, begin]
      split_ifs with hthrottled hbusy
      · rw [Bool.and_eq_true, Bool.not_eq_true'] at hthrottled
        exact .refuses (.throttled hthrottled.1 hthrottled.2)
      · exact .refuses (.inProgress hbusy)
      · have hfree : force = true ∨ prober.isThrottled now = false := by
          simpa [or_iff_not_imp_left] using hthrottled
        exact (Due.begun (by simpa using hbusy) hfree).moved
  | receive call url answer now =>
      rw [react, receive]
      split
      · rename_i hget
        exact .ignores hget
      · rename_i cycle hget
        dsimp only
        split_ifs with hsettled
        · exact (Due.settled hget hsettled).moved
        · exact .waits hget (by simpa using hsettled)
  | report url => exact .reports url
  | current =>
      refine .asks (Or.inl rfl) ?_
      intro demand hdemand
      rw [current] at hdemand
      dsimp only at hdemand
      split_ifs at hdemand
      · cases hdemand
      · exact ⟨false, mem_trigger hdemand⟩
  | trigger force =>
      exact .asks (Or.inr ⟨force, rfl⟩) fun demand hdemand => ⟨force, mem_trigger hdemand⟩

end Prober
end CacheTier
