import CacheTier.Agenda
import CacheTier.Prober

/-!
# Rehearsals of a prober

A prober among endpoints that behave as written down, on a clock that moves only
when everything waits for time.  Calls in the foreground are waited for; calls in
the background go on while others are made.
-/

namespace CacheTier

/-- How an endpoint behaves: it answers after a time, or fails at once. -/
structure EndpointScript where
  url : String
  latency : Option Span
  peers : List String
  deriving DecidableEq, Repr, Inhabited

/-- The work of a prober's calls. -/
inductive ProberTask where
  | begin (call : Nat) (force : Bool)
  | receive (call : Nat) (url : String) (answer : ProbeAnswer)
  /-- The time for the next periodic cycle has come. -/
  | tick (serial : Nat)
  deriving Repr, Inhabited

/-- Cycles at fixed times. -/
structure Cadence where
  /-- Tells the cadence from those that were stopped before it. -/
  serial : Nat
  interval : Span
  /-- When the present or next cycle is due. -/
  due : Span
  /-- The call of the present cycle. -/
  call : Option Nat
  deriving Repr, Inhabited

/-- A prober and everything around it but the clock. -/
structure ProberScene where
  prober : Prober
  script : List EndpointScript
  /-- Whether anything can go on in the background. -/
  hasBackground : Bool
  nextCall : Nat
  /-- The calls that are waited for. -/
  foreground : List Nat
  /-- The calls started in the background, in the order of their numbers. -/
  started : List Nat
  cadence : Option Cadence
  /-- The endpoints contacted, in order. -/
  contacts : List String
  /-- The outcomes of calls, in order. -/
  outcomes : List (Nat × ProbeOutcome)
  deriving Repr, Inhabited

namespace ProberScene

/-- What a contacted endpoint answers and after which time. -/
def answerOf (scene : ProberScene) (url : String) : Span × ProbeAnswer :=
  let timeout := scene.prober.config.timeout
  match scene.script.find? (·.url == url) with
  | none => (.zero, .silent)
  | some script =>
    match script.latency with
    | none => (.zero, .silent)
    | some latency =>
      if latency ≤ timeout.roundedToMillis then (latency, .answered latency script.peers)
      else (timeout, .silent)

/-- The moment that comes after a pause. -/
def after (now pause : Span) : Moment :=
  if pause == .zero then .first else .later (now + pause)

/-- The work that a demand of the prober leads to. -/
def meet (now : Span) (scene : ProberScene) :
    ProberDemand → ProberScene × List (Moment × ProberTask)
  | .contact call url =>
    let (pause, answer) := scene.answerOf url
    ({ scene with contacts := scene.contacts ++ [url] },
      [(after now pause, .receive call url answer)])
  | .probe force =>
    if scene.hasBackground then
      ({ scene with nextCall := scene.nextCall + 1 }, [(.last, .begin scene.nextCall force)])
    else (scene, [])
  | .finish call outcome =>
    let scene := { scene with outcomes := scene.outcomes ++ [(call, outcome)] }
    match scene.cadence with
    | none => (scene, [])
    | some cadence =>
      if cadence.call == some call then
        let due := cadence.due + cadence.interval
        ({ scene with cadence := some { cadence with due, call := none } },
          [(if due ≤ now then .first else .later due, .tick cadence.serial)])
      else (scene, [])

/-- Meets demands in order. -/
def meetAll (now : Span) (scene : ProberScene) (demands : List ProberDemand) :
    ProberScene × List (Moment × ProberTask) :=
  demands.foldl (fun (scene, tasks) demand =>
    let (scene, more) := scene.meet now demand
    (scene, tasks ++ more)) (scene, [])

/-- Lets the prober take a step. -/
def step (now : Span) (scene : ProberScene) (result : Prober × List ProberDemand) :
    ProberScene × List (Moment × ProberTask) :=
  { scene with prober := result.1 }.meetAll now result.2

/-- Does a piece of work. -/
def perform (now : Span) (task : ProberTask) (scene : ProberScene) :
    ProberScene × List (Moment × ProberTask) :=
  match task with
  | .begin call force => scene.step now (scene.prober.begin call force now)
  | .receive call url answer => scene.step now (scene.prober.receive call url answer now)
  | .tick serial =>
    match scene.cadence with
    | none => (scene, [])
    | some cadence =>
      if cadence.serial == serial then
        let call := scene.nextCall
        let scene := { scene with
          nextCall := call + 1
          cadence := some { cadence with call := some call } }
        scene.step now (scene.prober.begin call false now)
      else (scene, [])

/-- Whether a piece of work belongs to a call that is waited for. -/
def isForeground (scene : ProberScene) : ProberTask → Bool
  | .begin call _ | .receive call _ _ => call ∈ scene.foreground
  | .tick _ => false

/-- The outcome of a call, once there is one. -/
def outcome? (scene : ProberScene) (call : Nat) : Option ProbeOutcome :=
  scene.outcomes.lookup call

/-- Whether all calls that are waited for have their outcomes. -/
def isAnswered (scene : ProberScene) : Bool :=
  scene.foreground.all fun call => (scene.outcome? call).isSome

/-- How many endpoints one cycle may contact, at most. -/
def breadth (scene : ProberScene) : Nat :=
  scene.prober.endpoints.length + scene.prober.seeds.length +
    scene.script.length + (scene.script.flatMap fun s => s.peers).length

end ProberScene

/-- A prober's scene with its clock. -/
structure ProberRehearsal where
  scene : ProberScene
  agenda : Agenda ProberTask

namespace ProberRehearsal

/-- The rehearsal of a prober among scripted endpoints. -/
def create (prober : Prober) (script : List EndpointScript) (hasBackground : Bool) :
    ProberRehearsal where
  scene := {
    prober, script, hasBackground
    nextCall := 0, foreground := [], started := [], cadence := none
    contacts := [], outcomes := [] }
  agenda := .empty

/-- The pieces of work that a stretch of time may hold, at most. -/
def effort (r : ProberRehearsal) (stretch : Span) : Nat :=
  (stretch.millis + r.agenda.size + 4) * (2 * r.scene.breadth + 8)

/-- Does the work within a horizon that is reached in a stretch of time. -/
def run (r : ProberRehearsal) (horizon : Agenda.Horizon ProberScene) (stretch : Span) :
    ProberRehearsal :=
  let duty := ⟨ProberScene.perform, ProberScene.isForeground⟩
  let (scene, agenda) := Agenda.work duty horizon (r.effort stretch) r.scene r.agenda
  ⟨scene, agenda⟩

/-- Does all the work that waits for no time. -/
def settle (r : ProberRehearsal) : ProberRehearsal := r.run (.through r.agenda.now) .zero

/-- Lets the prober take a step outside of any call, and leaves what it leads to for
later. -/
def prepare (r : ProberRehearsal) (prober : Prober) (demands : List ProberDemand) :
    ProberRehearsal :=
  let (scene, tasks) := r.scene.step r.agenda.now (prober, demands)
  ⟨scene, r.agenda.add tasks⟩

/-- Lets the prober take a step outside of any call. -/
def act (r : ProberRehearsal) (prober : Prober) (demands : List ProberDemand) :
    ProberRehearsal :=
  (r.prepare prober demands).settle

/-- The longest time that one cycle takes. -/
def cycleLimit (r : ProberRehearsal) : Span :=
  .ofMillis (4 * (r.scene.prober.config.timeout.millis + 1))

/-- Makes some probe calls at the same time and waits for all of them. -/
def probe (r : ProberRehearsal) (count : Nat) (force : Bool) :
    ProberRehearsal × List ProbeOutcome :=
  let calls := List.range' r.scene.nextCall count
  let scene := { r.scene with nextCall := r.scene.nextCall + count, foreground := calls }
  let agenda := r.agenda.add (calls.map fun call => (.last, .begin call force))
  let r := run ⟨scene, agenda⟩ (.until ProberScene.isAnswered) r.cycleLimit
  (r, calls.filterMap r.scene.outcome?)

/-- Starts a probe call in the background and gives its number. -/
def start (r : ProberRehearsal) (force : Bool) : ProberRehearsal × Nat :=
  let call := r.scene.nextCall
  let scene := { r.scene with nextCall := call + 1, started := r.scene.started ++ [call] }
  (settle ⟨scene, r.agenda.add [(.last, .begin call force)]⟩, r.scene.started.length)

/-- Reports an endpoint as failed. -/
def report (r : ProberRehearsal) (url : String) : ProberRehearsal × Bool :=
  let (prober, changed, demands) := r.scene.prober.markFailed url
  (r.act prober demands, changed)

/-- The endpoint to talk to. -/
def current (r : ProberRehearsal) : ProberRehearsal × Option String :=
  let (url, demands) := r.scene.prober.current
  (r.act r.scene.prober demands, url)

/-- Asks for a cycle in the background; tells whether one was scheduled. -/
def trigger (r : ProberRehearsal) (force : Bool) : ProberRehearsal × Bool :=
  let demands := r.scene.prober.trigger force
  (r.act r.scene.prober demands, r.scene.hasBackground && !demands.isEmpty)

/-- Changes how one endpoint behaves from now on. -/
def rescript (r : ProberRehearsal) (entry : EndpointScript) : ProberRehearsal :=
  let others := r.scene.script.filter (·.url != entry.url)
  { r with scene := { r.scene with script := entry :: others } }

/-- Lets time pass. -/
def sleep (r : ProberRehearsal) (time : Span) : ProberRehearsal :=
  let goal := r.agenda.now + time.roundedToMillis
  let r := r.run (.through goal) time
  { r with agenda := { r.agenda with now := goal } }

/-- Runs cycles at fixed times from now on, unless they would have no time between them. -/
def periodic (r : ProberRehearsal) (interval : Span) : ProberRehearsal :=
  if interval == .zero then r else
  let serial := r.scene.nextCall
  let cadence : Cadence := ⟨serial, interval, r.agenda.now, none⟩
  let scene := { r.scene with nextCall := serial + 1, cadence := some cadence }
  settle ⟨scene, r.agenda.add [(.last, .tick serial)]⟩

/-- Stops the cycles at fixed times; the one under way is finished. -/
def stopPeriodic (r : ProberRehearsal) : ProberRehearsal :=
  { r with scene := { r.scene with cadence := none } }

/-- The outcomes of calls in the background, by the numbers of the calls. -/
def startedOutcomes (r : ProberRehearsal) : List (Nat × ProbeOutcome) :=
  r.scene.outcomes.filterMap fun (call, outcome) =>
    (r.scene.started.idxOf? call).map (·, outcome)

/-- Forgets what was recorded, before the next step. -/
def forget (r : ProberRehearsal) : ProberRehearsal :=
  { r with scene := { r.scene with contacts := [], outcomes := [], foreground := [] } }

end ProberRehearsal
end CacheTier
