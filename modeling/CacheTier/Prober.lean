import CacheTier.Configuration
import CacheTier.Prober.Cycle
import CacheTier.Table

/-!
# The endpoint prober

The endpoints of one service, best first.  Callers ask for the endpoint to talk
to and report the ones that failed; probe cycles rank the endpoints anew.  A
cycle is one call in progress among others: it begins, takes answers as they
come, and ends by replacing the list.  Its steps may come between those of any
other call, and a call that finds a cycle under way begins none.
-/

namespace CacheTier

/-- What a request for a probe cycle came to. -/
inductive ProbeOutcome where
  /-- The list was replaced by this many endpoints. -/
  | completed (responsive : Nat)
  /-- Nobody answered, and the list was kept. -/
  | allFailed
  /-- Another cycle was under way. -/
  | inProgress
  /-- The last cycle ended too short a time ago. -/
  | throttled
  deriving DecidableEq, Repr, Inhabited

/-- The running totals of a prober. -/
structure ProberCounters where
  cycles : UInt64 := 0
  allFailed : UInt64 := 0
  failuresReported : UInt64 := 0
  deriving DecidableEq, Repr, Inhabited

/-- A prober's counters together with the size of its list at one moment. -/
structure ProberStats where
  cycles : UInt64
  allFailed : UInt64
  failuresReported : UInt64
  activeEndpoints : UInt64
  knownEndpoints : UInt64
  deriving DecidableEq, Repr, Inhabited

/-- What a prober asks of its surroundings. -/
inductive ProberDemand where
  /-- Contact an endpoint on behalf of the cycle of a call. -/
  | contact (call : Nat) (url : String)
  /-- Begin a probe call in the background. -/
  | probe (force : Bool)
  /-- Give a call its outcome. -/
  | finish (call : Nat) (outcome : ProbeOutcome)
  deriving DecidableEq, Repr, Inhabited

/-- The endpoints of a service, and the cycles under way by the calls that run them. -/
structure Prober where
  service : String
  config : ProberConfig
  seeds : List String
  endpoints : List EndpointRecord
  /-- Set while a cycle is under way. -/
  probing : Bool
  /-- When the last cycle ended. -/
  lastProbe : Option Span
  cycles : Table Nat ProbeCycle
  counters : ProberCounters
  deriving Repr, Inhabited

namespace Prober

/-- The prober of a service with seed endpoints; empty and repeated seeds are dropped. -/
def create (service : String) (seeds : List String) (config : ProberConfig) :
    Except FleetError Prober :=
  match firstOfEach (seeds.filter (!·.isEmpty)) with
  | [] => .error (.invalidArgument "endpoint prober needs at least one seed endpoint")
  | seed :: rest => .ok {
      service, config
      seeds := seed :: rest
      endpoints := (seed :: rest).map EndpointRecord.ofSeed
      probing := false
      lastProbe := none
      cycles := .empty
      counters := {} }

/-- The first active endpoint, or the first of all when none is active. -/
def best? (prober : Prober) : Option String :=
  match prober.endpoints.find? (·.active) with
  | some record => some record.url
  | none => prober.endpoints.head?.map EndpointRecord.url

/-- Whether some endpoint is active. -/
def hasActive (prober : Prober) : Bool := prober.endpoints.any (·.active)

/-- Asks for a cycle in the background unless one is under way. -/
def trigger (prober : Prober) (force : Bool) : List ProberDemand :=
  if prober.probing then [] else [.probe force]

/-- The endpoint to talk to; when none is active a cycle is asked for. -/
def current (prober : Prober) : Option String × List ProberDemand :=
  (prober.best?, if prober.hasActive then [] else prober.trigger false)

/-- Whether a report about an endpoint changes its record. -/
def isNewFailure (prober : Prober) (url : String) : Bool :=
  prober.endpoints.any fun record => record.url == url && record.active

/-- Marks an endpoint as failed and asks for a cycle, which is forced if the endpoint
was active before; tells whether it was. -/
def markFailed (prober : Prober) (url : String) : Prober × Bool × List ProberDemand :=
  let changed := prober.isNewFailure url
  let prober := { prober with
    endpoints := prober.endpoints.map fun record =>
      if record.url == url then record.deactivated else record
    counters := { prober.counters with
      failuresReported := prober.counters.failuresReported + 1 } }
  (prober, changed, prober.trigger changed)

/-- Whether the last cycle ended less than the minimum interval ago. -/
def isThrottled (prober : Prober) (now : Span) : Bool :=
  match prober.lastProbe with
  | some last => now - last < prober.config.minInterval
  | none => false

/-- Ends the cycle of a call: the list becomes its ranking unless nobody answered. -/
def conclude (prober : Prober) (call : Nat) (cycle : ProbeCycle) (now : Span) :
    Prober × List ProberDemand :=
  let counters := { prober.counters with cycles := prober.counters.cycles + 1 }
  let prober := { prober with
    counters
    cycles := prober.cycles.erase call
    probing := false
    lastProbe := some now }
  match cycle.ranking with
  | [] =>
    let counters := { counters with allFailed := counters.allFailed + 1 }
    ({ prober with counters }, [.finish call .allFailed])
  | record :: rest =>
    ({ prober with endpoints := record :: rest },
      [.finish call (.completed (rest.length + 1))])

/-- Goes on with the cycle of a call after a pass. -/
def proceed (prober : Prober) (call : Nat) (cycle : ProbeCycle) (now : Span) :
    Prober × List ProberDemand :=
  let cycle := cycle.nextPass prober.seeds
  if cycle.probes.isEmpty then prober.conclude call cycle now
  else ({ prober with cycles := prober.cycles.insert call cycle },
    cycle.probes.map fun probe => .contact call probe.url)

/-- Begins a probe call. -/
def begin (prober : Prober) (call : Nat) (force : Bool) (now : Span) :
    Prober × List ProberDemand :=
  if !force && prober.isThrottled now then (prober, [.finish call .throttled])
  else if prober.probing then (prober, [.finish call .inProgress])
  else { prober with probing := true }.proceed call (.ofEndpoints prober.endpoints) now

/-- Takes the answer of an endpoint to the cycle of a call. -/
def receive (prober : Prober) (call : Nat) (url : String) (answer : ProbeAnswer)
    (now : Span) : Prober × List ProberDemand :=
  match prober.cycles.get? call with
  | none => (prober, [])
  | some cycle =>
    let cycle := cycle.note url answer
    if cycle.isSettled then prober.proceed call cycle.absorbAll now
    else ({ prober with cycles := prober.cycles.insert call cycle }, [])

/-- The counters and the sizes of the list. -/
def stats (prober : Prober) : ProberStats where
  cycles := prober.counters.cycles
  allFailed := prober.counters.allFailed
  failuresReported := prober.counters.failuresReported
  activeEndpoints := UInt64.ofNat (prober.endpoints.countP (·.active))
  knownEndpoints := UInt64.ofNat prober.endpoints.length

/-- The list as a document. -/
def endpointsDoc (prober : Prober) : Json.Doc :=
  .array (prober.endpoints.map EndpointRecord.toDoc)

/-- The prober as a line of text. -/
def summary (prober : Prober) : String :=
  "EndpointProber \x7b service: " ++ Inspection.quoted prober.service ++
    ", endpoints: " ++ Inspection.bracketed (prober.endpoints.map EndpointRecord.summary) ++
    " \x7d"

end Prober
end CacheTier
