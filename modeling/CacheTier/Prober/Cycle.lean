import CacheTier.Prober.Endpoint

/-!
# Probe cycles

A cycle contacts endpoints in up to four passes and never one of them twice: the
active ones, then the inactive ones, then the seeds, each of these only while
nobody has answered, and at last the endpoints that were reported by those that
did answer.  The endpoints of a pass are probed at the same time, and the next
pass begins when all of them have answered or failed.
-/

namespace CacheTier

/-- What a probe of an endpoint came to. -/
inductive ProbeAnswer where
  /-- The endpoint answered after a time and reported its peers. -/
  | answered (latency : Span) (peers : List String)
  /-- The endpoint failed or did not answer in time. -/
  | silent
  deriving DecidableEq, Repr, Inhabited

/-- A probe of an endpoint, with its answer once there is one. -/
structure Probe where
  url : String
  answer : Option ProbeAnswer
  deriving DecidableEq, Repr, Inhabited

/-- The passes of a cycle. -/
inductive ProbePass where
  | active
  | inactive
  | seeds
  | reported
  deriving DecidableEq, Repr, Inhabited

/-- A cycle under way. -/
structure ProbeCycle where
  /-- The endpoints that were known when the cycle began. -/
  listed : List EndpointRecord
  /-- The passes still to come. -/
  passes : List ProbePass
  /-- Everyone contacted so far. -/
  contacted : List String
  /-- Those that answered, with their latencies. -/
  responsive : List (String × Span)
  /-- Those that were reported and not contacted yet. -/
  reported : List String
  /-- The probes of the present pass. -/
  probes : List Probe
  deriving DecidableEq, Repr, Inhabited

namespace ProbeCycle

/-- The order of the passes. -/
def allPasses : List ProbePass := [.active, .inactive, .seeds, .reported]

/-- The cycle over a list of endpoints before its first pass. -/
def ofEndpoints (listed : List EndpointRecord) : ProbeCycle :=
  ⟨listed, allPasses, [], [], [], []⟩

/-- The endpoints that a pass is for, given what has been answered before it. -/
def candidates (seeds : List String) (cycle : ProbeCycle) : ProbePass → List String
  | .active => (cycle.listed.filter (·.active)).map EndpointRecord.url
  | .inactive =>
    if cycle.responsive.isEmpty then (cycle.listed.filter (!·.active)).map EndpointRecord.url
    else []
  | .seeds => if cycle.responsive.isEmpty then seeds else []
  | .reported => if cycle.responsive.isEmpty then [] else cycle.reported

/-- The endpoints that a pass contacts: its candidates that have not been contacted. -/
def targets (seeds : List String) (cycle : ProbeCycle) (pass : ProbePass) : List String :=
  (firstOfEach (cycle.candidates seeds pass)).filter (· ∉ cycle.contacted)

/-- Begins the first of some passes that has anyone to contact. -/
def enter (seeds : List String) (cycle : ProbeCycle) : List ProbePass → ProbeCycle
  | [] => { cycle with passes := [], probes := [] }
  | pass :: rest =>
    match cycle.targets seeds pass with
    | [] => enter seeds cycle rest
    | url :: urls => { cycle with
        passes := rest
        contacted := cycle.contacted ++ url :: urls
        probes := (url :: urls).map (⟨·, none⟩) }

/-- Goes on to the next pass that has anyone to contact. -/
def nextPass (seeds : List String) (cycle : ProbeCycle) : ProbeCycle :=
  cycle.enter seeds cycle.passes

/-- Notes the answer to a probe of the present pass. -/
def note (cycle : ProbeCycle) (url : String) (answer : ProbeAnswer) : ProbeCycle :=
  { cycle with probes := cycle.probes.map fun probe =>
      if probe.url == url && probe.answer.isNone then ⟨url, some answer⟩ else probe }

/-- Whether every probe of the present pass has its answer. -/
def isSettled (cycle : ProbeCycle) : Bool := cycle.probes.all (·.answer.isSome)

/-- Whether a reported endpoint is new to the cycle. -/
def isNews (cycle : ProbeCycle) (peer : String) : Bool :=
  !peer.isEmpty && peer ∉ cycle.contacted && peer ∉ cycle.reported

/-- Takes a reported endpoint in if it is new. -/
def hear (cycle : ProbeCycle) (peer : String) : ProbeCycle :=
  if cycle.isNews peer then { cycle with reported := cycle.reported ++ [peer] } else cycle

/-- Takes in what a probe came to. -/
def absorb (cycle : ProbeCycle) (probe : Probe) : ProbeCycle :=
  match probe.answer with
  | some (.answered latency peers) =>
    peers.foldl hear { cycle with responsive := cycle.responsive ++ [(probe.url, latency)] }
  | _ => cycle

/-- Takes in what all probes of the present pass came to, in the order of the pass. -/
def absorbAll (cycle : ProbeCycle) : ProbeCycle :=
  { cycle.probes.foldl absorb cycle with probes := [] }

/-- Whether an endpoint is preferred to another, or the two are alike. -/
def prefers (a b : String × Span) : Bool :=
  a.2 < b.2 || (a.2 == b.2 && decide (a.1 ≤ b.1))

/-- Those that answered, best first. -/
def ranking (cycle : ProbeCycle) : List EndpointRecord :=
  (cycle.responsive.mergeSort prefers).map fun entry => .ofAnswer entry.1 entry.2

end ProbeCycle
end CacheTier
