import CacheTier.Cache.Store
import CacheTier.Registry

/-!
# The configuration of a process

The configuration of every part of a process.  The ring of the fleet takes the
place of the rings that the registry and the client are configured with, so both
sides place keys alike.
-/

namespace CacheTier

/-- What a registry client is built from. -/
structure ClientConfig where
  /-- The age after which the ring is renewed in the background. -/
  softTtl : Span := .ofSeconds 10
  /-- The first pause after a failed fetch. -/
  retryInitial : Span := .ofMillis 500
  /-- The longest pause that failed fetches grow to. -/
  retryMax : Span := .ofSeconds 30
  ring : RingConfig := {}
  deriving DecidableEq, Repr, Inhabited

/-- What an endpoint prober is built from. -/
structure ProberConfig where
  /-- The least time between two probe cycles that are not forced. -/
  minInterval : Span := .ofSeconds 5
  /-- The time an endpoint has for its answer. -/
  timeout : Span := .ofSeconds 3
  deriving DecidableEq, Repr, Inhabited

/-- What a transport is built from. -/
structure TransportConfig where
  connectTimeout : Span := .ofSeconds 2
  requestTimeout : Span := .ofSeconds 5
  /-- The time after which a pulse is no longer sent again. -/
  pulseRetryBudget : Span := .ofSeconds 30
  deriving DecidableEq, Repr, Inhabited

/-- The configuration of one process of the fleet. -/
structure Configuration where
  ring : RingConfig := {}
  store : StoreConfig := {}
  registry : RegistryConfig := {}
  client : ClientConfig := {}
  prober : ProberConfig := {}
  transport : TransportConfig := {}
  deriving Repr, Inhabited

namespace Configuration

/-- The registry's configuration with the ring of the fleet. -/
def forRegistry (config : Configuration) : RegistryConfig :=
  { config.registry with ring := config.ring }

/-- The client's configuration with the ring of the fleet. -/
def forClient (config : Configuration) : ClientConfig :=
  { config.client with ring := config.ring }

/-- The spans that must not be zero, with their names. -/
def positiveSpans (config : Configuration) : List (String × Span) := [
  ("liveness timeout", config.registry.livenessTimeout),
  ("sweep interval", config.registry.sweepInterval),
  ("probe timeout", config.prober.timeout),
  ("request timeout", config.transport.requestTimeout)]

/-- Rejects a value that no part of the fleet can work with. -/
def check (config : Configuration) : Except FleetError Unit :=
  if config.ring.entriesPerWeight == 0 then
    .error (.configuration "virtual nodes per weight must be positive")
  else if config.store.capacityBytes == 0 then
    .error (.configuration "block store capacity must be positive")
  else if !config.registry.priorityAdjust.isFinite then
    .error (.configuration "priority adjustment must be finite")
  else
    match config.positiveSpans.find? fun entry => entry.2 == Span.zero with
    | some (name, _) => .error (.configuration (name ++ " must be positive"))
    | none => .ok ()

end Configuration
end CacheTier
