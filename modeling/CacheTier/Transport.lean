import CacheTier.Backoff
import CacheTier.Configuration
import CacheTier.Http.MediaType
import CacheTier.Transport.Exchange
import CacheTier.Url
import CacheTier.Wire.Message

/-!
# The transport to the registry

Cache nodes and clients reach the registry at the endpoint that their prober
names.  The prober hears of every failure that a later attempt may not repeat.  A
pulse is sent again after such a failure while its budget of time lasts.

The operations run in surroundings that are left open: anything that names
endpoints, takes reports, answers requests and lets time pass.
-/

namespace CacheTier

/-- What a transport lives among. -/
structure Surroundings (ω : Type) where
  /-- The endpoint to talk to. -/
  current : ω → ω × Option String
  /-- Tells of an endpoint that failed. -/
  report : ω → String → ω
  /-- Sends a request. -/
  send : ω → Url → Request → ω × Exchange
  now : ω → Span
  /-- Lets time pass. -/
  pause : ω → Span → ω
  /-- The spread of the next pause. -/
  jitter : ω → Jitter

/-- A transport to the endpoints of a service. -/
structure Transport where
  service : String
  config : TransportConfig
  deriving DecidableEq, Repr, Inhabited

namespace Surroundings

variable {ω : Type} (s : Surroundings ω)

/-- Sends a request to a resource; without an address, or with headers that cannot be
sent, there is no exchange. -/
def ask (w : ω) (url : Option Url) (request : Url → Request) : ω × Exchange :=
  match url with
  | none => (w, .broken)
  | some url => if (request url).isSendable then s.send w url (request url) else (w, .broken)

/-- Reports an endpoint if its failure may not be repeated by another attempt. -/
def heed {α : Type} (w : ω) (endpoint : String) : Except FleetError α → ω
  | .ok _ => w
  | .error cause => if cause.isTransient then s.report w endpoint else w

end Surroundings

namespace Transport

/-- The address of a resource of an endpoint; slashes at the end of the endpoint's own
address count for nothing. -/
def address (endpoint path : String) : Option Url :=
  Url.ofText? (String.ofList (endpoint.toList.reverse.dropWhile (· == '/')).reverse ++ path)

/-- A request without a body on behalf of a context. -/
def plain (method : Method) (context : RequestContext) (url : Url) : Request :=
  { method, target := url.target, headers := [(RequestContext.header, context.text)] }

/-- The request that delivers a pulse. -/
def pulseRequest (pulse : PulseRequest) (context : RequestContext) (url : Url) : Request :=
  { method := .post, target := url.target, body := pulse.toDoc.render.toUTF8
    headers := [(RequestContext.header, context.text), ("content-type", MediaType.json)] }

/-- The pause after the first failed attempt to deliver a pulse. -/
def firstPause : Span := .ofMillis 200

/-- The longest pause between two attempts to deliver a pulse. -/
def longestPause : Span := .ofSeconds 5

/-- How often a pulse may be sent again: no pause is shorter than half the first. -/
def retryLimit (config : TransportConfig) : Nat :=
  2 * config.pulseRetryBudget.nanos / firstPause.nanos

section Operations

variable (t : Transport) {ω : Type} (s : Surroundings ω)

/-- The failure when no endpoint is known. -/
def noEndpoint : FleetError := .routingUnavailable ("no endpoint known for " ++ t.service)

/-- Asks for the peers of an endpoint. -/
def peers (endpoint : String) (w : ω) : ω × Except FleetError (List String) :=
  let (w, exchange) := s.ask w (address endpoint "/v1/peers") fun url =>
    { method := .get, target := url.target }
  (w, PeersResponse.endpoints <$>
    exchange.value PeersResponse.fromValue endpoint t.config.requestTimeout)

/-- The address of the snapshot, for a caller that has a checksum or none. -/
def snapshotAddress (endpoint : String) (known : Option String) : Option Url :=
  let url := address endpoint "/v1/nodes"
  match known with
  | some checksum => url.map (·.withPair "checksum" checksum)
  | none => url

/-- Asks for a snapshot of the registry. -/
def fetch (context : RequestContext) (known : Option String) (w : ω) :
    ω × Except FleetError SnapshotReply :=
  match s.current w with
  | (w, none) => (w, .error t.noEndpoint)
  | (w, some endpoint) =>
    let (w, exchange) := s.ask w (snapshotAddress endpoint known) (plain .get context)
    let result := exchange.value SnapshotReply.fromValue endpoint t.config.requestTimeout
    (s.heed w endpoint result, result)

/-- Tries to deliver a pulse; none if no endpoint is known. -/
def attempt (context : RequestContext) (pulse : PulseRequest) (w : ω) :
    ω × Option (Except FleetError PulseOutcome) :=
  match s.current w with
  | (w, none) => (w, none)
  | (w, some endpoint) =>
    let (w, exchange) := s.ask w (address endpoint "/v1/nodes/pulse")
      (pulseRequest pulse context)
    let result := exchange.value PulseOutcome.fromValue endpoint t.config.requestTimeout
    (s.heed w endpoint result, some result)

/-- Delivers a pulse, and again after a failure that may not be repeated, at most
`retries` times and while pauses end in time. -/
def pulseWithin (context : RequestContext) (pulse : PulseRequest) :
    Nat → Backoff → ω → ω × Except FleetError PulseOutcome
  | retries, backoff, w =>
    match t.attempt s context pulse w with
    | (w, none) => (w, .error t.noEndpoint)
    | (w, some (.ok outcome)) => (w, .ok outcome)
    | (w, some (.error cause)) =>
      if cause.isTransient then
        match retries, backoff.next? (s.now w) (s.jitter w) with
        | retries + 1, some (pause, backoff) =>
          pulseWithin context pulse retries backoff (s.pause w pause)
        | _, _ => (w, .error cause)
      else (w, .error cause)

/-- Delivers a pulse. -/
def deliverPulse (context : RequestContext) (pulse : PulseRequest) (w : ω) :
    ω × Except FleetError PulseOutcome :=
  t.pulseWithin s context pulse (retryLimit t.config)
    ⟨firstPause, longestPause, s.now w + t.config.pulseRetryBudget⟩ w

/-- Asks the registry to drop a node; false if it did not know the node. -/
def withdraw (context : RequestContext) (id : NodeId) (w : ω) :
    ω × Except FleetError Bool :=
  match s.current w with
  | (w, none) => (w, .error t.noEndpoint)
  | (w, some endpoint) =>
    let (w, exchange) := s.ask w (address endpoint ("/v1/nodes/" ++ id.text))
      (plain .delete context)
    let received := exchange.response endpoint t.config.requestTimeout
    (s.heed w endpoint received, do
      let response ← received
      if response.status == .notFound then return false
      let _ ← response.successful endpoint
      return true)

end Operations
end Transport
end CacheTier
