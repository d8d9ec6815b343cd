import CacheTier.Exposition
import CacheTier.Rest.Answer
import CacheTier.Wire.Stats

/-!
# The service of a registry

Pulses, snapshots, removals and look-ups over a registry, the authorities that
it knows, and its metrics.  A path that is written out in full is preferred to
one with a variable part, and a variable part is decoded after it was found.
-/

namespace CacheTier

/-- A registry with what its service needs beside it. -/
structure RegistryService where
  registry : Registry
  /-- The prober of the other authorities. -/
  peers : Option Prober := none
  /-- The address of this authority. -/
  advertised : Option String := none
  metrics : Exposition := .empty
  /-- How many requests have been handled. -/
  handled : Nat := 0

namespace RegistryService

/-- What a path of the service names. -/
inductive Resource where
  | nodes
  | pulse
  /-- A node by the encoded form of its identifier. -/
  | node (part : List Char)
  /-- The place of a key by its encoded form. -/
  | place (part : List Char)
  | peers
  | stats
  | health
  | metrics
  deriving DecidableEq, Repr

/-- The resource of a path. -/
def Resource.ofPath? (path : List Char) : Option Resource :=
  match String.ofList path with
  | "/v1/nodes" => some nodes
  | "/v1/nodes/pulse" => some pulse
  | "/v1/peers" => some peers
  | "/v1/stats" => some stats
  | "/healthz" => some health
  | "/metrics" => some metrics
  | _ =>
    let single (part : List Char) : Option Resource :=
      if '/' ∈ part then none else some (node part)
    ((Rest.below? "/v1/nodes/" path).bind single).or
      ((Rest.below? "/v1/locate/" path).map place)

/-- The endpoints that the service tells: its own first, then the active others. -/
def endpoints (service : RegistryService) : List String :=
  let known := match service.peers with
    | some prober => (prober.endpoints.filter (·.active)).map EndpointRecord.url
    | none => []
  firstOfEach (service.advertised.toList ++ known)

/-- Takes a pulse in.  If the program panics over it there is no response. -/
def takePulse (service : RegistryService) (context : RequestContext) (pulse : PulseRequest) :
    RegistryService × Option Response :=
  let (registry, ending) := service.registry.pulse pulse.nodeId pulse.report
  ({ service with registry }, match ending with
    | .ok outcome => some ((Rest.answered .ok outcome.toDoc).tagged context)
    | .error (.refused cause) => some (Rest.failed context cause)
    | .error .panicked => none)

/-- Removes a node. -/
def dropNode (service : RegistryService) (context : RequestContext) (id : NodeId) :
    RegistryService × Response :=
  let (registry, removed) := service.registry.remove id
  ({ service with registry },
    if removed then (Response.bare .noContent).tagged context
    else Rest.failed context (.nodeNotFound id.text))

/-- Answers where a key belongs. -/
def place (service : RegistryService) (context : RequestContext) (key : String) : Response :=
  match service.registry.locate? key with
  | some id =>
    (Rest.answered .ok (LocateResponse.toDoc ⟨key, id, service.registry.checksum⟩)).tagged context
  | none => Rest.failed context (.routingUnavailable "no cache nodes registered")

/-- Takes the present state into the metrics. -/
def observed (service : RegistryService) : Exposition :=
  let metrics := service.metrics.withRegistry service.registry.stats
  match service.peers with
  | some prober => metrics.withProber prober.stats
  | none => metrics

/-- Does what a request asks of a resource, or refuses it with a status. -/
def perform (service : RegistryService) (request : Request) (context : RequestContext)
    (resource : Resource) : Rest.Understood (RegistryService × Option Response) := do
  let answer (response : Response) := pure (service, some response)
  match resource, request.method.deed with
  | .nodes, .get =>
    let known ← Rest.queryValue request.query "checksum"
    let reply := service.registry.snapshot known
    answer ((Rest.answered .ok reply.toDoc).tagged context)
  | .pulse, .post =>
    return service.takePulse context (← Rest.jsonBody PulseRequest.fromValue request)
  | .node part, .delete =>
    let (service, response) := service.dropNode context ⟨← Rest.pathText part⟩
    return (service, some response)
  | .place part, .get => answer (service.place context (← Rest.pathText part))
  | .peers, .get => answer (Rest.answered .ok (PeersResponse.toDoc ⟨service.endpoints⟩))
  | .stats, .get => answer (Rest.answered .ok service.registry.stats.toDoc)
  | .health, .get => answer Rest.healthy
  | .metrics, .get =>
    let metrics := service.observed
    return ({ service with metrics }, some (Rest.exposed metrics.render))
  | _, _ => answer (Response.bare .methodNotAllowed)

/-- Handles a request; there is no response if the program panics over it. -/
def handle (service : RegistryService) (request : Request) :
    RegistryService × Option Response :=
  let context := request.context service.handled
  let service := { service with handled := service.handled + 1 }
  let (service, response) :=
    match Resource.ofPath? request.path with
    | none => (service, some (Response.bare .notFound))
    | some resource =>
      match service.perform request context resource with
      | .ok result => result
      | .error status => (service, some (Response.rejection status))
  (service, response.map (·.shownTo request.method))

end RegistryService
end CacheTier
