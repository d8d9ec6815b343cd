import CacheTier.Exposition
import CacheTier.Rest.Answer
import CacheTier.Wire.Stats

/-!
# The service of a cache node

The blocks of a store by their keys, the statistics of the store, and its
metrics.  A key is everything after its beginning of the path, slashes included.
-/

namespace CacheTier

/-- A store with what its service needs beside it. -/
structure NodeService where
  store : Store BuiltinPolicy
  metrics : Exposition := .empty
  /-- How many requests have been handled. -/
  handled : Nat := 0

namespace NodeService

/-- What a path of the service names. -/
inductive Resource where
  /-- A block by the encoded form of its key. -/
  | block (part : List Char)
  | stats
  | health
  | metrics
  deriving DecidableEq, Repr

/-- The resource of a path. -/
def Resource.ofPath? (path : List Char) : Option Resource :=
  match String.ofList path with
  | "/v1/stats" => some stats
  | "/healthz" => some health
  | "/metrics" => some metrics
  | _ => (Rest.below? "/v1/blocks/" path).map block

/-- Looks a block up. -/
def readBlock (service : NodeService) (context : RequestContext) (key : String) :
    NodeService × Response :=
  let (store, found) := service.store.get key
  ({ service with store }, match found with
    | some body =>
      { status := .ok, contentType := some "application/octet-stream", body
        context := some context }
    | none => (Response.bare .notFound).tagged context)

/-- Stores a block. -/
def writeBlock (service : NodeService) (context : RequestContext) (key : String)
    (body : ByteArray) : NodeService × Response :=
  match service.store.put? key body with
  | none => (service, Rest.failed context (.internal "no victim left"))
  | some (store, outcome) =>
    ({ service with store }, match outcome with
      | .ok outcome => (Rest.answered .ok outcome.toDoc).tagged context
      | .error cause => Rest.failed context cause)

/-- Removes a block. -/
def dropBlock (service : NodeService) (context : RequestContext) (key : String) :
    NodeService × Response :=
  let (store, removed) := service.store.remove key
  ({ service with store },
    (Response.bare (if removed then .noContent else .notFound)).tagged context)

/-- Does what a request asks of a resource, or refuses it with a status. -/
def perform (service : NodeService) (request : Request) (context : RequestContext)
    (resource : Resource) : Rest.Understood (NodeService × Response) := do
  match resource, request.method.deed with
  | .block part, .get => return service.readBlock context (← Rest.pathText part)
  | .block part, .put =>
    let key ← Rest.pathText part
    return service.writeBlock context key (← Rest.payload request)
  | .block part, .delete => return service.dropBlock context (← Rest.pathText part)
  | .stats, .get => return (service, Rest.answered .ok service.store.stats.toDoc)
  | .health, .get => return (service, Rest.healthy)
  | .metrics, .get =>
    let metrics := service.metrics.withStore service.store.stats
    return ({ service with metrics }, Rest.exposed metrics.render)
  | _, _ => return (service, Response.bare .methodNotAllowed)

/-- Handles a request. -/
def handle (service : NodeService) (request : Request) : NodeService × Response :=
  let context := request.context service.handled
  let service := { service with handled := service.handled + 1 }
  let (service, response) :=
    match Resource.ofPath? request.path with
    | none => (service, Response.bare .notFound)
    | some resource =>
      match service.perform request context resource with
      | .ok result => result
      | .error status => (service, Response.rejection status)
  (service, response.shownTo request.method)

end NodeService
end CacheTier
