import CacheTier.FleetError
import CacheTier.Http.Message
import CacheTier.Json.Bytes

/-!
# Exchanges with an endpoint

What may come of a request to an endpoint, and the failure that each outcome
stands for.  An endpoint that cannot be reached, takes too long or is itself at
fault may do better later; a request that it refuses stays refused.
-/

namespace CacheTier

/-- What came of a request. -/
inductive Exchange where
  /-- The request could not be sent, or its connection broke. -/
  | broken
  /-- The time for the request ended. -/
  | timedOut
  | answered (response : Response)

namespace Exchange

/-- The reason given for an endpoint that cannot be talked to. -/
def brokenReason : String := "<transport failure>"

/-- What comes of a request that a service has handled: without a response its connection
breaks. -/
def ofResponse? : Option Response → Exchange
  | some response => answered response
  | none => broken

/-- The failure of an endpoint that cannot be talked to. -/
def unreachable (endpoint : String) : FleetError := .endpointUnavailable endpoint brokenReason

/-- The response, if there is one in time. -/
def response (endpoint : String) (limit : Span) : Exchange → Except FleetError Response
  | broken => .error (unreachable endpoint)
  | timedOut => .error (.timeout endpoint limit)
  | answered response => .ok response

end Exchange

namespace Response

/-- The response unless its status tells of a fault. -/
def successful (response : Response) (endpoint : String) : Except FleetError Response :=
  if response.status.isClientError then
    .error (.invalidArgument (endpoint ++ " rejected request: " ++ response.status.text))
  else if response.status.isServerError then
    .error (.endpointUnavailable endpoint ("status " ++ response.status.text))
  else .ok response

/-- The value in the body of a response. -/
def value {α : Type} (read : Json.Value → Json.Reading α) (response : Response)
    (endpoint : String) : Except FleetError α :=
  match Json.readAllBytes read response.body with
  | .ok a => .ok a
  | .error _ => .error (Exchange.unreachable endpoint)

end Response

/-- The value that an endpoint answers a request with. -/
def Exchange.value {α : Type} (read : Json.Value → Json.Reading α) (exchange : Exchange)
    (endpoint : String) (limit : Span) : Except FleetError α := do
  let response ← exchange.response endpoint limit
  (← response.successful endpoint).value read endpoint

end CacheTier
