import CacheTier.Time.Span

/-!
# Failures of the fleet

Every operation that can fail does so with one of these causes.  A cause has a
kind, a message, and belongs either to the transient failures, after which a
caller goes on with older data and tries again, or to the permanent ones.
-/

namespace CacheTier

/-- Why an operation failed. -/
inductive FleetError where
  | internal (detail : String)
  | configuration (detail : String)
  | invalidArgument (detail : String)
  | nodeNotFound (nodeId : String)
  | routingUnavailable (reason : String)
  | endpointUnavailable (endpoint reason : String)
  | timeout (endpoint : String) (after : Span)
  | io (detail : String)
  deriving DecidableEq, Repr, Inhabited

namespace FleetError

/-- The name of a failure's kind. -/
def kind : FleetError → String
  | internal _ => "Internal"
  | configuration _ => "Configuration"
  | invalidArgument _ => "InvalidArgument"
  | nodeNotFound _ => "NodeNotFound"
  | routingUnavailable _ => "RoutingUnavailable"
  | endpointUnavailable .. => "EndpointUnavailable"
  | timeout .. => "Timeout"
  | io _ => "Io"

/-- The text shown for a failure. -/
def message : FleetError → String
  | internal detail => "Internal error: " ++ detail
  | configuration detail => "Configuration error: " ++ detail
  | invalidArgument detail => "Invalid argument: " ++ detail
  | nodeNotFound nodeId => "Node not found: " ++ nodeId
  | routingUnavailable reason => "Routing unavailable: " ++ reason
  | endpointUnavailable endpoint reason =>
      "Endpoint unavailable: " ++ endpoint ++ " - " ++ reason
  | timeout endpoint after =>
      "Request to " ++ endpoint ++ " timed out after " ++ after.text
  | io detail => "IO error: " ++ detail

/-- Whether a later attempt may succeed. -/
def isTransient : FleetError → Bool
  | timeout .. | endpointUnavailable .. | routingUnavailable _ => true
  | _ => false

end FleetError
end CacheTier
