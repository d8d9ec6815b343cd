import CacheTier.FleetError
import CacheTier.Http.MediaType
import CacheTier.Http.Message
import CacheTier.Json.Bytes
import CacheTier.Url.Form
import CacheTier.Wire.Message

/-!
# Parts of requests and responses

What the services of the fleet share: how the parts of a request are understood,
and how outcomes and failures are answered.  A part that cannot be understood is
answered by its status before anything is done.
-/

namespace CacheTier
namespace Rest

/-- A part of a request, or the status that it is refused with. -/
abbrev Understood (α : Type) := Except Status α

/-- The version that the services tell. -/
def version : String := "0.1.0"

/-- The largest body that is taken in. -/
def bodyLimit : Nat := 2 * 1024 * 1024

/-- A response with a document. -/
def answered (status : Status) (doc : Json.Doc) : Response :=
  { status, contentType := some MediaType.json, body := doc.render.toUTF8 }

/-- The response to a health check. -/
def healthy : Response := answered .ok (HealthResponse.toDoc ⟨"ok", version⟩)

/-- The response with metrics. -/
def exposed (text : String) : Response :=
  { status := .ok, contentType := some "text/plain; version=0.0.4", body := text.toUTF8 }

/-- The status of a failure and its name in a body. -/
def failureKind : FleetError → Status × String
  | .invalidArgument _ => (.badRequest, "invalid_argument")
  | .nodeNotFound _ => (.notFound, "node_not_found")
  | .routingUnavailable _ => (.unavailable, "routing_unavailable")
  | _ => (.internalError, "internal_error")

/-- The response to a request that failed. -/
def failed (context : RequestContext) (cause : FleetError) : Response :=
  let (status, name) := failureKind cause
  (answered status (ErrorResponse.toDoc ⟨name, cause.message, some context.text⟩)).tagged context

/-- The text that a part of a path stands for. -/
def pathText (part : List Char) : Understood String :=
  match Percent.decodeText? (String.ofList part) with
  | some text => .ok text
  | none => .error .badRequest

/-- The one value that a query has under a name, if it has any. -/
def queryValue (query : List Char) (name : String) : Understood (Option String) :=
  match (Form.pairs query).filter (·.1 == name) with
  | [] => .ok none
  | [(_, value)] => .ok (some value)
  | _ => .error .badRequest

/-- The body of a request. -/
def payload (request : Request) : Understood ByteArray :=
  if bodyLimit < request.body.size then .error .payloadTooLarge else .ok request.body

/-- The value in the body of a request: the body must be announced as JSON, be
well-formed and have the right shape. -/
def jsonBody {α : Type} (read : Json.Value → Json.Reading α) (request : Request) :
    Understood α := do
  if !((request.textHeader? "content-type").any MediaType.isJson) then
    throw .unsupportedMediaType
  match Json.readBytes read (← payload request) with
  | .ok a => return a
  | .error .syntaxFault => throw .badRequest
  | .error .mismatch => throw .unprocessable

/-- The rest of a path after its beginning, if there is any. -/
def below? (beginning : String) (path : List Char) : Option (List Char) :=
  if beginning.toList.isPrefixOf path then
    let rest := path.drop beginning.length
    if rest.isEmpty then none else some rest
  else none

end Rest
end CacheTier
