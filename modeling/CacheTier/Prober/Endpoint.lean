import CacheTier.Json.Doc
import CacheTier.Text.Inspection
import CacheTier.Time.Span

/-!
# Endpoints

What a prober knows about an endpoint, and the order in which endpoints are
preferred: the lowest latency first, and the lowest URL first of equal ones.
-/

namespace CacheTier

/-- An endpoint with what the last probe of it showed. -/
structure EndpointRecord where
  url : String
  /-- The time of the last answer, if there was one. -/
  latency : Option Span
  /-- Whether the endpoint is believed to answer. -/
  active : Bool
  deriving DecidableEq, Repr, Inhabited

namespace EndpointRecord

/-- The record of an endpoint that has not been probed. -/
def ofSeed (url : String) : EndpointRecord := ⟨url, none, true⟩

/-- The record of an endpoint that answered after a time. -/
def ofAnswer (url : String) (latency : Span) : EndpointRecord := ⟨url, some latency, true⟩

/-- The record once the endpoint has been reported as failed. -/
def deactivated (record : EndpointRecord) : EndpointRecord := { record with active := false }

/-- The record as text for inspection. -/
def summary (record : EndpointRecord) : String :=
  "EndpointRecord \x7b url: " ++ Inspection.quoted record.url ++
    ", latency: " ++ Inspection.optional Span.text record.latency ++
    ", active: " ++ toString record.active ++ " \x7d"

/-- The latency as a document. -/
def latencyDoc (latency : Span) : Json.Doc := .object [
  ("secs", .nat latency.seconds), ("nanos", .nat latency.subsecond)]

def toDoc (record : EndpointRecord) : Json.Doc := .object [
  ("url", .text record.url),
  ("latency", .ofOption latencyDoc record.latency),
  ("active", .bool record.active)]

end EndpointRecord

/-- A text list without repeats, each text in its first place. -/
def firstOfEach (xs : List String) : List String :=
  xs.foldl (fun seen x => if x ∈ seen then seen else seen ++ [x]) []

end CacheTier
