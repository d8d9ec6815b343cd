import CacheTier.Json.Doc
import CacheTier.Json.Reading
import CacheTier.NodeId
import CacheTier.Time.Timestamp

/-!
# Instants and identifiers on the wire

An instant is written as the text of its timestamp and a node identifier as its
text.
-/

namespace CacheTier

namespace Instant

def toDoc (t : Instant) : Json.Doc := .text (Timestamp.write t)

/-- Reads a timestamp; a text that is none does not fit. -/
def fromValue (v : Json.Value) : Json.Reading Instant := do
  let s ← v.readText
  match Timestamp.read s with
  | some t => return t
  | none => .error .mismatch

end Instant

namespace NodeId

def toDoc (id : NodeId) : Json.Doc := .text id.text

def fromValue (v : Json.Value) : Json.Reading NodeId := NodeId.mk <$> v.readText

end NodeId
end CacheTier
