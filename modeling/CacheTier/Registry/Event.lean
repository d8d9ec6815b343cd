import CacheTier.NodeId
import CacheTier.Time.Instant

/-!
# Registry events

What the registry tells its subscribers about pulses and about changes of the
membership.
-/

namespace CacheTier

/-- Something that happened to a node of the registry. -/
inductive RegistryEvent where
  /-- A first pulse placed a node on the ring. -/
  | joined (id : NodeId) (weight : Float)
  /-- A known node renewed its capacity. -/
  | updated (id : NodeId)
  /-- A node missed its deadline and left the ring. -/
  | expired (id : NodeId) (idleSeconds : Int64)
  /-- A node was removed on request. -/
  | removed (id : NodeId)
  /-- A pulse older than the record was dropped. -/
  | staleIgnored (id : NodeId) (reportedAt lastUpdate : Instant)
  deriving Repr, Inhabited

namespace RegistryEvent

/-- The node that an event is about. -/
def nodeId : RegistryEvent → NodeId
  | joined id _ => id
  | updated id => id
  | expired id _ => id
  | removed id => id
  | staleIgnored id _ _ => id

/-- Whether an event changed the set of members. -/
def isMembershipChange : RegistryEvent → Bool
  | joined .. => true
  | expired .. => true
  | removed _ => true
  | updated _ => false
  | staleIgnored .. => false

end RegistryEvent
end CacheTier
