/-!
# Event feeds

A feed keeps the latest events for its subscribers.  A subscriber is a position
in the stream of all events; when events it has not read are gone, it first
learns how many, and then goes on with the oldest event that is kept.
-/

namespace CacheTier

/-- The latest events of a stream. -/
structure Feed (α : Type) where
  /-- How many events are kept. -/
  capacity : Nat
  /-- How many events there have been. -/
  sent : Nat
  /-- The kept events, oldest first. -/
  kept : List α
  deriving Repr

namespace Feed

variable {α : Type}

/-- The smallest power of two that is not below a number. -/
def powerOfTwoAbove (n : Nat) : Nat := if n ≤ 1 then 1 else 1 <<< ((n - 1).log2 + 1)

/-- A feed that keeps at least a number of events, and at least one. -/
def ofCapacity (n : Nat) : Feed α := ⟨powerOfTwoAbove n, 0, []⟩

/-- Adds an event at the end; the oldest one goes if there are too many. -/
def send (feed : Feed α) (event : α) : Feed α :=
  let kept := feed.kept ++ [event]
  { feed with sent := feed.sent + 1, kept := kept.drop (kept.length - feed.capacity) }

/-- Adds events in order. -/
def sendAll (feed : Feed α) (events : List α) : Feed α := events.foldl send feed

/-- The position of a new subscriber. -/
def subscribe (feed : Feed α) : Nat := feed.sent

/-- The position of the oldest kept event. -/
def oldest (feed : Feed α) : Nat := feed.sent - feed.kept.length

/-- What a subscriber meets when it reads. -/
inductive Delivery (α : Type) where
  /-- So many events were lost. -/
  | lagged (missed : Nat)
  | event (e : α)
  deriving Repr

/-- Everything new for a subscriber at a position. -/
def readFrom (feed : Feed α) (position : Nat) : List (Delivery α) :=
  if position < feed.oldest then
    .lagged (feed.oldest - position) :: feed.kept.map .event
  else (feed.kept.drop (position - feed.oldest)).map .event

end Feed
end CacheTier
