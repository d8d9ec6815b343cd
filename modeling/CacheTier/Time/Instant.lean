import CacheTier.Time.Span

/-!
# Instants

A moment of universal time is a second since the epoch and a nanosecond within
it.  A leap second shares the number of the second before it; its nanoseconds
go on from a thousand million.
-/

namespace CacheTier

/-- A moment of universal time. -/
structure Instant where
  second : Int
  nanos : Nat
  deriving DecidableEq, Repr, Inhabited

namespace Instant

instance : LT Instant :=
  ⟨fun a b => a.second < b.second ∨ (a.second = b.second ∧ a.nanos < b.nanos)⟩

instance (a b : Instant) : Decidable (a < b) :=
  inferInstanceAs (Decidable (a.second < b.second ∨ (a.second = b.second ∧ a.nanos < b.nanos)))

/-- The instant a number of nanoseconds after the epoch. -/
def ofNanos (n : Int) : Instant :=
  ⟨Int.fdiv n 1000000000, (Int.fmod n 1000000000).toNat⟩

/-- The nanoseconds since the epoch. -/
def toNanos (t : Instant) : Int := t.second * 1000000000 + t.nanos

/-- Whether the instant lies in a leap second. -/
def isLeap (t : Instant) : Bool := t.nanos ≥ 1000000000

/-- The second of the day. -/
def secondOfDay (t : Instant) : Nat := (Int.fmod t.second 86400).toNat

/-- The seconds that leap seconds add between two times of day. -/
def leapCorrection (later earlier : Instant) : Int :=
  if earlier.secondOfDay < later.secondOfDay && earlier.isLeap then 1
  else if later.secondOfDay < earlier.secondOfDay && later.isLeap then -1
  else 0

/-- The nanoseconds from `earlier` to `later`, negative if they are in the other
order. -/
def since (later earlier : Instant) : Int :=
  later.toNanos - earlier.toNanos + leapCorrection later earlier * 1000000000

end Instant
end CacheTier
