import CacheTier.Time.Span

/-!
# Growing pauses

Attempts that fail are followed by pauses, each half as long again as the one
before it, up to a limit.  Every pause is spread around its nominal length, and a
budget of time ends the attempts.
-/

namespace CacheTier

/-- Where a pause falls between half its nominal length and one and a half times it, as
a share of the way. -/
structure Jitter where
  share : Nat
  whole : Nat
  share_lt_whole : share < whole

namespace Jitter

/-- The spread that keeps a pause at its nominal length. -/
def even : Jitter := ⟨1, 2, by decide⟩

instance : Inhabited Jitter := ⟨even⟩

/-- The pause of a nominal length: the way is one nanosecond longer than the length, so
that all whole numbers of nanoseconds on it come up alike. -/
def applied (jitter : Jitter) (nominal : Span) : Span :=
  ⟨(nominal.nanos * jitter.whole + 2 * jitter.share * (nominal.nanos + 1)) / (2 * jitter.whole)⟩

end Jitter

/-- The nominal length of the pause that follows one of some length. -/
def Span.grownWithin (interval limit : Span) : Span :=
  if 2 * limit.nanos ≤ 3 * interval.nanos then limit else ⟨interval.nanos * 3 / 2⟩

/-- The next pause between attempts, and the time that it must not go beyond. -/
structure Backoff where
  interval : Span
  limit : Span
  deadline : Span
  deriving DecidableEq, Repr, Inhabited

namespace Backoff

/-- The next pause, if it ends in time, and what follows it. -/
def next? (backoff : Backoff) (now : Span) (jitter : Jitter) : Option (Span × Backoff) :=
  let pause := jitter.applied backoff.interval
  if now + pause ≤ backoff.deadline then
    some (pause, { backoff with interval := backoff.interval.grownWithin backoff.limit })
  else none

end Backoff
end CacheTier
