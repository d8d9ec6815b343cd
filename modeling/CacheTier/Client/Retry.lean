import CacheTier.Backoff
import CacheTier.Configuration

/-!
# Pauses after failed fetches

After a failed fetch a client pauses before it asks again.  The pauses grow by
half from failure to failure up to a limit, each is spread around its nominal
length, and a successful fetch starts over.
-/

namespace CacheTier

/-- The next pause, and the end of the present one. -/
structure RetrySchedule where
  interval : Span
  resumesAt : Option Span
  deriving DecidableEq, Repr, Inhabited

namespace RetrySchedule

/-- The schedule before any failure. -/
def start (config : ClientConfig) : RetrySchedule := ⟨config.retryInitial, none⟩

/-- The schedule after a failure. -/
def failed (schedule : RetrySchedule) (config : ClientConfig) (now : Span) (jitter : Jitter) :
    RetrySchedule :=
  ⟨schedule.interval.grownWithin config.retryMax, some (now + jitter.applied schedule.interval)⟩

/-- What is left of the present pause. -/
def remaining? (schedule : RetrySchedule) (now : Span) : Option Span :=
  (schedule.resumesAt.map (· - now)).filter (Span.zero < ·)

end RetrySchedule
end CacheTier
