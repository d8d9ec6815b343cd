/-!
# Spans of time

A span is a count of nanoseconds.  Its text uses the largest of `s`, `ms`, `µs`
and `ns` that gives a non-zero whole part, with no trailing zeros after the
point.
-/

namespace CacheTier

/-- A length of time in nanoseconds. -/
structure Span where
  nanos : Nat
  deriving DecidableEq, Repr, Inhabited

namespace Span

/-- No time at all. -/
def zero : Span := ⟨0⟩

def ofSeconds (n : Nat) : Span := ⟨n * 1000000000⟩

def ofMillis (n : Nat) : Span := ⟨n * 1000000⟩

/-- The whole seconds of a span. -/
def seconds (s : Span) : Nat := s.nanos / 1000000000

/-- The nanoseconds of a span beyond its whole seconds. -/
def subsecond (s : Span) : Nat := s.nanos % 1000000000

/-- The whole milliseconds of a span. -/
def millis (s : Span) : Nat := s.nanos / 1000000

/-- The least whole number of milliseconds that a span fits into. -/
def roundedToMillis (s : Span) : Span := .ofMillis ((s.nanos + 999999) / 1000000)

instance : Add Span := ⟨fun a b => ⟨a.nanos + b.nanos⟩⟩

/-- The difference of two spans, and no time at all if the second is longer. -/
instance : Sub Span := ⟨fun a b => ⟨a.nanos - b.nanos⟩⟩

instance : LE Span := ⟨fun a b => a.nanos ≤ b.nanos⟩

instance (a b : Span) : Decidable (a ≤ b) :=
  inferInstanceAs (Decidable (a.nanos ≤ b.nanos))

instance : LT Span := ⟨fun a b => a.nanos < b.nanos⟩

instance (a b : Span) : Decidable (a < b) :=
  inferInstanceAs (Decidable (a.nanos < b.nanos))

/-- A number in at least `width` decimal digits. -/
def padLeft (width n : Nat) : List Char :=
  let digits := (toString n).toList
  List.replicate (width - digits.length) '0' ++ digits

/-- A list without the zeros at its end. -/
def dropTrailingZeros (digits : List Char) : List Char :=
  (digits.reverse.dropWhile (· == '0')).reverse

/-- A whole part and a fraction of `places` digits, trailing zeros left out. -/
def fixedText (whole fraction places : Nat) : String :=
  let digits := dropTrailingZeros (padLeft places fraction)
  if digits.isEmpty then toString whole
  else toString whole ++ "." ++ String.ofList digits

/-- The text of a span in its largest fitting unit. -/
def text (s : Span) : String :=
  if s.nanos ≥ 1000000000 then fixedText s.seconds s.subsecond 9 ++ "s"
  else if s.nanos ≥ 1000000 then fixedText s.millis (s.nanos % 1000000) 6 ++ "ms"
  else if s.nanos ≥ 1000 then fixedText (s.nanos / 1000) (s.nanos % 1000) 3 ++ "µs"
  else toString s.nanos ++ "ns"

end Span
end CacheTier
