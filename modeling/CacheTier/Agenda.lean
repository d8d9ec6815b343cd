import CacheTier.Time.Span

/-!
# Agendas

Work that shares one clock: what is to be done now, in turn, and what is to be
done when its time comes.  The clock stands still while there is work, and then
goes on to the next time on the agenda.  Of two entries for one time, the one
made first comes first.
-/

namespace CacheTier

/-- When a piece of work is to be done. -/
inductive Moment where
  /-- Before all other work. -/
  | first
  /-- After the work that is waiting now. -/
  | last
  /-- When the clock shows a time. -/
  | later (time : Span)
  deriving DecidableEq, Repr, Inhabited

/-- A clock, the work to be done now, and the work for later in ascending order of time. -/
structure Agenda (α : Type) where
  now : Span
  ready : List α
  timed : List (Span × α)
  deriving Repr, Inhabited

namespace Agenda

variable {α σ : Type}

/-- The agenda without entries, with the clock at zero. -/
def empty : Agenda α := ⟨.zero, [], []⟩

/-- How many entries an agenda has. -/
def size (agenda : Agenda α) : Nat := agenda.ready.length + agenda.timed.length

/-- Puts an entry after those for its time and for earlier ones. -/
def insertTimed (time : Span) (work : α) : List (Span × α) → List (Span × α)
  | [] => [(time, work)]
  | entry :: rest =>
    if time < entry.1 then (time, work) :: entry :: rest
    else entry :: insertTimed time work rest

/-- Puts pieces of work on the agenda, in order among those for one moment; the clock
has no unit below the millisecond. -/
def add (agenda : Agenda α) (works : List (Moment × α)) : Agenda α :=
  let atMoment (moment : Moment) : List α :=
    (works.filter (·.1 == moment)).map Prod.snd
  let timed := works.foldl (fun timed entry =>
    match entry.1 with
    | .later time => insertTimed time.roundedToMillis entry.2 timed
    | _ => timed) agenda.timed
  { agenda with ready := atMoment .first ++ agenda.ready ++ atMoment .last, timed }

/-- The next time on the agenda. -/
def nextTime? (agenda : Agenda α) : Option Span := agenda.timed.head?.map Prod.fst

/-- The agenda when the clock shows a time: what is due is ready, urgent work first. -/
def advanceTo (urgent : α → Bool) (agenda : Agenda α) (time : Span) : Agenda α :=
  let due := (agenda.timed.takeWhile fun entry => entry.1 ≤ time).map Prod.snd
  { now := time
    ready := agenda.ready ++ due.filter urgent ++ due.filter (!urgent ·)
    timed := agenda.timed.dropWhile fun entry => entry.1 ≤ time }

/-- How long work goes on. -/
inductive Horizon (σ : Type) where
  /-- Until nothing is left to be done now and the state is as wanted. -/
  | until (reached : σ → Bool)
  /-- Until everything up to a time is done. -/
  | through (time : Span)

/-- The next time that the clock goes on to within a horizon. -/
def Horizon.next? (horizon : Horizon σ) (state : σ) (agenda : Agenda α) : Option Span :=
  match horizon with
  | .until reached => if reached state then none else agenda.nextTime?
  | .through limit => agenda.nextTime?.filter (· ≤ limit)

/-- What work means: what it does to a state at a time, and the work it leaves. -/
structure Duty (σ α : Type) where
  perform : Span → α → σ → σ × List (Moment × α)
  /-- Work that is done first of all that is due at one time. -/
  urgent : σ → α → Bool

/-- Does at most `steps` pieces of work, or as many as there are within the horizon. -/
def work (duty : Duty σ α) (horizon : Horizon σ) : Nat → σ → Agenda α → σ × Agenda α
  | 0, state, agenda => (state, agenda)
  | steps + 1, state, agenda =>
    match agenda.ready with
    | task :: rest =>
      let (state, more) := duty.perform agenda.now task state
      work duty horizon steps state ({ agenda with ready := rest }.add more)
    | [] =>
      match horizon.next? state agenda with
      | some time => work duty horizon steps state (agenda.advanceTo (duty.urgent state) time)
      | none => (state, agenda)

end Agenda
end CacheTier
