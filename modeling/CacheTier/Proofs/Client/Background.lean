import CacheTier.Proofs.Client.Turns
import CacheTier.Proofs.Client.Warm

/-!
# Background refreshes and pauses

A client marks that a background refresh is under way, and it starts none while the mark
is set.  The mark and the refresh come and go together, so there is never a second one,
and the mark never outlives the refresh.  A failed fetch starts a pause, in which no
look-up starts a fetch or a refresh.  There is one pause at a time: where fetches overlap, or
one is made on request during a pause, the next failure puts its own pause in the place of the
one that is running, and a shorter one then ends the waiting early.
-/

namespace CacheTier

namespace RegistryClient

/-! ## The mark and the refresh -/

/-- A call under way is a background refresh. -/
def InBackground (tasks : Table Nat ClientTask) : Nat → Prop :=
  tasks.Holds (·.call = .background)

theorem inBackground_iff {tasks : Table Nat ClientTask} {task : Nat} :
    InBackground tasks task ↔ ∃ stage, tasks.get? task = some ⟨.background, stage⟩ := by
  constructor
  · rintro ⟨⟨call, stage⟩, hget, rfl⟩
    exact ⟨stage, hget⟩
  · rintro ⟨stage, hget⟩
    exact ⟨_, hget, rfl⟩

/-- The mark is set while one background refresh is under way, and there is never a
second. -/
def SingleFlight (refreshing : Bool) (tasks : Table Nat ClientTask) : Prop :=
  ∃ flight : Option Nat, refreshing = flight.isSome ∧
    ∀ task, InBackground tasks task ↔ flight = some task

namespace SingleFlight

variable {refreshing : Bool} {tasks : Table Nat ClientTask} {task : Nat} {call : ClientCall}

theorem iff_exists (h : SingleFlight refreshing tasks) :
    refreshing = true ↔ ∃ task, InBackground tasks task := by
  obtain ⟨flight, hmark, hflight⟩ := h
  rw [hmark, Option.isSome_iff_exists]
  exact exists_congr fun task => (hflight task).symm

theorem eq_of_inBackground (h : SingleFlight refreshing tasks) {other : Nat}
    (htask : InBackground tasks task) (hother : InBackground tasks other) : task = other := by
  obtain ⟨flight, -, hflight⟩ := h
  rw [hflight] at htask hother
  exact Option.some.inj (htask.symm.trans hother)

theorem congr {tasks' : Table Nat ClientTask} (h : SingleFlight refreshing tasks)
    (hsame : ∀ task, InBackground tasks' task ↔ InBackground tasks task) :
    SingleFlight refreshing tasks' := by
  obtain ⟨flight, hmark, hflight⟩ := h
  exact ⟨flight, hmark, fun task => (hsame task).trans (hflight task)⟩

/-- A call under way goes on. -/
theorem advance (h : SingleFlight refreshing tasks) {before : CallStage}
    (hget : tasks.get? task = some ⟨call, before⟩) (after : CallStage) :
    SingleFlight refreshing (tasks.insert task ⟨call, after⟩) := by
  apply h.congr
  intro other
  rw [InBackground, Table.holds_insert_iff]
  split_ifs with hother
  · rw [hother, InBackground, Table.holds_iff_of_get? hget]
  · exact Iff.rfl

/-- A call that is no background refresh comes in. -/
theorem enter (h : SingleFlight refreshing tasks) (hnew : tasks.get? task = none)
    (hcall : call ≠ .background) (stage : CallStage) :
    SingleFlight refreshing (tasks.insert task ⟨call, stage⟩) := by
  apply h.congr
  intro other
  rw [InBackground, Table.holds_insert_iff]
  split_ifs with hother
  · rw [hother]
    exact iff_of_false hcall (Table.not_holds_of_get?_eq_none hnew)
  · exact Iff.rfl

/-- A call that is no background refresh ends. -/
theorem leave (h : SingleFlight refreshing tasks) {stage : CallStage}
    (hget : tasks.get? task = some ⟨call, stage⟩) (hcall : call ≠ .background) :
    SingleFlight refreshing (tasks.erase task) := by
  apply h.congr
  intro other
  rw [InBackground, Table.holds_erase_iff]
  constructor
  · exact And.right
  · intro hother
    refine ⟨?_, hother⟩
    rintro rfl
    exact hcall ((Table.holds_iff_of_get? hget).mp hother)

/-- A background refresh is started. -/
theorem launch (h : SingleFlight false tasks) (task : Nat) (stage : CallStage) :
    SingleFlight true (tasks.insert task ⟨.background, stage⟩) := by
  refine ⟨some task, rfl, ?_⟩
  intro other
  have hnone : ¬ InBackground tasks other := fun hother => by
    simpa using h.iff_exists.mpr ⟨other, hother⟩
  rw [InBackground, Table.holds_insert_iff, Option.some_inj]
  split_ifs with hother
  · simp [hother]
  · exact iff_of_false hnone fun hsame => hother hsame.symm

/-- The background refresh ends. -/
theorem land (h : SingleFlight refreshing tasks) {stage : CallStage}
    (hget : tasks.get? task = some ⟨.background, stage⟩) :
    SingleFlight false (tasks.erase task) := by
  refine ⟨none, rfl, ?_⟩
  intro other
  rw [InBackground, Table.holds_erase_iff]
  constructor
  · rintro ⟨hne, hother⟩
    exact absurd (h.eq_of_inBackground hother (inBackground_iff.mpr ⟨stage, hget⟩)) hne
  · intro hnone
    cases hnone

end SingleFlight

section Steps

variable {client : RegistryClient}

theorem singleFlight_resume (h : SingleFlight client.refreshing client.tasks)
    (horderly : client.Orderly) (task : Nat) (now : Span) :
    SingleFlight (client.resume task now).1.refreshing (client.resume task now).1.tasks := by
  have hlocate : ∀ key, ClientCall.locate key ≠ .background := by simp
  have hresumed := client.resumed task now
  generalize client.resume task now = next at hresumed ⊢
  cases hresumed with
  | still _ _ => exact h
  | refreshes hget _ => exact h.advance hget .fetching
  | queues hget _ _ _ => exact h.advance hget .queued
  | fetches hopen _ _ =>
      obtain ⟨stage, hget⟩ := hopen.exists_get?
      exact h.advance hget .fetching
  | passes hopen _ =>
      obtain ⟨stage, hget⟩ := hopen.exists_get?
      obtain ⟨htasks, -, hmark, -⟩ := client.passTurn_tasks
      simp only [andThen, finish]
      rw [htasks, hmark]
      exact h.leave hget (hlocate _)
  | answers hget _ => exact h.leave hget (hlocate _)
  | @renews key hget _ hflag _ =>
      rw [hflag] at h
      -- calls are numbered, so the look-up is not the refresh that it starts
      have hne : task ≠ client.nextTask := Nat.ne_of_lt (horderly.numbered _ _ hget)
      have hstays : (client.tasks.insert client.nextTask ⟨.background, .begun⟩).get? task =
          some ⟨.locate key, .begun⟩ := by
        rw [Table.get?_insert_of_ne _ hne]
        exact hget
      exact (h.launch client.nextTask .begun).leave hstays (hlocate key)

theorem singleFlight_deliver (h : SingleFlight client.refreshing client.tasks) (task : Nat)
    (reply : Except FleetError SnapshotReply) (jitter : Jitter) (now : Span) :
    SingleFlight (client.deliver task reply jitter now).1.refreshing
      (client.deliver task reply jitter now).1.tasks := by
  by_cases hwaits : ∃ call, client.tasks.get? task = some ⟨call, .fetching⟩
  · obtain ⟨call, hget⟩ := hwaits
    obtain ⟨htasks, hmark, -⟩ := deliver_calls hget reply jitter now
    rw [htasks, hmark]
    split_ifs with hcall
    · rw [hcall] at hget
      exact h.land hget
    · exact h.leave hget hcall
  · rw [deliver_of_not_fetching (fun call hget => hwaits ⟨call, hget⟩)]
    exact h

theorem singleFlight_run (config : ClientConfig) {events : List Event}
    (hevents : .submit .background ∉ events) :
    SingleFlight ((create config).run events).refreshing ((create config).run events).tasks := by
  have hstart : SingleFlight (create config).refreshing (create config).tasks :=
    ⟨none, rfl, by simp [create, inBackground_iff]⟩
  suffices hrun : ((create config).run events).Orderly ∧
      SingleFlight ((create config).run events).refreshing ((create config).run events).tasks from
    hrun.2
  apply run_induction (fun client => client.Orderly ∧
    SingleFlight client.refreshing client.tasks) ⟨orderly_create config, hstart⟩
  rintro client event hevent ⟨horderly, hsingle⟩
  refine ⟨horderly.step event, ?_⟩
  cases event with
  | submit call =>
      have hcall : call ≠ .background := by
        rintro rfl
        exact hevents hevent
      exact hsingle.enter horderly.get?_nextTask hcall .begun
  | resume task now => exact singleFlight_resume hsingle horderly task now
  | deliver task reply jitter now => exact singleFlight_deliver hsingle task reply jitter now

end Steps
end RegistryClient

/-! ## Pauses -/

/-- The end of a fetch that reached a client, and how a pause after it would be spread. -/
structure Ending extends Delivery where
  jitter : Jitter

namespace Ending

def failed (ending : Ending) : Bool :=
  match ending.reply with
  | .error _ => true
  | .ok _ => false

/-- How many fetches have failed since the last that did not. -/
def failuresInARow (endings : List Ending) : Nat :=
  (endings.reverse.takeWhile failed).length

theorem failuresInARow_concat (endings : List Ending) (last : Ending) :
    failuresInARow (endings ++ [last]) =
      if last.failed = true then failuresInARow endings + 1 else 0 := by
  rw [failuresInARow, List.reverse_concat, List.takeWhile_cons]
  split_ifs
  · rfl
  · rfl

/-- The nominal length of the pause after a failure, by the number of failures in a row
before it. -/
def nominalPause (config : ClientConfig) (failures : Nat) : Span :=
  (Span.grownWithin · config.retryMax)^[failures] config.retryInitial

/-- When the client may ask the registry again.  The fetch that ended last decides: if it failed
its pause counts, in the place of any before it, and if it did not there is none. -/
def pauseEnd? (config : ClientConfig) (endings : List Ending) : Option Span :=
  endings.getLast?.bind fun last =>
    if last.failed then
      some (last.time +
        last.jitter.applied (nominalPause config (failuresInARow endings.dropLast)))
    else none

theorem pauseEnd?_concat (config : ClientConfig) (endings : List Ending) (last : Ending) :
    pauseEnd? config (endings ++ [last]) =
      if last.failed = true then
        some (last.time + last.jitter.applied (nominalPause config (failuresInARow endings)))
      else none := by
  rw [pauseEnd?, List.getLast?_concat, List.dropLast_concat, Option.bind_some]

end Ending

namespace RetrySchedule

/-- The schedule after the end of a fetch. -/
def taking (config : ClientConfig) (schedule : RetrySchedule) (ending : Ending) :
    RetrySchedule :=
  if ending.failed then schedule.failed config ending.time ending.jitter else .start config

/-- What the ends of fetches, taken in one after another, make of the first schedule. -/
theorem foldl_taking (config : ClientConfig) (endings : List Ending) :
    endings.foldl (taking config) (.start config) =
      ⟨Ending.nominalPause config (Ending.failuresInARow endings),
        Ending.pauseEnd? config endings⟩ := by
  induction endings using List.reverseRecOn with
  | nil => rfl
  | append_singleton endings last ih =>
      rw [List.foldl_concat, ih, taking, Ending.failuresInARow_concat, Ending.pauseEnd?_concat]
      split_ifs
      · rw [failed, Ending.nominalPause, Ending.nominalPause, Function.iterate_succ_apply']
      · rfl

theorem remaining?_ne_none {schedule : RetrySchedule} {resumes now : Span}
    (hresumes : schedule.resumesAt = some resumes) (hnow : now < resumes) :
    schedule.remaining? now ≠ none := by
  have hleft : Span.zero < resumes - now := Nat.sub_pos_of_lt hnow
  simp [remaining?, hresumes, hleft]

end RetrySchedule

namespace RegistryClient

/-- The end of a fetch at an event, if there is a call that waits for it. -/
def ended (client : RegistryClient) : Event → List Ending
  | .deliver task reply jitter now =>
    (client.delivered (.deliver task reply jitter now)).map (⟨·, jitter⟩)
  | _ => []

/-- The ends of fetches at the events of a sequence. -/
def endings : RegistryClient → List Event → List Ending
  | _, [] => []
  | client, first :: rest => client.ended first ++ endings (client.step first) rest

section Pauses

variable {client : RegistryClient} {task : Nat}

theorem retry_conclude (client : RegistryClient) (reply : Except FleetError SnapshotReply)
    (jitter : Jitter) (now : Span) :
    (client.conclude reply jitter now).1.retry =
      client.retry.taking client.config ⟨⟨reply, now⟩, jitter⟩ := by
  cases reply with
  | error cause => rfl
  | ok reply =>
      cases reply with
      | unchanged checksum => rfl
      | full snapshot => rfl

theorem retry_resume (client : RegistryClient) (task : Nat) (now : Span) :
    (client.resume task now).1.retry = client.retry := by
  have hresumed := client.resumed task now
  generalize client.resume task now = next at hresumed ⊢
  cases hresumed with
  | still _ _ => rfl
  | refreshes _ _ => rfl
  | queues _ _ _ _ => rfl
  | fetches _ _ _ => rfl
  | passes _ _ => exact client.passTurn_tasks.2.2.2
  | answers _ _ => rfl
  | renews _ _ _ _ => rfl

/-- A step changes the pause by the end of a fetch alone. -/
theorem step_retry (client : RegistryClient) (event : Event) :
    (client.step event).retry =
      (client.ended event).foldl (RetrySchedule.taking client.config) client.retry := by
  cases event with
  | submit call => rfl
  | resume task now => exact client.retry_resume task now
  | deliver task reply jitter now =>
      rw [step, ended, delivered]
      split
      · rename_i call hget
        rw [(deliver_calls hget reply jitter now).2.2, retry_conclude]
        rfl
      · rename_i hget
        rw [deliver_of_not_fetching hget]
        rfl

theorem run_retry (client : RegistryClient) (events : List Event) :
    (client.run events).retry =
      (client.endings events).foldl (RetrySchedule.taking client.config) client.retry := by
  induction events generalizing client with
  | nil => rfl
  | cons first rest ih =>
      rw [endings, List.foldl_append, ← step_retry, ← (client.step_cache first).1]
      exact ih (client.step first)

/-- The end of a fetch starts neither a fetch nor a refresh. -/
theorem demands_deliver (client : RegistryClient) (task : Nat)
    (reply : Except FleetError SnapshotReply) (jitter : Jitter) (now : Span) :
    ClientDemand.fetchers (client.deliver task reply jitter now).2 = [] ∧
      ClientDemand.started (client.deliver task reply jitter now).2 = [] := by
  by_cases hwaits : ∃ call, client.tasks.get? task = some ⟨call, .fetching⟩
  · obtain ⟨call, hget⟩ := hwaits
    cases call with
    | locate key =>
        obtain ⟨hfetchers, -, hstarted⟩ := (client.conclude reply jitter now).1.passTurn_demands
        rw [deliver_locate reply jitter now hget, andThen, ClientDemand.fetchers_append,
          ClientDemand.started_append, hfetchers, hstarted]
        exact ⟨rfl, rfl⟩
    | refresh =>
        rw [deliver_refresh reply jitter now hget]
        exact ⟨rfl, rfl⟩
    | background =>
        rw [deliver_background reply jitter now hget]
        exact ⟨rfl, rfl⟩
  · rw [deliver_of_not_fetching (fun call hget => hwaits ⟨call, hget⟩)]
    exact ⟨rfl, rfl⟩

/-- During a pause a look-up starts neither a fetch nor a refresh. -/
theorem demands_resume_of_pause {key : String} {stage : CallStage} {now : Span}
    (hget : client.tasks.get? task = some ⟨.locate key, stage⟩)
    (hpause : client.retry.remaining? now ≠ none) :
    ClientDemand.fetchers (client.resume task now).2 = [] ∧
      ClientDemand.started (client.resume task now).2 = [] := by
  have hresumed := client.resumed task now
  generalize client.resume task now = next at hresumed ⊢
  cases hresumed with
  | still _ _ => exact ⟨rfl, rfl⟩
  | refreshes hbegun hcall =>
      rw [hget] at hbegun
      cases hbegun
      exact absurd rfl (hcall key)
  | queues _ _ _ _ => exact ⟨rfl, rfl⟩
  | fetches _ _ hfree => exact absurd hfree hpause
  | passes _ _ =>
      rw [andThen, ClientDemand.fetchers_append, ClientDemand.started_append,
        client.passTurn_demands.1, client.passTurn_demands.2.2]
      exact ⟨rfl, rfl⟩
  | answers _ _ => exact ⟨rfl, rfl⟩
  | renews _ _ _ hfree => exact absurd hfree hpause

end Pauses

/-- The mark is set exactly while a background refresh is under way, of which there is never
a second one, and the end of its fetch takes both away, whatever the reply.  The pause that counts
is that of the fetch that ended last, if it failed: a success clears the pause, and another
failure puts its own in the place of the one that is running, also where this one would end
later.  While the pause of that last fetch is running, no look-up starts a fetch or a refresh;
nor does the end of a fetch ever. -/
theorem background_refresh_is_single (config : ClientConfig) (events : List Event)
    (hevents : .submit .background ∉ events) :
    let client := (create config).run events
    let endings := (create config).endings events
    (client.refreshing = true ↔
        ∃ task stage, client.tasks.get? task = some ⟨.background, stage⟩) ∧
      (∀ task task' stage stage', client.tasks.get? task = some ⟨.background, stage⟩ →
        client.tasks.get? task' = some ⟨.background, stage'⟩ → task = task') ∧
      (∀ task reply jitter now, client.tasks.get? task = some ⟨.background, .fetching⟩ →
        let ended := (client.deliver task reply jitter now).1
        ended.refreshing = false ∧ ended.tasks.get? task = none) ∧
      client.retry.resumesAt = Ending.pauseEnd? config endings ∧
      (∀ earlier last, endings = earlier ++ [last] → last.failed = true →
        ∀ task key stage now, client.tasks.get? task = some ⟨.locate key, stage⟩ →
          now < last.time +
            last.jitter.applied (Ending.nominalPause config (Ending.failuresInARow earlier)) →
          ClientDemand.fetchers (client.resume task now).2 = [] ∧
            ClientDemand.started (client.resume task now).2 = []) ∧
      ∀ task reply jitter now,
        ClientDemand.fetchers (client.deliver task reply jitter now).2 = [] ∧
          ClientDemand.started (client.deliver task reply jitter now).2 = [] := by
  intro client endings
  have hsingle : SingleFlight client.refreshing client.tasks := singleFlight_run config hevents
  have hpause : client.retry.resumesAt = Ending.pauseEnd? config endings := by
    have hretry : client.retry = _ := (create config).run_retry events
    rw [hretry]
    exact congrArg RetrySchedule.resumesAt (RetrySchedule.foldl_taking config endings)
  refine ⟨?_, ?_, ?_, hpause, ?_, client.demands_deliver⟩
  · rw [hsingle.iff_exists]
    exact exists_congr fun task => inBackground_iff
  · intro task task' stage stage' hget hget'
    exact hsingle.eq_of_inBackground (inBackground_iff.mpr ⟨stage, hget⟩)
      (inBackground_iff.mpr ⟨stage', hget'⟩)
  · intro task reply jitter now hget ended
    obtain ⟨htasks, hmark, -⟩ := deliver_calls hget reply jitter now
    refine ⟨hmark, ?_⟩
    rw [htasks, Table.get?_erase, if_pos rfl]
  · intro earlier last hlast hfailed task key stage now hget hnow
    rw [hlast, Ending.pauseEnd?_concat, if_pos hfailed] at hpause
    exact demands_resume_of_pause hget (RetrySchedule.remaining?_ne_none hpause hnow)

/-- The copy grows stale and is refreshed in the background; meanwhile an explicit refresh
fails, and another key is looked up. -/
def overlap : List Event :=
  nodeFetched ++
    [.submit (.locate "k"), .resume 1 (.ofSeconds 20), .resume 2 (.ofSeconds 20),
      .submit .refresh, .resume 3 (.ofSeconds 20),
      .deliver 3 (.error (.internal "down")) .even (.ofSeconds 20), .submit (.locate "l")]

theorem background_refresh_single_in_overlap :
    .submit .background ∉ overlap ∧
      let client := startSmall.run overlap
      (∃ task stage, client.tasks.get? task = some ⟨.background, stage⟩) ∧
        (client.deliver 2 (.error (.internal "down")) .even (.ofSeconds 21)).1.refreshing = false ∧
        ClientDemand.fetchers (client.resume 4 (.ofSeconds 20)).2 = [] ∧
        ClientDemand.started (client.resume 4 (.ofSeconds 20)).2 = [] := by
  have hevents : .submit .background ∉ overlap := by simp [overlap, nodeFetched]
  have hmark : (startSmall.run overlap).refreshing = true := by decide +kernel
  have hfetching : (startSmall.run overlap).tasks.get? 2 = some ⟨.background, .fetching⟩ := by
    decide +kernel
  have hsome : startSmall.endings overlap ≠ [] := by
    rw [← List.length_pos_iff]
    decide +kernel
  have hfailed : ((startSmall.endings overlap).getLast hsome).failed = true := by
    decide +kernel +revert
  obtain ⟨hflag, -, hends, -, hquiet, -⟩ :=
    background_refresh_is_single { ring := ⟨1⟩ } overlap hevents
  exact ⟨hevents, hflag.mp hmark, (hends 2 _ _ _ hfetching).1,
    hquiet _ _ (List.dropLast_concat_getLast hsome).symm hfailed 4 "l" .begun _
      (by decide +kernel) (by decide +kernel +revert)⟩

/-- Two refreshes are under way, and the first of them fails. -/
def firstFails : List Event :=
  [.submit .refresh, .submit .refresh, .resume 0 .zero, .resume 1 .zero,
    .deliver 0 (.error (.internal "down")) .even .zero]

/-- The other one fails as well, with a pause that falls short, and a key is looked up. -/
def secondFails : List Event :=
  [.deliver 1 (.error (.internal "down")) ⟨0, 1, Nat.one_pos⟩ .zero, .submit (.locate "k")]

/-- The first failure sets a pause of half a second.  The second one replaces it by one of 375
milliseconds, so after 400 the look-up fetches: no fetch has succeeded in between, and the first
pause would have gone on. -/
theorem shorter_pause_replaces_longer :
    let first := startSmall.run firstFails
    let client := first.run secondFails
    (startSmall.endings (firstFails ++ secondFails)).map Ending.failed = [true, true] ∧
      first.retry.resumesAt = some (.ofMillis 500) ∧
      client.retry.resumesAt = some (.ofMillis 375) ∧
      ClientDemand.fetchers (client.resume 2 (.ofMillis 400)).2 = [2] := by
  decide +kernel

end RegistryClient
end CacheTier
