import CacheTier.Proofs.Client.Deliveries

/-!
# What a client's calls do

A call that is resumed does one of a few things, depending on where it stands, on the
copy, on the pause and on who has the turn; one whose fetch ends passes the turn on, if
it had it, and is answered.  All that is proved of the calls of a client follows from the
two lists of cases here.
-/

namespace CacheTier

/-! ## Demands -/

namespace ClientDemand

/-- The call that a demand starts a fetch for. -/
def fetcher? : ClientDemand → Option Nat
  | .fetch task _ => some task
  | _ => none

/-- The call that a demand starts in the background. -/
def started? : ClientDemand → Option Nat
  | .start task => some task
  | _ => none

/-- The call that a demand gives an answer to, with the answer. -/
def answer? : ClientDemand → Option (Nat × ClientResult)
  | .finish task result => some (task, result)
  | _ => none

/-- The calls that fetches are started for. -/
def fetchers (demands : List ClientDemand) : List Nat := demands.filterMap fetcher?

/-- The calls that are started in the background. -/
def started (demands : List ClientDemand) : List Nat := demands.filterMap started?

/-- The answers that are given, in order. -/
def answers (demands : List ClientDemand) : List (Nat × ClientResult) :=
  demands.filterMap answer?

theorem fetchers_append (demands more : List ClientDemand) :
    fetchers (demands ++ more) = fetchers demands ++ fetchers more :=
  List.filterMap_append

theorem started_append (demands more : List ClientDemand) :
    started (demands ++ more) = started demands ++ started more :=
  List.filterMap_append

theorem answers_append (demands more : List ClientDemand) :
    answers (demands ++ more) = answers demands ++ answers more :=
  List.filterMap_append

end ClientDemand

namespace RegistryClient

/-- What a client demands at an event. -/
def emitted (client : RegistryClient) : Event → List ClientDemand
  | .submit _ => []
  | .resume task now => (client.resume task now).2
  | .deliver task reply jitter now => (client.deliver task reply jitter now).2

/-- What a client demands at the events of a sequence. -/
def demands : RegistryClient → List Event → List ClientDemand
  | _, [] => []
  | client, first :: rest => client.emitted first ++ demands (client.step first) rest

theorem run_append (client : RegistryClient) (events more : List Event) :
    client.run (events ++ more) = (client.run events).run more :=
  List.foldl_append

theorem run_concat (client : RegistryClient) (events : List Event) (event : Event) :
    client.run (events ++ [event]) = (client.run events).step event :=
  client.run_append events [event]

theorem demands_append (client : RegistryClient) (events more : List Event) :
    client.demands (events ++ more) =
      client.demands events ++ (client.run events).demands more := by
  induction events generalizing client with
  | nil => rfl
  | cons first rest ih =>
      rw [List.cons_append, demands, demands, ih, List.append_assoc]
      rfl

theorem demands_concat (client : RegistryClient) (events : List Event) (event : Event) :
    client.demands (events ++ [event]) =
      client.demands events ++ (client.run events).emitted event := by
  rw [demands_append, demands, demands, List.append_nil]

/-- What holds of the first state and is kept by every event holds after any run. -/
theorem run_induction (P : RegistryClient → Prop) {client : RegistryClient}
    {events : List Event} (hstart : P client)
    (hstep : ∀ client event, event ∈ events → P client → P (client.step event)) :
    P (client.run events) := by
  induction events generalizing client with
  | nil => exact hstart
  | cons first rest ih =>
      apply ih (hstep client first List.mem_cons_self hstart)
      intro client event hevent
      exact hstep client event (List.mem_cons_of_mem first hevent)

/-! ## Resumed calls -/

/-- The turn is a look-up's for the taking: nobody has it when the look-up finds the
copy cold, or it has been passed on to the look-up. -/
inductive TurnOpen (client : RegistryClient) (task : Nat) (key : String) (now : Span) : Prop
  | free (hget : client.tasks.get? task = some ⟨.locate key, .begun⟩)
      (hkey : key.isEmpty = false) (hcold : client.isCold now = true) (hturn : client.turn = none)
  | passed (hget : client.tasks.get? task = some ⟨.locate key, .queued⟩)
      (hturn : client.turn = some task)

/-- What a look-up is answered when its turn comes, unless it has to fetch. -/
def answerAtTurn (client : RegistryClient) (key : String) (now : Span) :
    Option (Except FleetError NodeId) :=
  if client.isCold now then
    (client.retry.remaining? now).map fun wait => .error (pauseFailure wait)
  else some (client.cache.route key)

theorem answerAtTurn_eq_none_iff {client : RegistryClient} {key : String} {now : Span} :
    client.answerAtTurn key now = none ↔
      client.isCold now = true ∧ client.retry.remaining? now = none := by
  rw [answerAtTurn]
  by_cases hcold : client.isCold now = true
  · simp [hcold]
  · simp [hcold]

theorem takeTurn_of_answer {client : RegistryClient} {key : String} {now : Span}
    {result : Except FleetError NodeId} (h : client.answerAtTurn key now = some result)
    (task : Nat) :
    client.takeTurn task key now =
      andThen client.passTurn (·.finish task (.located result)) := by
  rw [answerAtTurn] at h
  rw [takeTurn]
  split_ifs at h ⊢ with hcold
  · obtain ⟨wait, hwait, rfl⟩ := Option.map_eq_some_iff.mp h
    rw [hwait]
  · have hcache : client.passTurn.1.cache = client.cache :=
      (keepsCopy_passTurn client).cache
    rw [← Option.some.inj h, andThen, andThen, finishByRoute, hcache]

theorem takeTurn_of_no_answer {client : RegistryClient} {key : String} {now : Span}
    (h : client.answerAtTurn key now = none) (task : Nat) :
    client.takeTurn task key now = client.beginFetch task (.locate key) := by
  obtain ⟨hcold, hpause⟩ := answerAtTurn_eq_none_iff.mp h
  rw [takeTurn, if_pos hcold, hpause]

/-- What resuming a call comes to. -/
inductive Resumed (client : RegistryClient) (task : Nat) (now : Span) :
    RegistryClient × List ClientDemand → Prop
  /-- The call waits for something else, or is over. -/
  | still (hget : ∀ call, client.tasks.get? task ≠ some ⟨call, .begun⟩)
      (hturn : ∀ key, client.tasks.get? task = some ⟨.locate key, .queued⟩ →
        client.turn ≠ some task) :
      Resumed client task now (client, [])
  /-- A refresh fetches. -/
  | refreshes {call : ClientCall} (hget : client.tasks.get? task = some ⟨call, .begun⟩)
      (hcall : ∀ key, call ≠ .locate key) :
      Resumed client task now (client.beginFetch task call)
  /-- A look-up waits for its turn. -/
  | queues {key : String} {holder : Nat}
      (hget : client.tasks.get? task = some ⟨.locate key, .begun⟩)
      (hkey : key.isEmpty = false) (hcold : client.isCold now = true)
      (hturn : client.turn = some holder) :
      Resumed client task now
        ({ client with
          waiting := client.waiting ++ [task]
          tasks := client.tasks.insert task ⟨.locate key, .queued⟩ }, [])
  /-- A look-up whose turn has come fetches. -/
  | fetches {key : String} (hopen : client.TurnOpen task key now)
      (hcold : client.isCold now = true) (hpause : client.retry.remaining? now = none) :
      Resumed client task now
        ({ client with turn := some task }.beginFetch task (.locate key))
  /-- A look-up whose turn has come passes the turn on. -/
  | passes {key : String} {result : Except FleetError NodeId}
      (hopen : client.TurnOpen task key now) (hanswer : client.answerAtTurn key now = some result) :
      Resumed client task now (andThen client.passTurn (·.finish task (.located result)))
  /-- A look-up without a key, or by a warm copy, is answered at once. -/
  | answers {key : String} {result : Except FleetError NodeId}
      (hget : client.tasks.get? task = some ⟨.locate key, .begun⟩)
      (hresult : key.isEmpty = true ∧
          result = .error (.invalidArgument "block key must not be empty") ∨
        client.isCold now = false ∧ result = client.cache.route key) :
      Resumed client task now (client.finish task (.located result))
  /-- A look-up by a stale copy starts a refresh and is answered at once. -/
  | renews {key : String} (hget : client.tasks.get? task = some ⟨.locate key, .begun⟩)
      (hwarm : client.cache.ring.isEmpty = false) (hflag : client.refreshing = false)
      (hpause : client.retry.remaining? now = none) :
      Resumed client task now
        (andThen (({ client with refreshing := true }.submit .background).1,
          [.start client.nextTask]) (·.finish task (.located (client.cache.route key))))

theorem resumed_takeTurn {client : RegistryClient} {task : Nat} {key : String} {now : Span}
    (hopen : client.TurnOpen task key now) :
    Resumed client task now ({ client with turn := some task }.takeTurn task key now) := by
  -- whose the turn is makes no difference to what a look-up is answered, nor to whom the
  -- turn is passed on to
  obtain ⟨holder, hholder⟩ : ∃ holder : RegistryClient,
      holder = { client with turn := some task } := ⟨_, rfl⟩
  have hsame : holder.answerAtTurn key now = client.answerAtTurn key now := by
    rw [hholder]
    rfl
  cases hanswer : client.answerAtTurn key now with
  | none =>
      obtain ⟨hcold, hpause⟩ := answerAtTurn_eq_none_iff.mp hanswer
      rw [← hholder, takeTurn_of_no_answer (hsame.trans hanswer), hholder]
      exact .fetches hopen hcold hpause
  | some result =>
      have hpass : holder.passTurn = client.passTurn := by
        rw [hholder]
        rfl
      rw [← hholder, takeTurn_of_answer (hsame.trans hanswer), hpass]
      exact .passes hopen hanswer

theorem resumed_beginLocate {client : RegistryClient} {task : Nat} {key : String}
    (hget : client.tasks.get? task = some ⟨.locate key, .begun⟩) (now : Span) :
    Resumed client task now (client.beginLocate task key now) := by
  rw [beginLocate]
  split_ifs with hkey hcold hstale
  · exact .answers hget (Or.inl ⟨hkey, rfl⟩)
  · rw [Bool.not_eq_true] at hkey
    split
    · rename_i hturn
      exact resumed_takeTurn (.free hget hkey hcold hturn)
    · rename_i holder hturn
      exact .queues hget hkey hcold hturn
  · rw [Bool.not_eq_true] at hcold
    rw [startRefresh]
    split_ifs with hbusy
    · exact .answers hget (Or.inr ⟨hcold, rfl⟩)
    · simp only [Bool.or_eq_true, not_or, Bool.not_eq_true, Option.isSome_eq_false_iff,
        Option.isNone_iff_eq_none] at hbusy
      obtain ⟨hflag, hpause⟩ := hbusy
      have hwarm : client.cache.ring.isEmpty = false := by
        simpa [isCold, ClientCache.isCold, hstale] using hcold
      exact .renews hget hwarm hflag hpause
  · rw [Bool.not_eq_true] at hcold
    exact .answers hget (Or.inr ⟨hcold, rfl⟩)

theorem resumed (client : RegistryClient) (task : Nat) (now : Span) :
    Resumed client task now (client.resume task now) := by
  rw [resume]
  split
  · rename_i key hget
    exact resumed_beginLocate hget now
  · rename_i call hlocate hget
    refine .refreshes hget ?_
    rintro key rfl
    exact hlocate key rfl
  · rename_i key hget
    split_ifs with hturn
    · rw [beq_iff_eq] at hturn
      have hclient : ({ client with turn := some task } : RegistryClient) = client := by
        rw [← hturn]
      have hopen : client.TurnOpen task key now := .passed hget hturn
      have hresumed := resumed_takeTurn hopen
      rw [hclient] at hresumed
      exact hresumed
    · refine .still ?_ ?_
      · simp [hget]
      · intro key' _ hhas
        exact hturn (beq_iff_eq.mpr hhas)
  · rename_i hlocate hbegun hqueued
    refine .still ?_ ?_
    · intro call hget
      exact hbegun call hget
    · intro key hget
      exact absurd hget (hqueued key)

/-! ## Ended fetches -/

/-- The calls under way and the turns among them are the same before and after. -/
structure KeepsCalls (before after : RegistryClient) : Prop where
  tasks : after.tasks = before.tasks
  nextTask : after.nextTask = before.nextTask
  turn : after.turn = before.turn
  waiting : after.waiting = before.waiting
  refreshing : after.refreshing = before.refreshing

theorem keepsCalls_conclude (client : RegistryClient) (reply : Except FleetError SnapshotReply)
    (jitter : Jitter) (now : Span) :
    KeepsCalls client (client.conclude reply jitter now).1 := by
  cases reply with
  | error cause => exact ⟨rfl, rfl, rfl, rfl, rfl⟩
  | ok reply =>
      cases reply with
      | unchanged checksum => exact ⟨rfl, rfl, rfl, rfl, rfl⟩
      | full snapshot => exact ⟨rfl, rfl, rfl, rfl, rfl⟩

/-- What a look-up is answered whose fetch has ended. -/
def answerAfterFetch (client : RegistryClient) (key : String) :
    Except FleetError RefreshOutcome → Except FleetError NodeId
  | .error cause =>
    if client.cache.ring.isEmpty then .error (fetchFailure cause) else client.cache.route key
  | .ok _ => client.cache.route key

theorem finishLocate_eq (client : RegistryClient) (task : Nat) (key : String)
    (outcome : Except FleetError RefreshOutcome) :
    client.finishLocate task key outcome =
      client.finish task (.located (client.answerAfterFetch key outcome)) := by
  cases outcome with
  | error cause =>
      rw [finishLocate, answerAfterFetch]
      split_ifs
      · rfl
      · rfl
  | ok outcome => rfl

section Deliver

variable {client : RegistryClient} {task : Nat} (reply : Except FleetError SnapshotReply)
  (jitter : Jitter) (now : Span)

theorem deliver_locate {key : String}
    (hget : client.tasks.get? task = some ⟨.locate key, .fetching⟩) :
    client.deliver task reply jitter now =
      andThen (client.conclude reply jitter now).1.passTurn
        (·.finish task (.located ((client.conclude reply jitter now).1.answerAfterFetch key
          (client.conclude reply jitter now).2))) := by
  have hcache := (keepsCopy_passTurn (client.conclude reply jitter now).1).cache
  rw [deliver, hget]
  simp only [andThen, finishLocate_eq]
  rw [answerAfterFetch.eq_def, answerAfterFetch.eq_def, hcache]

theorem deliver_refresh (hget : client.tasks.get? task = some ⟨.refresh, .fetching⟩) :
    client.deliver task reply jitter now =
      (client.conclude reply jitter now).1.finish task
        (.refreshed (client.conclude reply jitter now).2) := by
  rw [deliver, hget]

theorem deliver_background (hget : client.tasks.get? task = some ⟨.background, .fetching⟩) :
    client.deliver task reply jitter now =
      ({ (client.conclude reply jitter now).1 with refreshing := false } : RegistryClient).finish
        task (.refreshed (client.conclude reply jitter now).2) := by
  rw [deliver, hget]

end Deliver

end RegistryClient
end CacheTier
