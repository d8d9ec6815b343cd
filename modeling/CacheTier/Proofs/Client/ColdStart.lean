import CacheTier.Proofs.Client.Turns
import CacheTier.Proofs.Client.Warm

/-!
# Cold starts

Look-ups that find a client cold share one fetch.  The first fetches, the others wait in
line.  If the fetch brings a snapshot, or fails and a pause follows, whoever gets the turn
in that instant needs no fetch of its own: everybody is answered from the one reply.
-/

namespace CacheTier
namespace RegistryClient

/-! ## Arrivals -/

/-- The look-up that calls a client at an event, with the number that it gets. -/
def caller (client : RegistryClient) : Event → List (Nat × String)
  | .submit (.locate key) => [(client.nextTask, key)]
  | _ => []

/-- The look-ups that call a client at the events of a sequence. -/
def callers : RegistryClient → List Event → List (Nat × String)
  | _, [] => []
  | client, first :: rest => client.caller first ++ callers (client.step first) rest

theorem callers_concat (client : RegistryClient) (events : List Event) (event : Event) :
    client.callers (events ++ [event]) =
      client.callers events ++ (client.run events).caller event := by
  induction events generalizing client with
  | nil => simp [callers, run]
  | cons first rest ih =>
      rw [List.cons_append, callers, callers, ih, List.append_assoc]
      rfl

/-- A look-up of a key calls a client, or a call goes on at a time at which the client is
cold and no pause is running. -/
def Arrival (client : RegistryClient) : Event → Prop
  | .submit call => ∃ key, key.isEmpty = false ∧ call = .locate key
  | .resume _ now => client.isCold now = true ∧ client.retry.remaining? now = none
  | .deliver .. => False

/-- The callers are the calls under way.  One of them, if any, has the turn and fetches. -/
structure Gathered (initial client : RegistryClient) (callers : List (Nat × String)) : Prop where
  orderly : client.Orderly
  copy : KeepsCopy initial client
  retry : client.retry = initial.retry
  distinct : (callers.map Prod.fst).Nodup
  called : ∀ task key, (task, key) ∈ callers ↔
    ∃ stage, client.tasks.get? task = some ⟨.locate key, stage⟩
  located : ∀ task call stage, client.tasks.get? task = some ⟨call, stage⟩ →
    ∃ key, key.isEmpty = false ∧ call = .locate key
  fetching : ∀ task, client.turn = some task →
    standing client.tasks task = some .fetching ∧ client.cache.ring.isEmpty = true

section Gathering

variable {initial client : RegistryClient} {callers : List (Nat × String)}

theorem gathered_of_idle (h : client.Orderly) (hidle : ∀ task, client.tasks.get? task = none) :
    Gathered client client [] where
  orderly := h
  copy := KeepsCopy.refl client
  retry := rfl
  distinct := List.nodup_nil
  called := by simp [hidle]
  located := by simp [hidle]
  fetching := by
    intro task hturn
    have hstands := h.inLine.held task hturn
    simp [standing, hidle] at hstands

theorem Gathered.isCold_eq (h : Gathered initial client callers) (now : Span) :
    client.isCold now = initial.isCold now := by
  rw [isCold, isCold, h.copy.cache, h.copy.config]

theorem Gathered.submit (h : Gathered initial client callers) {key : String}
    (hkey : key.isEmpty = false) :
    Gathered initial (client.submit (.locate key)).1 (callers ++ [(client.nextTask, key)]) := by
  have hnew := h.orderly.get?_nextTask
  have hget : ∀ task, (client.submit (.locate key)).1.tasks.get? task =
      if task = client.nextTask then some ⟨.locate key, .begun⟩ else client.tasks.get? task :=
    fun task => Table.get?_insert _ _ _ _
  refine ⟨h.orderly.submit _, ⟨h.copy.config, h.copy.cache⟩, h.retry, ?_, ?_, ?_, ?_⟩
  · rw [List.map_append, List.nodup_append]
    refine ⟨h.distinct, List.nodup_singleton _, ?_⟩
    intro task htask other hother heq
    obtain ⟨⟨number, key'⟩, hcaller, rfl⟩ := List.mem_map.mp htask
    obtain ⟨stage, hstage⟩ := (h.called number key').mp hcaller
    have hnumber : number = client.nextTask := by simpa using heq.trans (List.mem_singleton.mp hother)
    rw [hnumber, hnew] at hstage
    cases hstage
  · intro task key'
    rw [List.mem_append, h.called, hget]
    split_ifs with htask
    · simp [htask, hnew, eq_comm]
    · simp [htask]
  · intro task call stage hstage
    rw [hget] at hstage
    split_ifs at hstage with htask
    · cases hstage
      exact ⟨key, hkey, rfl⟩
    · exact h.located task call stage hstage
  · intro task hturn
    obtain ⟨hstands, hempty⟩ := h.fetching task hturn
    have hne : task ≠ client.nextTask := by
      rintro rfl
      simp [standing, hnew] at hstands
    refine ⟨?_, hempty⟩
    rw [RegistryClient.submit, standing_insert, Function.update_of_ne hne]
    exact hstands

/-- A call that stands elsewhere now is still the same call. -/
theorem Gathered.called_insert (h : Gathered initial client callers) {task : Nat} {key : String}
    {before : CallStage} (hget : client.tasks.get? task = some ⟨.locate key, before⟩)
    (after : CallStage) (other : Nat) (key' : String) :
    (other, key') ∈ callers ↔
      ∃ stage, (client.tasks.insert task ⟨.locate key, after⟩).get? other =
        some ⟨.locate key', stage⟩ := by
  rw [h.called, Table.get?_insert]
  split_ifs with hother
  · simp [hother, hget]
  · exact Iff.rfl

theorem Gathered.located_insert (h : Gathered initial client callers) {task : Nat} {key : String}
    {before : CallStage} (hget : client.tasks.get? task = some ⟨.locate key, before⟩)
    (after : CallStage) :
    ∀ other call stage, (client.tasks.insert task ⟨.locate key, after⟩).get? other =
      some ⟨call, stage⟩ → ∃ key', key'.isEmpty = false ∧ call = .locate key' := by
  intro other call stage hother
  rw [Table.get?_insert] at hother
  split_ifs at hother
  · cases hother
    exact h.located task (.locate key) before hget
  · exact h.located other call stage hother

theorem Gathered.queue (h : Gathered initial client callers) {task : Nat} {key : String}
    (hget : client.tasks.get? task = some ⟨.locate key, .begun⟩)
    (horderly : RegistryClient.Orderly { client with
      waiting := client.waiting ++ [task]
      tasks := client.tasks.insert task ⟨.locate key, .queued⟩ }) :
    Gathered initial { client with
      waiting := client.waiting ++ [task]
      tasks := client.tasks.insert task ⟨.locate key, .queued⟩ } callers := by
  refine ⟨horderly, ⟨h.copy.config, h.copy.cache⟩, h.retry, h.distinct, h.called_insert hget _,
    h.located_insert hget _, ?_⟩
  intro other hother
  obtain ⟨hstands, hempty⟩ := h.fetching other hother
  have hne : other ≠ task := by
    rintro rfl
    rw [standing_of_begun hget] at hstands
    cases hstands
  refine ⟨?_, hempty⟩
  rw [standing_insert, Function.update_of_ne hne]
  exact hstands

theorem Gathered.fetch (h : Gathered initial client callers) {task : Nat} {key : String}
    (hget : client.tasks.get? task = some ⟨.locate key, .begun⟩)
    (hempty : client.cache.ring.isEmpty = true)
    (horderly : ({ client with turn := some task }.beginFetch task (.locate key)).1.Orderly) :
    Gathered initial ({ client with turn := some task }.beginFetch task (.locate key)).1
      callers := by
  refine ⟨horderly, ⟨h.copy.config, h.copy.cache⟩, h.retry, h.distinct, h.called_insert hget _,
    h.located_insert hget _, ?_⟩
  intro other hother
  cases hother
  refine ⟨?_, hempty⟩
  change standing (client.tasks.insert task _) task = _
  rw [standing_insert, Function.update_self]
  rfl

/-- While look-ups gather, the first to find the turn free fetches, nobody else does, and
nobody is answered. -/
theorem Gathered.step (h : Gathered initial client callers) {event : Event}
    (harrival : initial.Arrival event) :
    Gathered initial (client.step event) (callers ++ client.caller event) ∧
      client.turn.toList ++ ClientDemand.fetchers (client.emitted event) =
        (client.step event).turn.toList ∧
      ClientDemand.answers (client.emitted event) = [] := by
  cases event with
  | submit call =>
      obtain ⟨key, hkey, rfl⟩ := harrival
      exact ⟨h.submit hkey, by simp [emitted, RegistryClient.step, RegistryClient.submit,
        ClientDemand.fetchers], rfl⟩
  | deliver task reply jitter now => exact absurd harrival id
  | resume task now =>
      obtain ⟨hcold, hpause⟩ := harrival
      rw [← h.isCold_eq] at hcold
      rw [← h.retry] at hpause
      have hnone : ∀ key, client.answerAtTurn key now = none :=
        fun key => answerAtTurn_eq_none_iff.mpr ⟨hcold, hpause⟩
      have hempty : client.cache.ring.isEmpty = true := by
        rw [isCold, ClientCache.isCold, Bool.and_eq_true] at hcold
        exact hcold.1
      have hresumed := client.resumed task now
      have horderly := h.orderly.resume task now
      have hcaller : client.caller (.resume task now) = [] := rfl
      rw [RegistryClient.step, emitted, hcaller, List.append_nil]
      generalize client.resume task now = next at hresumed horderly ⊢
      cases hresumed with
      | still _ _ => exact ⟨h, List.append_nil _, rfl⟩
      | refreshes hget hcall =>
          obtain ⟨key, -, rfl⟩ := h.located _ _ _ hget
          exact absurd rfl (hcall key)
      | queues hget _ _ _ =>
          exact ⟨h.queue hget horderly, List.append_nil _, rfl⟩
      | fetches hopen _ _ =>
          cases hopen with
          | passed hget hturn =>
              obtain ⟨hstands, -⟩ := h.fetching task hturn
              rw [standing, hget] at hstands
              cases hstands
          | free hget _ _ hturn =>
              refine ⟨h.fetch hget hempty horderly, ?_, rfl⟩
              rw [hturn]
              rfl
      | @passes key _ _ hanswer =>
          rw [hnone key] at hanswer
          cases hanswer
      | @answers key _ hget hresult =>
          rcases hresult with ⟨hkey, -⟩ | ⟨hwarm, -⟩
          · obtain ⟨key', hkey', hsame⟩ := h.located _ _ _ hget
            cases hsame
            rw [hkey] at hkey'
            cases hkey'
          · rw [hcold] at hwarm
            cases hwarm
      | renews _ hwarm _ _ =>
          rw [hempty] at hwarm
          cases hwarm

theorem Gathered.run (horderly : initial.Orderly) (hidle : ∀ task, initial.tasks.get? task = none)
    (arrivals : List Event) (harrivals : ∀ event ∈ arrivals, initial.Arrival event) :
    Gathered initial (initial.run arrivals) (initial.callers arrivals) ∧
      ClientDemand.fetchers (initial.demands arrivals) = (initial.run arrivals).turn.toList ∧
      ClientDemand.answers (initial.demands arrivals) = [] := by
  have hstart := gathered_of_idle horderly hidle
  -- by the last arrival: the callers so far have gathered, and it joins them
  induction arrivals using List.reverseRecOn with
  | nil =>
      refine ⟨hstart, ?_, rfl⟩
      cases hturn : initial.turn with
      | none => simp [RegistryClient.run, hturn, demands, ClientDemand.fetchers]
      | some task =>
          have hstands := horderly.inLine.held task hturn
          simp [standing, hidle] at hstands
  | append_singleton arrivals event ih =>
      obtain ⟨hearlier, hevent⟩ := List.forall_mem_append.mp harrivals
      obtain ⟨hgathered, hfetchers, hanswers⟩ := ih hearlier
      obtain ⟨hnext, hturn, hsilent⟩ := hgathered.step (hevent event List.mem_cons_self)
      rw [run_concat, callers_concat, demands_concat, ClientDemand.fetchers_append,
        ClientDemand.answers_append, hfetchers, hanswers, hsilent]
      exact ⟨hnext, hturn, rfl⟩

end Gathering

/-! ## Whoever gets the turn -/

/-- Some look-ups stand in line, the first of them has got the turn, and every call has
begun. -/
structure Serving (client : RegistryClient) (queue : List (Nat × String)) : Prop where
  turn : client.turn = (queue.map Prod.fst).head?
  waiting : client.waiting = (queue.map Prod.fst).tail
  queued : ∀ caller ∈ queue, client.tasks.get? caller.1 = some ⟨.locate caller.2, .queued⟩
  distinct : (queue.map Prod.fst).Nodup
  arrived : ∀ task call, client.tasks.get? task ≠ some ⟨call, .begun⟩

section Serving

variable {client : RegistryClient} {queue : List (Nat × String)} {now : Span}

theorem answerAtTurn_congr {client' : RegistryClient} (hcopy : KeepsCopy client client')
    (hretry : client'.retry = client.retry) (key : String) (now : Span) :
    client'.answerAtTurn key now = client.answerAtTurn key now := by
  rw [answerAtTurn, answerAtTurn, isCold, isCold, hcopy.cache, hcopy.config, hretry]

/-- Nothing happens to a call that is resumed before its turn comes. -/
theorem Serving.resume_other (h : client.Serving queue) {task : Nat}
    (hother : client.turn ≠ some task) : client.resume task now = (client, []) := by
  have hresumed := client.resumed task now
  generalize client.resume task now = next at hresumed ⊢
  cases hresumed with
  | still _ _ => rfl
  | refreshes hget _ => exact absurd hget (h.arrived _ _)
  | queues hget _ _ _ => exact absurd hget (h.arrived _ _)
  | fetches hopen _ _ =>
      cases hopen with
      | free hget _ _ _ => exact absurd hget (h.arrived _ _)
      | passed _ hturn => exact absurd hturn hother
  | passes hopen _ =>
      cases hopen with
      | free hget _ _ _ => exact absurd hget (h.arrived _ _)
      | passed _ hturn => exact absurd hturn hother
  | answers hget _ => exact absurd hget (h.arrived _ _)
  | renews hget _ _ _ => exact absurd hget (h.arrived _ _)

/-- Once a look-up that does not wait has passed the turn on, those that wait are served. -/
theorem serving_passTurn {task : Nat} (hwaiting : queue.map Prod.fst = client.waiting)
    (hqueued : ∀ caller ∈ queue,
      caller.1 ≠ task ∧ client.tasks.get? caller.1 = some ⟨.locate caller.2, .queued⟩)
    (hdistinct : client.waiting.Nodup)
    (harrived : ∀ task call, client.tasks.get? task ≠ some ⟨call, .begun⟩)
    (result : ClientResult) :
    (andThen client.passTurn (·.finish task result)).1.Serving queue := by
  obtain ⟨hturn, hrest⟩ := client.passTurn_turn
  rw [← hwaiting] at hturn hrest hdistinct
  simp only [andThen, RegistryClient.finish]
  refine ⟨hturn, hrest, ?_, hdistinct, ?_⟩
  · intro caller hcaller
    obtain ⟨hne, hget⟩ := hqueued caller hcaller
    rw [client.passTurn_tasks.1, Table.get?_erase, if_neg hne]
    exact hget
  · intro other call hget
    rw [client.passTurn_tasks.1, Table.get?_erase] at hget
    split_ifs at hget
    exact harrived other call hget

theorem Serving.tail {first : Nat × String} (h : client.Serving (first :: queue))
    (result : ClientResult) :
    (andThen client.passTurn (·.finish first.1 result)).1.Serving queue := by
  have hrest : client.waiting = queue.map Prod.fst := h.waiting
  have hdistinct := h.distinct
  rw [List.map_cons, List.nodup_cons, ← hrest] at hdistinct
  apply serving_passTurn hrest.symm _ hdistinct.2 h.arrived
  intro caller hcaller
  refine ⟨?_, h.queued caller (List.mem_cons_of_mem first hcaller)⟩
  intro heq
  apply hdistinct.1
  rw [hrest, ← heq]
  exact List.mem_map_of_mem hcaller

theorem Serving.resume_first {first : Nat × String} (h : client.Serving (first :: queue))
    {result : Except FleetError NodeId} (hanswer : client.answerAtTurn first.2 now = some result) :
    client.resume first.1 now =
      andThen client.passTurn (·.finish first.1 (.located result)) := by
  have hturn : client.turn = some first.1 := h.turn
  rw [RegistryClient.resume, h.queued first List.mem_cons_self]
  simp only [hturn, beq_self_eq_true, if_true]
  exact takeTurn_of_answer hanswer first.1

/-- As long as nobody has to fetch, everybody in line is answered when woken in order,
whoever else is woken in between. -/
theorem Serving.demands {answer : String → Except FleetError NodeId}
    (h : client.Serving queue) (hanswer : ∀ key, client.answerAtTurn key now = some (answer key))
    {woken : List Nat} (hwoken : (queue.map Prod.fst).Sublist woken) :
    ClientDemand.fetchers (client.demands (woken.map (.resume · now))) = [] ∧
      ClientDemand.answers (client.demands (woken.map (.resume · now))) =
        queue.map fun caller => (caller.1, .located (answer caller.2)) := by
  induction woken generalizing client queue with
  | nil =>
      rw [List.sublist_nil, List.map_eq_nil_iff] at hwoken
      rw [hwoken]
      exact ⟨rfl, rfl⟩
  | cons task woken ih =>
      rw [List.map_cons, RegistryClient.demands, ClientDemand.fetchers_append,
        ClientDemand.answers_append, emitted, RegistryClient.step]
      -- the first in line leaves it when woken, and anybody else is woken in vain
      cases queue with
      | nil =>
          have hturn : client.turn ≠ some task := by simp [h.turn]
          rw [h.resume_other hturn]
          exact ih h hanswer (List.nil_sublist woken)
      | cons first rest =>
          by_cases hfirst : first.1 = task
          · rw [List.map_cons, hfirst, List.cons_sublist_cons] at hwoken
            have hkeeps : KeepsCopy client
                (andThen client.passTurn (·.finish first.1 (.located (answer first.2)))).1 :=
              (keepsCopy_passTurn client).trans ⟨rfl, rfl⟩
            have hsame := fun key =>
              (answerAtTurn_congr hkeeps client.passTurn_tasks.2.2.2 key now).trans (hanswer key)
            obtain ⟨hfetchers, hanswers⟩ := ih (h.tail (.located (answer first.2))) hsame hwoken
            obtain ⟨hnobody, hsilent, -⟩ := client.passTurn_demands
            rw [← hfirst, h.resume_first (hanswer first.2), hfetchers, hanswers]
            simp only [andThen, ClientDemand.fetchers_append, ClientDemand.answers_append,
              hnobody, hsilent, List.map_cons]
            exact ⟨rfl, rfl⟩
          · have hturn : client.turn ≠ some task := by
              rw [h.turn]
              exact fun hhas => hfirst (Option.some.inj hhas)
            rw [h.resume_other hturn]
            apply ih h hanswer
            rcases List.cons_sublist_cons'.mp hwoken with hlater | ⟨heq, -⟩
            · exact hlater
            · exact absurd heq hfirst

end Serving

/-! ## One reply for all -/

section Shared

variable {initial client : RegistryClient} {callers queue : List (Nat × String)} {first : Nat}

/-- The look-ups that wait, in order, with their keys. -/
structure Lined (client : RegistryClient) (queue : List (Nat × String)) : Prop where
  waiting : queue.map Prod.fst = client.waiting
  queued : ∀ caller ∈ queue, client.tasks.get? caller.1 = some ⟨.locate caller.2, .queued⟩

theorem Lined.mem (h : client.Lined queue) {task : Nat} (hmem : task ∈ client.waiting)
    {key : String} (hget : client.tasks.get? task = some ⟨.locate key, .queued⟩) :
    (task, key) ∈ queue := by
  rw [← h.waiting, List.mem_map] at hmem
  obtain ⟨⟨task', key'⟩, hcaller, rfl⟩ := hmem
  have hsame := h.queued _ hcaller
  rw [hget] at hsame
  cases hsame
  exact hcaller

end Shared

end RegistryClient
end CacheTier
