import CacheTier.Proofs.Client.Steps
import Mathlib.Logic.Function.Basic

/-!
# Turns

While the copy is cold, look-ups take turns: one has the turn, the others wait in the
order in which they came.  In every state that a client can reach, the look-up that has
the turn waits for a reply or is about to go on, nobody waits when nobody has the turn,
and only the look-up that has the turn waits for a reply.
-/

namespace CacheTier

/-! ## Standing in line -/

/-- Where a look-up stands in line: it waits for its turn or has just got it, or it
fetches.  Other calls do not stand in line. -/
def ClientTask.stand? : ClientTask → Option CallStage
  | ⟨.locate _, .queued⟩ => some .queued
  | ⟨.locate _, .fetching⟩ => some .fetching
  | _ => none

theorem ClientTask.stand?_of_ne_locate {call : ClientCall} (hcall : ∀ key, call ≠ .locate key)
    (stage : CallStage) : ClientTask.stand? ⟨call, stage⟩ = none := by
  cases call with
  | locate key => exact absurd rfl (hcall key)
  | refresh => rfl
  | background => rfl

/-- The turn is passed around properly: whoever has it stands in line, nobody else
fetches, the others in line wait, once each, and nobody waits when nobody has it. -/
structure InLine (turn : Option Nat) (waiting : List Nat)
    (standing : Nat → Option CallStage) : Prop where
  held : ∀ task, turn = some task → standing task ≠ none
  alone : ∀ task, standing task = some .fetching → turn = some task
  lined : ∀ task, task ∈ waiting ↔ standing task = some .queued ∧ turn ≠ some task
  nodup : waiting.Nodup
  handed : turn = none → waiting = []

namespace InLine

variable {turn : Option Nat} {waiting : List Nat} {standing : Nat → Option CallStage}
  {task : Nat}

theorem not_mem_waiting (h : InLine turn waiting standing)
    (hfree : ∀ holder, turn = some holder → holder = task) : task ∉ waiting := by
  cases hturn : turn with
  | none => simp [h.handed hturn]
  | some holder =>
      intro hmem
      rw [hfree holder hturn] at hturn
      exact ((h.lined task).mp hmem).2 hturn

/-- A look-up comes to the end of the line. -/
theorem queue (h : InLine turn waiting standing) {holder : Nat} (hturn : turn = some holder)
    (hnew : standing task = none) :
    InLine turn (waiting ++ [task]) (Function.update standing task (some .queued)) := by
  have hother : turn ≠ some task := fun hhas => h.held task hhas hnew
  constructor
  · intro other hhas
    have hne : other ≠ task := fun heq => hother (heq ▸ hhas)
    rw [Function.update_of_ne hne]
    exact h.held other hhas
  · intro other hfetching
    by_cases heq : other = task
    · simp [heq] at hfetching
    · rw [Function.update_of_ne heq] at hfetching
      exact h.alone other hfetching
  · intro other
    by_cases heq : other = task
    · simp [heq, hother]
    · simp [heq, h.lined]
  · rw [List.nodup_append]
    refine ⟨h.nodup, List.nodup_singleton task, ?_⟩
    intro other hmem last hlast heq
    have hqueued := ((h.lined other).mp hmem).1
    rw [heq, List.mem_singleton.mp hlast, hnew] at hqueued
    cases hqueued
  · intro hnone
    rw [hturn] at hnone
    cases hnone

/-- A look-up for which the turn is free takes it and fetches. -/
theorem take (h : InLine turn waiting standing)
    (hfree : ∀ holder, turn = some holder → holder = task) :
    InLine (some task) waiting (Function.update standing task (some .fetching)) := by
  have hout : task ∉ waiting := h.not_mem_waiting hfree
  constructor
  · intro other hhas
    rw [← Option.some.inj hhas, Function.update_self]
    exact Option.some_ne_none _
  · intro other hfetching
    by_cases heq : other = task
    · rw [heq]
    · rw [Function.update_of_ne heq] at hfetching
      exact absurd (hfree other (h.alone other hfetching)) heq
  · intro other
    by_cases heq : other = task
    · simp [heq, hout]
    · have hnot : turn ≠ some other := fun hhas => heq (hfree other hhas)
      have hne : task ≠ other := fun hsame => heq hsame.symm
      simp [heq, h.lined, hnot, hne]
  · exact h.nodup
  · intro hnone
    cases hnone

/-- A look-up for which the turn is free leaves, and the turn goes to whoever waits
longest. -/
theorem pass (h : InLine turn waiting standing)
    (hfree : ∀ holder, turn = some holder → holder = task) :
    InLine waiting.head? waiting.tail (Function.update standing task none) := by
  have hout : task ∉ waiting := h.not_mem_waiting hfree
  have hqueued : ∀ other ∈ waiting, other ≠ task ∧ standing other = some .queued := by
    intro other hmem
    exact ⟨fun heq => hout (heq ▸ hmem), ((h.lined other).mp hmem).1⟩
  constructor
  · intro next hnext
    obtain ⟨hne, hstands⟩ := hqueued next (List.mem_of_mem_head? hnext)
    rw [Function.update_of_ne hne, hstands]
    exact Option.some_ne_none _
  · intro other hfetching
    by_cases heq : other = task
    · simp [heq] at hfetching
    · rw [Function.update_of_ne heq] at hfetching
      exact absurd (hfree other (h.alone other hfetching)) heq
  · intro other
    by_cases heq : other = task
    · have hrest : task ∉ waiting.tail := fun hmem => hout (List.mem_of_mem_tail hmem)
      simp [heq, hrest]
    · have hnot : turn ≠ some other := fun hhas => heq (hfree other hhas)
      have hmem : other ∈ waiting ↔ standing other = some .queued := by simp [h.lined, hnot]
      rw [Function.update_of_ne heq, ← hmem]
      -- nobody waits twice, so whoever gets the turn waits no longer
      have hnodup := h.nodup
      cases waiting with
      | nil => simp
      | cons next rest =>
          rw [List.nodup_cons] at hnodup
          simp only [List.tail_cons, List.head?_cons, List.mem_cons, ne_eq, Option.some_inj]
          constructor
          · intro hrest
            exact ⟨Or.inr hrest, fun hsame => hnodup.1 (hsame ▸ hrest)⟩
          · rintro ⟨rfl | hrest, hne⟩
            · exact absurd rfl hne
            · exact hrest
  · exact h.nodup.sublist (List.tail_sublist waiting)
  · intro hnone
    rw [List.head?_eq_none_iff.mp hnone, List.tail_nil]

end InLine

namespace RegistryClient

/-! ## Calls under way -/

/-- Where the calls of a table stand in line. -/
def standing (tasks : Table Nat ClientTask) (task : Nat) : Option CallStage :=
  (tasks.get? task).bind ClientTask.stand?

theorem standing_insert (tasks : Table Nat ClientTask) (task : Nat) (entry : ClientTask) :
    standing (tasks.insert task entry) =
      Function.update (standing tasks) task entry.stand? := by
  funext other
  rw [standing, Table.get?_insert, Function.update_apply]
  split_ifs
  · rfl
  · rfl

theorem standing_erase (tasks : Table Nat ClientTask) (task : Nat) :
    standing (tasks.erase task) = Function.update (standing tasks) task none := by
  funext other
  rw [standing, Table.get?_erase, Function.update_apply]
  split_ifs
  · rfl
  · rfl

theorem standing_eq_some_iff {tasks : Table Nat ClientTask} {task : Nat} {stage : CallStage}
    (hstage : stage ≠ .begun) :
    standing tasks task = some stage ↔ ∃ key, tasks.get? task = some ⟨.locate key, stage⟩ := by
  rw [standing]
  constructor
  · intro h
    obtain ⟨⟨call, stage'⟩, hget, hstand⟩ := Option.bind_eq_some_iff.mp h
    cases call with
    | locate key =>
        cases stage' with
        | begun => cases hstand
        | queued =>
            cases hstand
            exact ⟨key, hget⟩
        | fetching =>
            cases hstand
            exact ⟨key, hget⟩
    | refresh => cases hstand
    | background => cases hstand
  · rintro ⟨key, hget⟩
    rw [hget]
    cases stage with
    | begun => exact absurd rfl hstage
    | queued => rfl
    | fetching => rfl

/-- The calls of a client are numbered, and the turn is passed around properly. -/
structure Orderly (client : RegistryClient) : Prop where
  numbered : ∀ task entry, client.tasks.get? task = some entry → task < client.nextTask
  inLine : InLine client.turn client.waiting (standing client.tasks)

theorem orderly_create (config : ClientConfig) : (create config).Orderly where
  numbered := by simp [create]
  inLine := by
    constructor
    · simp [create]
    · simp [create, standing]
    · simp [create, standing]
    · exact List.nodup_nil
    · exact fun _ => rfl

theorem passTurn_turn (client : RegistryClient) :
    client.passTurn.1.turn = client.waiting.head? ∧
      client.passTurn.1.waiting = client.waiting.tail := by
  rw [passTurn]
  split
  · rename_i hnobody
    simp [hnobody]
  · rename_i next rest hnext
    simp [hnext]

theorem passTurn_tasks (client : RegistryClient) :
    client.passTurn.1.tasks = client.tasks ∧
      client.passTurn.1.nextTask = client.nextTask ∧
      client.passTurn.1.refreshing = client.refreshing ∧
      client.passTurn.1.retry = client.retry := by
  rw [passTurn]
  split
  · exact ⟨rfl, rfl, rfl, rfl⟩
  · exact ⟨rfl, rfl, rfl, rfl⟩

/-- Passing the turn on starts nothing and answers nobody. -/
theorem passTurn_demands (client : RegistryClient) :
    ClientDemand.fetchers client.passTurn.2 = [] ∧
      ClientDemand.answers client.passTurn.2 = [] ∧
      ClientDemand.started client.passTurn.2 = [] := by
  rw [passTurn]
  split
  · exact ⟨rfl, rfl, rfl⟩
  · exact ⟨rfl, rfl, rfl⟩

/-- The end of its fetch ends a call, and with it the background refresh if it was one. -/
theorem deliver_calls {client : RegistryClient} {task : Nat} {call : ClientCall}
    (hget : client.tasks.get? task = some ⟨call, .fetching⟩)
    (reply : Except FleetError SnapshotReply) (jitter : Jitter) (now : Span) :
    let ended := (client.deliver task reply jitter now).1
    ended.tasks = client.tasks.erase task ∧
      ended.refreshing = (if call = .background then false else client.refreshing) ∧
      ended.retry = (client.conclude reply jitter now).1.retry := by
  intro ended
  have hkeeps := client.keepsCalls_conclude reply jitter now
  rw [← hkeeps.tasks, ← hkeeps.refreshing]
  cases call with
  | locate key =>
      obtain ⟨htasks, -, hmark, hretry⟩ := (client.conclude reply jitter now).1.passTurn_tasks
      have hended : ended = _ := congrArg Prod.fst (deliver_locate reply jitter now hget)
      rw [hended, ← htasks, ← hmark]
      exact ⟨rfl, rfl, hretry⟩
  | refresh =>
      have hended : ended = _ := congrArg Prod.fst (deliver_refresh reply jitter now hget)
      rw [hended]
      exact ⟨rfl, rfl, rfl⟩
  | background =>
      have hended : ended = _ := congrArg Prod.fst (deliver_background reply jitter now hget)
      rw [hended]
      exact ⟨rfl, rfl, rfl⟩

section Steps

variable {client : RegistryClient} {task : Nat}

theorem Orderly.get?_nextTask (h : client.Orderly) :
    client.tasks.get? client.nextTask = none := by
  by_contra hsome
  obtain ⟨entry, hget⟩ := Option.ne_none_iff_exists'.mp hsome
  exact Nat.lt_irrefl _ (h.numbered _ entry hget)

theorem Orderly.congr {client' : RegistryClient} (h : client.Orderly)
    (hkeeps : KeepsCalls client client') : client'.Orderly where
  numbered := by
    rw [hkeeps.tasks, hkeeps.nextTask]
    exact h.numbered
  inLine := by
    rw [hkeeps.tasks, hkeeps.turn, hkeeps.waiting]
    exact h.inLine

theorem standing_of_begun {call : ClientCall}
    (hget : client.tasks.get? task = some ⟨call, .begun⟩) : standing client.tasks task = none := by
  rw [standing, hget]
  cases call with
  | locate key => rfl
  | refresh => rfl
  | background => rfl

theorem Orderly.submit (h : client.Orderly) (call : ClientCall) :
    (client.submit call).1.Orderly where
  numbered := by
    have hlater : ∀ task entry, client.tasks.get? task = some entry →
        task < client.nextTask + 1 := by
      intro task entry hget
      exact Nat.lt_succ_of_lt (h.numbered task entry hget)
    exact Table.forall_get?_insert hlater (Nat.lt_succ_self _)
  inLine := by
    have hnew : standing client.tasks client.nextTask = none := by
      rw [standing, h.get?_nextTask, Option.bind_none]
    have hstand : ClientTask.stand? ⟨call, .begun⟩ = none := by
      cases call with
      | locate key => rfl
      | refresh => rfl
      | background => rfl
    have hsame : standing (client.submit call).1.tasks = standing client.tasks := by
      rw [RegistryClient.submit, standing_insert, hstand, ← hnew, Function.update_eq_self]
    rw [hsame]
    exact h.inLine

/-- A call that does not stand in line ends. -/
theorem Orderly.finish (h : client.Orderly) (haside : standing client.tasks task = none)
    (result : ClientResult) : (client.finish task result).1.Orderly where
  numbered := Table.forall_get?_erase h.numbered task
  inLine := by
    have hsame : standing (client.finish task result).1.tasks = standing client.tasks := by
      rw [RegistryClient.finish, standing_erase, ← haside, Function.update_eq_self]
    rw [hsame]
    exact h.inLine

/-- A call for which the turn is free passes it on and ends. -/
theorem Orderly.passTurn (h : client.Orderly)
    (hfree : ∀ holder, client.turn = some holder → holder = task) (result : ClientResult) :
    (andThen client.passTurn (·.finish task result)).1.Orderly where
  numbered := by
    obtain ⟨htasks, hnext, -⟩ := client.passTurn_tasks
    simp only [andThen, RegistryClient.finish]
    rw [htasks, hnext]
    exact Table.forall_get?_erase h.numbered task
  inLine := by
    obtain ⟨hturn, hwaiting⟩ := client.passTurn_turn
    simp only [andThen, RegistryClient.finish]
    rw [hturn, hwaiting, client.passTurn_tasks.1, standing_erase]
    exact h.inLine.pass hfree

theorem TurnOpen.holder_eq {key : String} {now : Span} (h : client.TurnOpen task key now) :
    ∀ holder, client.turn = some holder → holder = task := by
  intro holder hholder
  cases h with
  | free _ _ _ hturn =>
      rw [hturn] at hholder
      cases hholder
  | passed _ hturn =>
      rw [hturn] at hholder
      exact (Option.some.inj hholder).symm

theorem TurnOpen.exists_get? {key : String} {now : Span} (h : client.TurnOpen task key now) :
    ∃ stage, client.tasks.get? task = some ⟨.locate key, stage⟩ := by
  cases h with
  | free hget _ _ _ => exact ⟨_, hget⟩
  | passed hget _ => exact ⟨_, hget⟩

theorem Orderly.resume (h : client.Orderly) (task : Nat) (now : Span) :
    (client.resume task now).1.Orderly := by
  have hresumed := client.resumed task now
  generalize client.resume task now = next at hresumed ⊢
  cases hresumed with
  | still _ _ => exact h
  | refreshes hget hcall =>
      constructor
      · exact Table.forall_get?_insert h.numbered (h.numbered _ _ hget)
      · change InLine client.turn client.waiting (standing (client.tasks.insert task _))
        rw [standing_insert, ClientTask.stand?_of_ne_locate hcall, ← standing_of_begun hget,
          Function.update_eq_self]
        exact h.inLine
  | queues hget hkey hcold hturn =>
      constructor
      · exact Table.forall_get?_insert h.numbered (h.numbered _ _ hget)
      · change InLine client.turn (client.waiting ++ [task])
          (standing (client.tasks.insert task _))
        rw [standing_insert]
        exact h.inLine.queue hturn (standing_of_begun hget)
  | fetches hopen hcold hpause =>
      constructor
      · obtain ⟨stage, hget⟩ := hopen.exists_get?
        exact Table.forall_get?_insert h.numbered (h.numbered _ _ hget)
      · change InLine (some task) client.waiting (standing (client.tasks.insert task _))
        rw [standing_insert]
        exact h.inLine.take hopen.holder_eq
  | passes hopen hanswer => exact h.passTurn hopen.holder_eq _
  | answers hget hresult => exact h.finish (standing_of_begun hget) _
  | @renews key hget hwarm hflag hpause =>
      have hstarted : ({ client with refreshing := true } : RegistryClient).Orderly :=
        ⟨h.numbered, h.inLine⟩
      have hne : task ≠ client.nextTask := Nat.ne_of_lt (h.numbered _ _ hget)
      have haside : standing
          (({ client with refreshing := true } : RegistryClient).submit .background).1.tasks
          task = none := by
        rw [RegistryClient.submit, standing_insert, Function.update_of_ne hne]
        exact standing_of_begun hget
      exact (hstarted.submit .background).finish haside (.located (client.cache.route key))

theorem Orderly.deliver (h : client.Orderly) (task : Nat)
    (reply : Except FleetError SnapshotReply) (jitter : Jitter) (now : Span) :
    (client.deliver task reply jitter now).1.Orderly := by
  have hkeeps := client.keepsCalls_conclude reply jitter now
  have hended := h.congr hkeeps
  by_cases hwaits : ∃ call, client.tasks.get? task = some ⟨call, .fetching⟩
  · obtain ⟨call, hget⟩ := hwaits
    cases call with
    | locate key =>
        rw [deliver_locate reply jitter now hget]
        apply hended.passTurn
        -- only the look-up that has the turn can have been fetching
        have hturn : client.turn = some task :=
          h.inLine.alone task ((standing_eq_some_iff (by decide)).mpr ⟨key, hget⟩)
        intro holder hholder
        rw [hkeeps.turn, hturn] at hholder
        exact (Option.some.inj hholder).symm
    | refresh =>
        rw [deliver_refresh reply jitter now hget]
        apply hended.finish
        rw [hkeeps.tasks, standing, hget]
        rfl
    | background =>
        rw [deliver_background reply jitter now hget]
        have hreset : ({ (client.conclude reply jitter now).1 with refreshing := false } :
            RegistryClient).Orderly := ⟨hended.numbered, hended.inLine⟩
        apply hreset.finish
        rw [hkeeps.tasks, standing, hget]
        rfl
  · have hidle : ∀ call, client.tasks.get? task ≠ some ⟨call, .fetching⟩ := by
      intro call hget
      exact hwaits ⟨call, hget⟩
    rw [deliver_of_not_fetching hidle]
    exact h

theorem Orderly.step (h : client.Orderly) (event : Event) : (client.step event).Orderly := by
  cases event with
  | submit call => exact h.submit call
  | resume task now => exact h.resume task now
  | deliver task reply jitter now => exact h.deliver task reply jitter now

theorem Orderly.run (h : client.Orderly) (events : List Event) : (client.run events).Orderly :=
  run_induction Orderly h fun _ event _ horderly => horderly.step event

/-- At most one look-up waits for a reply. -/
theorem Orderly.eq_of_fetching (h : client.Orderly) {other : Nat} {key key' : String}
    (hget : client.tasks.get? task = some ⟨.locate key, .fetching⟩)
    (hget' : client.tasks.get? other = some ⟨.locate key', .fetching⟩) : task = other := by
  have hturn := h.inLine.alone task ((standing_eq_some_iff (by decide)).mpr ⟨key, hget⟩)
  have hturn' := h.inLine.alone other ((standing_eq_some_iff (by decide)).mpr ⟨key', hget'⟩)
  rw [hturn] at hturn'
  exact Option.some.inj hturn'

end Steps

end RegistryClient
end CacheTier
