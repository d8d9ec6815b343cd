import CacheTier.Proofs.Registry.Checksum
import CacheTier.Proofs.Registry.Feed
import CacheTier.Proofs.Registry.Steps

/-!
# The events tell the membership

A registry publishes what happens to its nodes.  Whoever hears all of it from the start
can keep the members with their weights without asking the registry: it enters a node
that joins, takes out a node that expires or is removed, and leaves its book alone at
every other event.  This file shows that the book is right after every operation.
-/

namespace CacheTier

/-! ## Keeping the book -/

namespace RegistryEvent

/-- The members and their weights after an event, told from those before it. -/
def replay (weights : NodeId → Option Float) : RegistryEvent → NodeId → Option Float
  | joined id weight => Function.update weights id (some weight)
  | expired id _ => Function.update weights id none
  | removed id => Function.update weights id none
  | updated _ => weights
  | staleIgnored .. => weights

/-- A node joins that is not a member, and every other event is about a member. -/
def Admissible (weights : NodeId → Option Float) (event : RegistryEvent) : Prop :=
  match event with
  | joined id _ => weights id = none
  | _ => weights event.nodeId ≠ none

/-- Each of some events is admissible when it comes. -/
def InOrder (weights : NodeId → Option Float) : List RegistryEvent → Prop
  | [] => True
  | event :: rest => event.Admissible weights ∧ InOrder (event.replay weights) rest

variable {weights : NodeId → Option Float} {events : List RegistryEvent}

theorem inOrder_append {later : List RegistryEvent} :
    InOrder weights (events ++ later) ↔
      InOrder weights events ∧ InOrder (events.foldl replay weights) later := by
  induction events generalizing weights with
  | nil => simp [InOrder]
  | cons event rest ih => simp only [List.cons_append, InOrder, ih, List.foldl_cons, and_assoc]

theorem InOrder.admissible (h : InOrder weights events) {before after : List RegistryEvent}
    {event : RegistryEvent} (hsplit : events = before ++ event :: after) :
    event.Admissible (before.foldl replay weights) := by
  rw [hsplit, inOrder_append] at h
  exact h.2.1

/-- Events that change no membership leave the book alone. -/
theorem foldl_replay_of_no_change (h : ∀ event ∈ events, event.isMembershipChange = false) :
    events.foldl replay weights = weights := by
  induction events with
  | nil => rfl
  | cons event rest ih =>
      have hsame : event.replay weights = weights := by
        have hevent := h event List.mem_cons_self
        cases event with
        | joined id weight => simp [isMembershipChange] at hevent
        | expired id idle => simp [isMembershipChange] at hevent
        | removed id => simp [isMembershipChange] at hevent
        | updated id => rfl
        | staleIgnored id reported last => rfl
      rw [List.foldl_cons, hsame]
      exact ih fun event hevent => h event (List.mem_cons_of_mem _ hevent)

end RegistryEvent

namespace Registry

open RegistryEvent

/-! ## What is published -/

/-- The event of a member that a sweep expires. -/
def expiry (now : Instant) (record : NodeRecord) : RegistryEvent :=
  .expired record.id (Int64.ofInt (record.idleSeconds now))

/-- The events that a call publishes. -/
def emits (registry : Registry) : Call → List RegistryEvent
  | .pulse id report =>
    if id.isEmpty then []
    else
      match registry.get? id with
      | none =>
        if registry.joinPanics id report then [] else [.joined id (registry.joinWeight report)]
      | some record =>
        if report.reportedAt < record.lastUpdate then
          [.staleIgnored id report.reportedAt record.lastUpdate]
        else [.updated id]
  | .sweep now timeout => (registry.expiredAt now timeout).map (expiry now)
  | .remove id => if registry.contains id then [.removed id] else []

/-- The weights of the members. -/
def priority? (registry : Registry) (id : NodeId) : Option Float :=
  (registry.get? id).map NodeRecord.priority

variable {registry : Registry} {id : NodeId} {report : CapacityReport}

theorem emits_pulse_of_isEmpty (hname : id.isEmpty = true) :
    registry.emits (.pulse id report) = [] := by
  rw [emits, if_pos hname]

theorem emits_pulse_of_panics (hname : id.isEmpty = false) (hnew : registry.get? id = none)
    (hpanics : registry.joinPanics id report = true) :
    registry.emits (.pulse id report) = [] := by
  simp [emits, hname, hnew, hpanics]

theorem emits_pulse_of_listed (hname : id.isEmpty = false) (hnew : registry.get? id = none)
    (hlisted : registry.joinPanics id report = false) :
    registry.emits (.pulse id report) = [.joined id (registry.joinWeight report)] := by
  simp [emits, hname, hnew, hlisted]

theorem emits_pulse_of_known {record : NodeRecord} (hname : id.isEmpty = false)
    (hknown : registry.get? id = some record) :
    registry.emits (.pulse id report) =
      if report.reportedAt < record.lastUpdate then
        [.staleIgnored id report.reportedAt record.lastUpdate]
      else [.updated id] := by
  simp [emits, hname, hknown]

/-! ## The book after one call -/

/-- The events go out on the feed, each in its order, and take the book from one registry
to the other. -/
structure Tells (before : Registry) (events : List RegistryEvent) (after : Registry) :
    Prop where
  feed_eq : after.feed = before.feed.sendAll events
  replayed : events.foldl replay before.priority? = after.priority?
  inOrder : InOrder before.priority? events

theorem Tells.append {before between after : Registry} {earlier later : List RegistryEvent}
    (h : Tells before earlier between) (h' : Tells between later after) :
    Tells before (earlier ++ later) after where
  feed_eq := by rw [h'.feed_eq, h.feed_eq, Feed.sendAll_append]
  replayed := by rw [List.foldl_append, h.replayed, h'.replayed]
  inOrder := inOrder_append.mpr ⟨h.inOrder, h.replayed ▸ h'.inOrder⟩

theorem priority?_ne_none_iff : registry.priority? id ≠ none ↔ registry.contains id = true := by
  rw [priority?, ne_eq, Option.map_eq_none_iff, ← ne_eq, Option.ne_none_iff_isSome]
  exact Iff.rfl

theorem priority?_ne_none_of_get? {record : NodeRecord}
    (hknown : registry.get? id = some record) : registry.priority? id ≠ none := by
  rw [priority?, hknown]
  exact Option.some_ne_none _

theorem priority?_join (registry : Registry) (id : NodeId) (report : CapacityReport) :
    (registry.countPulse.join id report).priority? =
      Function.update registry.priority? id (some (registry.joinWeight report)) := by
  funext k
  have hget := Table.get?_insert registry.nodes id k
    (.ofReport id report (registry.joinWeight report))
  rw [Function.update_apply]
  refine (congrArg (Option.map NodeRecord.priority) hget).trans ?_
  split_ifs
  · rfl
  · rfl

theorem priority?_renew {record : NodeRecord} (hknown : registry.get? id = some record)
    (report : CapacityReport) :
    (registry.countPulse.renew record id report).priority? = registry.priority? := by
  funext k
  have hget := Table.get?_insert registry.nodes id k (record.apply report)
  refine (congrArg (Option.map NodeRecord.priority) hget).trans ?_
  split_ifs with hk
  · rw [hk, priority?, hknown]
    rfl
  · rfl

theorem tells_pulse (registry : Registry) (id : NodeId) (report : CapacityReport) :
    Tells registry (registry.emits (.pulse id report)) (registry.pulse id report).1 := by
  have hpulsed := registry.pulsed id report
  generalize registry.pulse id report = answer at hpulsed ⊢
  cases hpulsed with
  | refused hname =>
      rw [emits_pulse_of_isEmpty hname]
      exact ⟨rfl, rfl, trivial⟩
  | panics hname hnew hpanics =>
      rw [emits_pulse_of_panics hname hnew hpanics]
      exact ⟨rfl, rfl, trivial⟩
  | joins hname hnew hlisted =>
      have hfree : registry.priority? id = none := by rw [priority?, hnew, Option.map_none]
      rw [emits_pulse_of_listed hname hnew hlisted]
      exact ⟨rfl, (registry.priority?_join id report).symm, hfree, trivial⟩
  | renews hname hknown hcurrent =>
      rw [emits_pulse_of_known hname hknown, if_neg hcurrent]
      exact ⟨rfl, (priority?_renew hknown report).symm, priority?_ne_none_of_get? hknown, trivial⟩
  | ignores hname hknown hstale =>
      rw [emits_pulse_of_known hname hknown, if_pos hstale]
      exact ⟨rfl, rfl, priority?_ne_none_of_get? hknown, trivial⟩

theorem foldl_replay_expiry (weights : NodeId → Option Float) (now : Instant)
    (records : List NodeRecord) (k : NodeId) :
    (records.map (expiry now)).foldl replay weights k =
      if k ∈ records.map NodeRecord.id then none else weights k := by
  induction records generalizing weights with
  | nil => simp
  | cons record rest ih =>
      rw [List.map_cons, List.foldl_cons, ih, expiry, replay]
      by_cases hk : k = record.id
      · simp [hk]
      · simp [hk]

/-- Members that expire one after another are members until their turn comes. -/
theorem inOrder_expiry {weights : NodeId → Option Float} (now : Instant)
    {records : List NodeRecord} (hdistinct : (records.map NodeRecord.id).Nodup)
    (hmember : ∀ record ∈ records, weights record.id ≠ none) :
    InOrder weights (records.map (expiry now)) := by
  induction records generalizing weights with
  | nil => trivial
  | cons record rest ih =>
      obtain ⟨hnew, hrest⟩ := List.nodup_cons.mp hdistinct
      refine ⟨hmember record List.mem_cons_self, ih hrest ?_⟩
      intro other hother
      have hne : other.id ≠ record.id := by
        intro heq
        exact hnew (heq ▸ List.mem_map_of_mem hother)
      rw [expiry, replay, Function.update_of_ne hne]
      exact hmember other (List.mem_cons_of_mem _ hother)

theorem Coherent.tells_sweep (h : registry.Coherent) (now : Instant) (timeout : Span) :
    Tells registry (registry.emits (.sweep now timeout)) (registry.sweep now timeout).1 where
  feed_eq := by
    rw [emits, Registry.sweep]
    split
    · next hnone =>
        rw [hnone]
        rfl
    · rw [← feed_foldl_drop registry ((registry.expiredAt now timeout).map NodeRecord.id)]
      rfl
  replayed := by
    funext k
    rw [emits, foldl_replay_expiry, priority?, priority?, get?_sweep, snd_sweep]
    split_ifs
    · rfl
    · rfl
  inOrder := by
    apply inOrder_expiry now (h.nodup_expiredAt now timeout)
    intro record hrecord
    exact priority?_ne_none_of_get? (h.get?_of_mem_expiredAt hrecord)

theorem tells_remove (registry : Registry) (id : NodeId) :
    Tells registry (registry.emits (.remove id)) (registry.remove id).1 := by
  have hafter : (registry.remove id).1.priority? =
      Function.update registry.priority? id none := by
    funext k
    rw [priority?, get?_remove, Function.update_apply]
    split_ifs
    · rfl
    · rfl
  rw [emits]
  split_ifs with hin
  · refine ⟨?_, hafter.symm, priority?_ne_none_iff.mpr hin, trivial⟩
    rw [remove, if_pos hin]
    rfl
  · rw [remove, if_neg hin]
    exact ⟨rfl, rfl, trivial⟩

/-- The book that is right before a call is right after it. -/
theorem Coherent.tells_call (h : registry.Coherent) (call : Call) :
    Tells registry (registry.emits call) (registry.call call) := by
  cases call with
  | pulse id report => exact registry.tells_pulse id report
  | sweep now timeout => exact h.tells_sweep now timeout
  | remove id => exact registry.tells_remove id

/-! ## Which calls publish a change -/

/-- The node of an event that changes the membership was a member before the call or is
one after it, and not both. -/
theorem Coherent.contains_ne_of_change (h : registry.Coherent) {call : Call}
    {event : RegistryEvent} (hevent : event ∈ registry.emits call)
    (hchange : event.isMembershipChange = true) :
    registry.contains event.nodeId ≠ (registry.call call).contains event.nodeId := by
  cases call with
  | pulse id report =>
      have hpulsed := registry.pulsed id report
      rw [Registry.call]
      generalize registry.pulse id report = answer at hpulsed ⊢
      cases hpulsed with
      | refused hname => simp [emits_pulse_of_isEmpty hname] at hevent
      | panics hname hnew hpanics => simp [emits_pulse_of_panics hname hnew hpanics] at hevent
      | joins hname hnew hlisted =>
          rw [emits_pulse_of_listed hname hnew hlisted, List.mem_singleton] at hevent
          have hbefore : registry.contains id = false := by simp [contains_eq_isSome, hnew]
          have hafter : (registry.countPulse.join id report).contains id = true :=
            Table.contains_insert_iff.mpr (Or.inl rfl)
          rw [hevent, nodeId, hbefore, hafter]
          exact Bool.false_ne_true
      | renews hname hknown hcurrent =>
          rw [emits_pulse_of_known hname hknown, if_neg hcurrent, List.mem_singleton] at hevent
          rw [hevent] at hchange
          cases hchange
      | ignores hname hknown hstale =>
          rw [emits_pulse_of_known hname hknown, if_pos hstale, List.mem_singleton] at hevent
          rw [hevent] at hchange
          cases hchange
  | sweep now timeout =>
      obtain ⟨record, hrecord, rfl⟩ := List.mem_map.mp hevent
      have hget : registry.get? record.id = some record := h.get?_of_mem_expiredAt hrecord
      have hafter : (registry.sweep now timeout).1.get? record.id = none := by
        rw [get?_sweep, snd_sweep, if_pos (List.mem_map_of_mem hrecord)]
      rw [expiry, nodeId, Registry.call, contains_eq_isSome, contains_eq_isSome, hget, hafter]
      exact Bool.noConfusion
  | remove id =>
      rw [emits] at hevent
      split_ifs at hevent with hin
      · have hafter : (registry.remove id).1.get? id = none := by
          rw [get?_remove, if_pos rfl]
        rw [List.mem_singleton.mp hevent, nodeId, Registry.call, hin, contains_eq_isSome, hafter]
        exact Bool.noConfusion
      · simp at hevent

/-- A call publishes a change of the membership exactly when it makes one. -/
theorem Coherent.exists_change_iff (h : registry.Coherent) (call : Call) :
    (∃ event ∈ registry.emits call, event.isMembershipChange = true) ↔
      ¬SameMembers registry (registry.call call) := by
  constructor
  · rintro ⟨event, hevent, hchange⟩ hsame
    exact h.contains_ne_of_change hevent hchange (hsame event.nodeId)
  · intro hdiffer
    by_contra hnone
    have hquiet : ∀ event ∈ registry.emits call, event.isMembershipChange = false := by
      intro event hevent
      rw [Bool.eq_false_iff]
      exact fun hchange => hnone ⟨event, hevent, hchange⟩
    apply hdiffer
    intro id
    rw [Bool.eq_iff_iff, ← priority?_ne_none_iff, ← priority?_ne_none_iff,
      ← (h.tells_call call).replayed, foldl_replay_of_no_change hquiet]

theorem emits_of_failure {failure : PulseFailure}
    (hfailed : (registry.pulse id report).2 = .error failure) :
    registry.emits (.pulse id report) = [] := by
  have hpulsed := registry.pulsed id report
  generalize registry.pulse id report = answer at hpulsed hfailed
  cases hpulsed with
  | refused hname => exact emits_pulse_of_isEmpty hname
  | panics hname hnew hpanics => exact emits_pulse_of_panics hname hnew hpanics
  | joins _ _ _ => cases hfailed
  | renews _ _ _ => cases hfailed
  | ignores _ _ _ => cases hfailed

theorem emits_of_idle_sweep {now : Instant} {timeout : Span}
    (hidle : (registry.sweep now timeout).2 = []) :
    registry.emits (.sweep now timeout) = [] := by
  rw [snd_sweep, List.map_eq_nil_iff] at hidle
  rw [emits, hidle, List.map_nil]

theorem emits_of_idle_remove (hidle : (registry.remove id).2 = false) :
    registry.emits (.remove id) = [] := by
  rw [remove] at hidle
  split_ifs at hidle with hin
  rw [emits, if_neg hin]

/-! ## Runs -/

/-- Something done with a registry: a call, or a question, whose answer is a function of
the registry and leaves it as it is. -/
inductive Operation where
  | call (call : Call)
  | question

/-- The registry after an operation. -/
def perform (registry : Registry) : Operation → Registry
  | .call call => registry.call call
  | .question => registry

/-- The events that an operation publishes. -/
def publishes (registry : Registry) : Operation → List RegistryEvent
  | .call call => registry.emits call
  | .question => []

/-- The registry after some operations one after another. -/
def performAll (registry : Registry) (operations : List Operation) : Registry :=
  operations.foldl perform registry

/-- All that some operations publish, in order. -/
def log (registry : Registry) : List Operation → List RegistryEvent
  | [] => []
  | operation :: rest => registry.publishes operation ++ log (registry.perform operation) rest

theorem Coherent.perform (h : registry.Coherent) (operation : Operation) :
    (registry.perform operation).Coherent := by
  cases operation with
  | call call => exact h.call call
  | question => exact h

theorem Coherent.performAll (h : registry.Coherent) (operations : List Operation) :
    (registry.performAll operations).Coherent := by
  induction operations generalizing registry with
  | nil => exact h
  | cons operation rest ih => exact ih (h.perform operation)

theorem Coherent.tells_perform (h : registry.Coherent) (operation : Operation) :
    Tells registry (registry.publishes operation) (registry.perform operation) := by
  cases operation with
  | call call => exact h.tells_call call
  | question => exact ⟨rfl, rfl, trivial⟩

/-- The book that is right at the start of a run is right at its end. -/
theorem Coherent.tells_log (h : registry.Coherent) (operations : List Operation) :
    Tells registry (registry.log operations) (registry.performAll operations) := by
  induction operations generalizing registry with
  | nil => exact ⟨rfl, rfl, trivial⟩
  | cons operation rest ih => exact (h.tells_perform operation).append (ih (h.perform operation))

theorem Coherent.exists_change_perform_iff (h : registry.Coherent) (operation : Operation) :
    (∃ event ∈ registry.publishes operation, event.isMembershipChange = true) ↔
      ¬SameMembers registry (registry.perform operation) := by
  cases operation with
  | call call => exact h.exists_change_iff call
  | question => simp [publishes, Registry.perform, SameMembers]

/-- Who receives after every event of a fresh registry never lags and hears all of them. -/
theorem promptly_hears_all (config : RegistryConfig) (events : List RegistryEvent) :
    let subscriber := ((create config).feed.attend (Feed.promptly events)).2
    subscriber.NeverLagged ∧
      ((create config).feed.sendAll events).readFrom subscriber.position = [] :=
  Feed.promptly_keeps_up config.eventCapacity events

/-- A subscriber that is there from the start, never lags and has nothing left to read has
heard the whole log of a run, and there are such subscribers.  The log tells the members
with their weights: a node joins that is not a member, and every other event is about a
member.  An operation publishes a change of the membership exactly when it makes one, and
an operation that fails or takes nothing out publishes nothing. -/
theorem log_tells_members (config : RegistryConfig) (operations : List Operation) :
    let registry := (create config).performAll operations
    let events := (create config).log operations
    (∀ turns, Feed.sentIn turns = events →
      let subscriber := ((create config).feed.attend turns).2
      subscriber.NeverLagged → registry.feed.readFrom subscriber.position = [] →
        subscriber.met = events.map .event) ∧
      (∃ turns, Feed.sentIn turns = events ∧
        let subscriber := ((create config).feed.attend turns).2
        subscriber.NeverLagged ∧ registry.feed.readFrom subscriber.position = []) ∧
      events.foldl replay (fun _ => none) = registry.priority? ∧
      (∀ before event after, events = before ++ event :: after →
        event.Admissible (before.foldl replay fun _ => none)) ∧
      (∀ operation,
        (registry.perform operation).feed =
            registry.feed.sendAll (registry.publishes operation) ∧
          ((∃ event ∈ registry.publishes operation, event.isMembershipChange = true) ↔
            ¬SameMembers registry (registry.perform operation))) ∧
      (∀ id report failure, (registry.pulse id report).2 = .error failure →
        registry.publishes (.call (.pulse id report)) = []) ∧
      (∀ now timeout, (registry.sweep now timeout).2 = [] →
        registry.publishes (.call (.sweep now timeout)) = []) ∧
      ∀ id, (registry.remove id).2 = false → registry.publishes (.call (.remove id)) = [] := by
  intro registry events
  have htells : Tells (create config) events registry :=
    (coherent_create config).tells_log operations
  have hcoherent : registry.Coherent := (coherent_create config).performAll operations
  refine ⟨?_, ?_, htells.replayed, ?_, ?_, ?_, ?_, ?_⟩
  · intro turns hturns subscriber hnever hread
    rw [htells.feed_eq, ← hturns] at hread
    rw [← hturns]
    exact Feed.met_eq_of_neverLagged config.eventCapacity turns hnever hread
  · refine ⟨Feed.promptly events, Feed.sentIn_promptly events, ?_⟩
    rw [htells.feed_eq]
    exact promptly_hears_all config events
  · intro before event after hsplit
    exact htells.inOrder.admissible hsplit
  · intro operation
    have htold := hcoherent.tells_perform operation
    exact ⟨htold.feed_eq, hcoherent.exists_change_perform_iff operation⟩
  · intro id report failure hfailed
    exact emits_of_failure hfailed
  · intro now timeout hidle
    exact emits_of_idle_sweep hidle
  · intro id hidle
    exact emits_of_idle_remove hidle

/-- Two nodes join, both expire in one sweep, and one of them joins again. -/
def rejoining : List Operation :=
  [.call (.pulse ⟨"a"⟩ ⟨1, 0, 0, ⟨0, 0⟩⟩), .question,
    .call (.pulse ⟨"b"⟩ ⟨2, 0, 0, ⟨0, 0⟩⟩),
    .call (.sweep ⟨60, 0⟩ (.ofSeconds 30)),
    .call (.pulse ⟨"b"⟩ ⟨3, 0, 0, ⟨70, 0⟩⟩)]

/-- A subscriber that receives after every event hears the five events of these operations
on a feed that keeps one event. -/
theorem prompt_subscriber_hears_rejoin :
    let config : RegistryConfig := { eventCapacity := 1, ring := { entriesPerWeight := 1 } }
    let registry := (create config).performAll rejoining
    let events := (create config).log rejoining
    let subscriber := ((create config).feed.attend (Feed.promptly events)).2
    events.map nodeId = [⟨"a"⟩, ⟨"b"⟩, ⟨"a"⟩, ⟨"b"⟩, ⟨"b"⟩] ∧
      subscriber.NeverLagged ∧ registry.feed.readFrom subscriber.position = [] ∧
      subscriber.met = events.map .event ∧
      events.foldl replay (fun _ => none) = registry.priority? := by
  intro config registry events subscriber
  obtain ⟨hhears, -, hreplayed, -⟩ := log_tells_members config rejoining
  have hfeed : registry.feed = (create config).feed.sendAll events :=
    ((coherent_create config).tells_log rejoining).feed_eq
  obtain ⟨hnever, hread⟩ := promptly_hears_all config events
  rw [← hfeed] at hread
  have hnodes : events.map nodeId = [⟨"a"⟩, ⟨"b"⟩, ⟨"a"⟩, ⟨"b"⟩, ⟨"b"⟩] := by
    decide +kernel
  have hmet := hhears (Feed.promptly events) (Feed.sentIn_promptly events) hnever hread
  exact ⟨hnodes, hnever, hread, hmet, hreplayed⟩

end Registry
end CacheTier
