import CacheTier.Proofs.Client.Agreement
import CacheTier.Proofs.Client.Flights

/-!
# The dates of snapshots

Every event of a session has a date: the number of events before it.  A fetch has the date
of its request and, once answered, that of its snapshot; the client's copy has the date of
the snapshot that it was made of.  A copy is replaced by an older one only by a fetch that
was under way when the copy's snapshot was taken.  So the copy never goes back as long as no
two fetches are in flight at once, and look-ups alone never bring that about; two refreshes
whose replies overtake each other do.
-/

namespace CacheTier

namespace Session

/-! ## Requests, answers and new copies -/

/-- The call that starts a fetch at an event. -/
def asking (session : Session) : Event → Option Nat
  | .resume task now => (ClientDemand.fetchers (session.client.resume task now).2).head?
  | _ => none

/-- The call whose fetch is answered at an event. -/
def answering (session : Session) : Event → Option Nat
  | .answer task =>
    match session.fetches.get? task with
    | some ⟨_, none⟩ => some task
    | _ => none
  | _ => none

/-- The call whose reply replaces the client's copy at an event. -/
def installing (session : Session) : Event → Option Nat
  | .deliver task _ _ =>
    match session.client.tasks.get? task, session.fetches.get? task with
    | some ⟨_, .fetching⟩, some ⟨_, some (.full _)⟩ => some task
    | _, _ => none
  | _ => none

theorem installing_eq_some {session : Session} {event : Event} {task : Nat}
    (h : session.installing event = some task) :
    RegistryClient.Fetching session.client.tasks task ∧
      ∃ known snapshot, session.fetches.get? task = some ⟨known, some (.full snapshot)⟩ := by
  cases event with
  | registry call => cases h
  | submit call => cases h
  | resume task now => cases h
  | answer task => cases h
  | deliver task' jitter now =>
      rw [installing] at h
      split at h
      · rename_i call known snapshot hcall hget
        cases h
        exact ⟨RegistryClient.fetching_iff.mpr ⟨call, hcall⟩, known, snapshot, hget⟩
      · cases h

theorem foldl_record_of_no_fetch (fetches : Table Nat Fetch) {demands : List ClientDemand}
    (h : ClientDemand.fetchers demands = []) : demands.foldl record fetches = fetches := by
  induction demands with
  | nil => rfl
  | cons demand rest ih =>
      cases demand with
      | fetch task known => cases h
      | resume task => exact ih h
      | start task => exact ih h
      | finish task result => exact ih h

section Deliver

variable (session : Session) (task : Nat) (jitter : Jitter) (now : Span)

/-- A reply goes to the call that waits for it, or to nobody. -/
theorem deliver_client :
    session.installing (.deliver task jitter now) = none ∧
        (session.step (.deliver task jitter now)).client = session.client ∨
      ∃ call known reply, session.client.tasks.get? task = some ⟨call, .fetching⟩ ∧
        session.fetches.get? task = some ⟨known, some reply⟩ ∧
        (session.step (.deliver task jitter now)).client =
          (session.client.deliver task (.ok reply) jitter now).1 := by
  by_cases hreplied : ∃ known reply, session.fetches.get? task = some ⟨known, some reply⟩
  · obtain ⟨known, reply, hget⟩ := hreplied
    have hclient : (session.step (.deliver task jitter now)).client =
        (session.client.deliver task (.ok reply) jitter now).1 := by
      rw [step, hget]
      rfl
    by_cases hwaits : ∃ call, session.client.tasks.get? task = some ⟨call, .fetching⟩
    · obtain ⟨call, hcall⟩ := hwaits
      exact Or.inr ⟨call, known, reply, hcall, hget, hclient⟩
    · left
      rw [hclient, RegistryClient.deliver_of_not_fetching fun call hcall => hwaits ⟨call, hcall⟩,
        installing]
      refine ⟨?_, rfl⟩
      split
      · rename_i call _ _ hcall _
        exact absurd ⟨call, hcall⟩ hwaits
      · rfl
  · left
    rw [installing, step]
    constructor
    · split
      · rename_i hget
        exact absurd ⟨_, _, hget⟩ hreplied
      · rfl
    · split
      · rename_i hget
        exact absurd ⟨_, _, hget⟩ hreplied
      · rfl

theorem fetches_deliver :
    ∀ other fetch,
      (session.step (.deliver task jitter now)).fetches.get? other = some fetch →
        session.fetches.get? other = some fetch := by
  intro other fetch hget
  rw [step] at hget
  split at hget
  · rename_i known reply _
    have hnone := (session.client.demands_deliver task (.ok reply) jitter now).1
    rw [absorb, foldl_record_of_no_fetch _ hnone, Table.get?_erase] at hget
    split_ifs at hget
    exact hget
  · exact hget

/-- A snapshot that reaches a call replaces the checksum and the nodes of the copy, and
nothing else does. -/
theorem deliver_installs :
    let cache := (session.step (.deliver task jitter now)).client.cache
    session.installing (.deliver task jitter now) = none ∧
        cache.checksum = session.client.cache.checksum ∧
        cache.nodes = session.client.cache.nodes ∨
      ∃ known snapshot, session.installing (.deliver task jitter now) = some task ∧
        session.fetches.get? task = some ⟨known, some (.full snapshot)⟩ ∧
        cache.checksum = some snapshot.checksum ∧ cache.nodes = snapshot.nodes := by
  intro cache
  rcases session.deliver_client task jitter now with
    ⟨hinstalling, hsame⟩ | ⟨call, known, reply, hcall, hget, hclient⟩
  · have hcache : cache = session.client.cache := congrArg RegistryClient.cache hsame
    rw [hcache]
    exact Or.inl ⟨hinstalling, rfl, rfl⟩
  · have hcache : cache = (session.client.conclude (.ok reply) jitter now).1.cache :=
      (congrArg RegistryClient.cache hclient).trans
        (RegistryClient.keepsCopy_conclude_deliver hcall _ jitter now).cache
    rw [hcache]
    cases reply with
    | unchanged checksum =>
        left
        refine ⟨by simp [installing, hcall, hget], ?_, ?_⟩
        · exact ClientCache.checksum_confirmed _ checksum now
        · exact ClientCache.nodes_confirmed _ checksum now
    | full snapshot =>
        right
        exact ⟨known, snapshot, by simp [installing, hcall, hget], hget, rfl, rfl⟩

/-- The call that brings a reply does not wait any longer, and no call has begun to. -/
theorem fetching_of_deliver {other : Nat}
    (h : RegistryClient.Fetching (session.step (.deliver task jitter now)).client.tasks other) :
    RegistryClient.Fetching session.client.tasks other ∧
      (session.installing (.deliver task jitter now) = none ∨
        other ≠ task ∧ RegistryClient.Fetching session.client.tasks task) := by
  rcases session.deliver_client task jitter now with
    ⟨hinstalling, hsame⟩ | ⟨call, known, reply, hcall, hget, hclient⟩
  · rw [hsame] at h
    exact ⟨h, Or.inl hinstalling⟩
  · have hfetching : RegistryClient.Fetching session.client.tasks task :=
      RegistryClient.fetching_iff.mpr ⟨call, hcall⟩
    rw [hclient, (RegistryClient.deliver_calls hcall _ jitter now).1, RegistryClient.Fetching,
      Table.holds_erase_iff] at h
    exact ⟨h.2, Or.inr ⟨h.1, hfetching⟩⟩

end Deliver

end Session

/-- A session with its dates. -/
structure Timeline where
  session : Session
  now : Nat
  /-- When the fetches of calls were asked for. -/
  asked : Nat → Nat
  /-- When the snapshots that answer the fetches of calls were taken. -/
  taken : Nat → Nat
  /-- When the snapshot was taken that the client's copy was made of. -/
  held : Option Nat

namespace Timeline

/-- Some dates, of which one may be new. -/
def dated (dates : Nat → Nat) (now : Nat) : Option Nat → Nat → Nat
  | some task => Function.update dates task now
  | none => dates

def start (config : RegistryConfig) (clientConfig : ClientConfig) : Timeline :=
  ⟨.start config clientConfig, 0, fun _ => 0, fun _ => 0, none⟩

def step (timeline : Timeline) (event : Session.Event) : Timeline where
  session := timeline.session.step event
  now := timeline.now + 1
  asked := dated timeline.asked timeline.now (timeline.session.asking event)
  taken := dated timeline.taken timeline.now (timeline.session.answering event)
  held := ((timeline.session.installing event).map timeline.taken).or timeline.held

def run (timeline : Timeline) (events : List Session.Event) : Timeline :=
  events.foldl step timeline

theorem run_session (timeline : Timeline) (events : List Session.Event) :
    (timeline.run events).session = timeline.session.run events ∧
      (timeline.run events).now = timeline.now + events.length := by
  induction events generalizing timeline with
  | nil => exact ⟨rfl, rfl⟩
  | cons event rest ih =>
      obtain ⟨hsession, hnow⟩ := ih (timeline.step event)
      refine ⟨hsession, hnow.trans ?_⟩
      rw [List.length_cons, Nat.add_comm rest.length, ← Nat.add_assoc]
      rfl

end Timeline

/-- A copy has the checksum and the nodes of a registry. -/
structure ClientCache.Shows (registry : Registry) (cache : ClientCache) : Prop where
  checksum : cache.checksum = some registry.checksum
  nodes : cache.nodes = registry.nodes.values

namespace Timeline

/-- The dates are right: what the client holds, and every reply on its way, is what the
registry had to say at the date. -/
structure Right (states : Nat → Registry) (timeline : Timeline) : Prop where
  cold : timeline.held = none → timeline.session.client.cache.checksum = none
  held : ∀ date, timeline.held = some date →
    date < timeline.now ∧ timeline.session.client.cache.Shows (states date)
  asked : ∀ task fetch, timeline.session.fetches.get? task = some fetch →
    timeline.asked task < timeline.now
  taken : ∀ task known reply,
    timeline.session.fetches.get? task = some ⟨known, some reply⟩ →
      timeline.asked task ≤ timeline.taken task ∧ timeline.taken task < timeline.now ∧
        reply = (states (timeline.taken task)).snapshot known

section Right

variable {states : Nat → Registry} {timeline : Timeline}

/-- Fetches may end, and the copy may be replaced, at an event at which no fetch is asked
for or answered. -/
theorem Right.later (h : timeline.Right states) {session : Session} {held : Option Nat}
    (hfetches : ∀ task fetch, session.fetches.get? task = some fetch →
      timeline.session.fetches.get? task = some fetch)
    (hcold : held = none → session.client.cache.checksum = none)
    (hheld : ∀ date, held = some date →
      date < timeline.now ∧ session.client.cache.Shows (states date)) :
    Right states ⟨session, timeline.now + 1, timeline.asked, timeline.taken, held⟩ := by
  constructor
  · exact hcold
  · intro date hdate
    exact ⟨Nat.lt_succ_of_lt (hheld date hdate).1, (hheld date hdate).2⟩
  · intro task fetch hget
    exact Nat.lt_succ_of_lt (h.asked task fetch (hfetches task _ hget))
  · intro task known reply hget
    obtain ⟨hasked, htaken, hreply⟩ := h.taken task known reply (hfetches task _ hget)
    exact ⟨hasked, Nat.lt_succ_of_lt htaken, hreply⟩

/-- Fetches may end at an event that leaves the copy's nodes and is of no date. -/
theorem Right.later_of_none (h : timeline.Right states) {event : Session.Event}
    (hasking : timeline.session.asking event = none)
    (hanswering : timeline.session.answering event = none)
    (hinstalling : timeline.session.installing event = none)
    (hfetches : ∀ task fetch, (timeline.session.step event).fetches.get? task = some fetch →
      timeline.session.fetches.get? task = some fetch)
    (hchecksum : (timeline.session.step event).client.cache.checksum =
      timeline.session.client.cache.checksum)
    (hnodes : (timeline.session.step event).client.cache.nodes =
      timeline.session.client.cache.nodes) : (timeline.step event).Right states := by
  rw [step, hasking, hanswering, hinstalling]
  apply h.later hfetches
  · intro hheld
    rw [hchecksum]
    exact h.cold hheld
  · intro date hdate
    obtain ⟨hbefore, hshows⟩ := h.held date hdate
    exact ⟨hbefore, hchecksum.trans hshows.checksum, hnodes.trans hshows.nodes⟩

/-- One fetch may be asked for or answered at an event that leaves the copy's nodes. -/
theorem Right.later_of_insert (h : timeline.Right states) {session : Session} {task : Nat}
    {fetch : Fetch} {asked taken : Nat → Nat}
    (hfetches : session.fetches = timeline.session.fetches.insert task fetch)
    (hcache : session.client.cache = timeline.session.client.cache)
    (hother : ∀ other, other ≠ task →
      asked other = timeline.asked other ∧ taken other = timeline.taken other)
    (hasked : asked task ≤ timeline.now)
    (htaken : ∀ reply, fetch.reply = some reply →
      asked task ≤ taken task ∧ taken task ≤ timeline.now ∧
        reply = (states (taken task)).snapshot fetch.known) :
    Right states ⟨session, timeline.now + 1, asked, taken, timeline.held⟩ := by
  constructor
  · intro hheld
    rw [hcache]
    exact h.cold hheld
  · intro date hheld
    rw [hcache]
    exact ⟨Nat.lt_succ_of_lt (h.held date hheld).1, (h.held date hheld).2⟩
  · intro other fetch' hget
    rw [hfetches, Table.get?_insert] at hget
    by_cases heq : other = task
    · rw [heq]
      exact Nat.lt_succ_of_le hasked
    · rw [if_neg heq] at hget
      exact (hother other heq).1.trans_lt (Nat.lt_succ_of_lt (h.asked other fetch' hget))
  · intro other known reply hget
    rw [hfetches, Table.get?_insert] at hget
    by_cases heq : other = task
    · rw [if_pos heq] at hget
      cases hget
      obtain ⟨hbefore, hnow, hreply⟩ := htaken reply rfl
      rw [heq]
      exact ⟨hbefore, Nat.lt_succ_of_le hnow, hreply⟩
    · rw [if_neg heq] at hget
      have hdates := h.taken other known reply hget
      rw [← (hother other heq).1, ← (hother other heq).2] at hdates
      exact ⟨hdates.1, Nat.lt_succ_of_lt hdates.2.1, hdates.2.2⟩

theorem Right.resume (h : timeline.Right states) (task : Nat) (now : Span) :
    (timeline.step (.resume task now)).Right states := by
  have hcopy := (RegistryClient.keepsCopy_resume timeline.session.client task now).cache
  rcases timeline.session.client.resume_fetches task now with ⟨hfetch, -⟩ | ⟨hnone, -⟩
  · have hasking : timeline.session.asking (.resume task now) = some task := by
      rw [Session.asking, hfetch]
      rfl
    have hfetches : (timeline.session.step (.resume task now)).fetches =
        timeline.session.fetches.insert task ⟨timeline.session.client.cache.checksum, none⟩ := by
      rw [Session.step, Session.absorb, hfetch]
      rfl
    rw [step, hasking]
    apply h.later_of_insert hfetches hcopy
    · intro other hne
      exact ⟨Function.update_of_ne hne _ _, rfl⟩
    · exact Nat.le_of_eq (Function.update_self task _ _)
    -- the new fetch is not answered yet
    · intro reply hreply
      cases hreply
  · have hasking : timeline.session.asking (.resume task now) = none := by
      rw [Session.asking, hnone]
      rfl
    have hfetches : (timeline.session.step (.resume task now)).fetches =
        timeline.session.fetches := Session.foldl_record_of_no_fetch _ hnone
    apply h.later_of_none hasking rfl rfl
    · rw [hfetches]
      exact fun _ _ => id
    · exact congrArg ClientCache.checksum hcopy
    · exact congrArg ClientCache.nodes hcopy

theorem Right.answer (h : timeline.Right states)
    (hpresent : states timeline.now = timeline.session.registry) (task : Nat) :
    (timeline.step (.answer task)).Right states := by
  by_cases hpending : ∃ known, timeline.session.fetches.get? task = some ⟨known, none⟩
  · obtain ⟨known, hget⟩ := hpending
    have hanswering : timeline.session.answering (.answer task) = some task := by
      rw [Session.answering, hget]
    have hfetches : (timeline.session.step (.answer task)).fetches =
        timeline.session.fetches.insert task
          ⟨known, some (timeline.session.registry.snapshot known)⟩ := by
      rw [Session.step, hget]
    have hcache : (timeline.session.step (.answer task)).client.cache =
        timeline.session.client.cache := by
      rw [Session.step, hget]
    have hdate : dated timeline.taken timeline.now (some task) task = timeline.now :=
      Function.update_self task _ _
    have hasked := Nat.le_of_lt (h.asked task _ hget)
    rw [step, hanswering]
    apply h.later_of_insert hfetches hcache
    · intro other hne
      exact ⟨rfl, Function.update_of_ne hne _ _⟩
    · exact hasked
    · intro reply hreply
      cases hreply
      rw [hdate, hpresent]
      exact ⟨hasked, Nat.le_refl _, rfl⟩
  · have hanswering : timeline.session.answering (.answer task) = none := by
      rw [Session.answering]
      split
      · rename_i known hget
        exact absurd ⟨known, hget⟩ hpending
      · rfl
    have hsame : timeline.session.step (.answer task) = timeline.session := by
      rw [Session.step]
      split
      · rename_i known hget
        exact absurd ⟨known, hget⟩ hpending
      · rfl
    apply h.later_of_none rfl hanswering rfl
    · rw [hsame]
      exact fun _ _ => id
    · rw [hsame]
    · rw [hsame]

theorem Right.deliver (h : timeline.Right states) (task : Nat) (jitter : Jitter) (now : Span) :
    (timeline.step (.deliver task jitter now)).Right states := by
  have hfetches := timeline.session.fetches_deliver task jitter now
  rcases timeline.session.deliver_installs task jitter now with
    ⟨hinstalling, hchecksum, hnodes⟩ | ⟨known, snapshot, hinstalling, hget, hchecksum, hnodes⟩
  · exact h.later_of_none rfl rfl hinstalling hfetches hchecksum hnodes
  · obtain ⟨-, hbefore, hreply⟩ := h.taken task known _ hget
    have htaken := Registry.eq_of_snapshot_full hreply.symm
    rw [step, hinstalling]
    apply h.later hfetches
    · intro hnone
      cases hnone
    · intro date hdate
      cases hdate
      rw [htaken] at hchecksum hnodes
      exact ⟨hbefore, hchecksum, hnodes⟩

theorem Right.step (h : timeline.Right states)
    (hpresent : states timeline.now = timeline.session.registry) (event : Session.Event) :
    (timeline.step event).Right states := by
  cases event with
  | registry call => exact h.later_of_none rfl rfl rfl (fun _ _ => id) rfl rfl
  | submit call => exact h.later_of_none rfl rfl rfl (fun _ _ => id) rfl rfl
  | resume task now => exact h.resume task now
  | answer task => exact h.answer hpresent task
  | deliver task jitter now => exact h.deliver task jitter now

/-- The registry is in some states at the dates of some events to come. -/
def Follows (states : Nat → Registry) (timeline : Timeline) (events : List Session.Event) :
    Prop :=
  ∀ earlier, earlier <+: events →
    states (timeline.now + earlier.length) = (timeline.session.run earlier).registry

theorem Follows.step {event : Session.Event} {rest : List Session.Event}
    (h : Follows states timeline (event :: rest)) :
    states timeline.now = timeline.session.registry ∧
      Follows states (timeline.step event) rest := by
  refine ⟨h [] List.nil_prefix, ?_⟩
  intro earlier hearlier
  have hstate := h (event :: earlier) (List.cons_prefix_cons.mpr ⟨rfl, hearlier⟩)
  rw [List.length_cons, Nat.add_comm earlier.length, ← Nat.add_assoc] at hstate
  exact hstate

/-- The dates are right after every run. -/
theorem Right.run (h : timeline.Right states) {events : List Session.Event}
    (hfollows : Follows states timeline events) : (timeline.run events).Right states := by
  induction events generalizing timeline with
  | nil => exact h
  | cons event rest ih => exact ih (h.step hfollows.step.1 event) hfollows.step.2

end Right

/-! ## Going forward -/

/-- Every fetch in flight was asked for after the snapshot was taken that the client
holds. -/
def Ahead (timeline : Timeline) : Prop :=
  ∀ task date, RegistryClient.Fetching timeline.session.client.tasks task →
    timeline.held = some date → date < timeline.asked task

section Ahead

variable {states : Nat → Registry} {timeline : Timeline}

theorem Ahead.step (h : timeline.Ahead) (hright : timeline.Right states)
    (hapart : timeline.session.client.Apart) (event : Session.Event) :
    (timeline.step event).Ahead := by
  intro other date hother hheld
  cases event with
  | registry call => exact h other date hother hheld
  | submit call => exact h other date (RegistryClient.fetching_of_submit hother) hheld
  | resume task now =>
      rw [Timeline.step, Session.asking]
      rcases timeline.session.client.resume_fetches task now with
        ⟨hfetch, hbegins⟩ | ⟨hnone, hbefore⟩
      · rw [hfetch]
        change date < Function.update timeline.asked task timeline.now other
        by_cases heq : other = task
        · rw [heq, Function.update_self]
          exact (hright.held date hheld).1
        · rw [Function.update_of_ne heq]
          exact h other date ((hbegins other hother).resolve_left heq) hheld
      · rw [hnone]
        exact h other date (hbefore other hother) hheld
  | answer task =>
      have hsame : (timeline.session.step (.answer task)).client = timeline.session.client := by
        rw [Session.step]
        split
        · rfl
        · rfl
      rw [Timeline.step, hsame] at hother
      exact h other date hother hheld
  | deliver task jitter now =>
      obtain ⟨hbefore, hinstalling | ⟨hne, hfetching⟩⟩ :=
        timeline.session.fetching_of_deliver task jitter now hother
      · rw [Timeline.step, hinstalling] at hheld
        exact h other date hbefore hheld
      -- the new copy may be younger than other requests, but no other fetch is in flight
      · exact absurd (hapart other task hbefore hfetching) hne

/-- The copy stays, or the next one is of a snapshot that was taken after it was asked
for. -/
theorem Right.held_step (h : timeline.Right states) (event : Session.Event) {date next : Nat}
    (hheld : timeline.held = some date) (hnext : (timeline.step event).held = some next) :
    date = next ∨ ∃ task, timeline.session.installing event = some task ∧
      timeline.asked task ≤ next := by
  rw [Timeline.step] at hnext
  cases hinstalling : timeline.session.installing event with
  | none =>
      left
      rw [hinstalling] at hnext
      exact Option.some.inj (hheld.symm.trans hnext)
  | some task =>
      right
      rw [hinstalling] at hnext
      cases hnext
      obtain ⟨-, known, snapshot, hget⟩ := Session.installing_eq_some hinstalling
      exact ⟨task, rfl, (h.taken task known _ hget).1⟩

theorem Ahead.held_le (h : timeline.Ahead) (hright : timeline.Right states)
    (event : Session.Event) {date next : Nat} (hheld : timeline.held = some date)
    (hnext : (timeline.step event).held = some next) : date ≤ next := by
  rcases hright.held_step event hheld hnext with rfl | ⟨task, hinstalling, hasked⟩
  · exact Nat.le_refl date
  · have hfetching := (Session.installing_eq_some hinstalling).1
    exact Nat.le_trans (Nat.le_of_lt (h task date hfetching hheld)) hasked

theorem Ahead.run (h : timeline.Ahead) (hright : timeline.Right states)
    {events : List Session.Event} (hfollows : Follows states timeline events)
    (hapart : ∀ earlier, earlier <+: events →
      (timeline.session.run earlier).client.Apart) : (timeline.run events).Ahead := by
  induction events generalizing timeline with
  | nil => exact h
  | cons event rest ih =>
      have hnow : timeline.session.client.Apart := hapart [] List.nil_prefix
      apply ih (h.step hright hnow event) (hright.step hfollows.step.1 event) hfollows.step.2
      intro earlier hearlier
      exact hapart (event :: earlier) (List.cons_prefix_cons.mpr ⟨rfl, hearlier⟩)

end Ahead

end Timeline

/-! ## Look-ups alone -/

namespace Session

/-- To the client, an event of a session is one of its own or none. -/
theorem exists_client_step (session : Session) (event : Event) :
    ∃ steps : List RegistryClient.Event,
      (session.step event).client = session.client.run steps ∧
        ∀ call, .submit call ∈ steps → event = .submit call := by
  cases event with
  | registry call => exact ⟨[], rfl, by simp⟩
  | submit call => exact ⟨[.submit call], rfl, by simp⟩
  | resume task now => exact ⟨[.resume task now], rfl, by simp⟩
  | answer task =>
      refine ⟨[], ?_, by simp⟩
      rw [step]
      split
      · rfl
      · rfl
  | deliver task jitter now =>
      rcases session.deliver_client task jitter now with
        ⟨-, hsame⟩ | ⟨call, known, reply, -, -, hclient⟩
      · exact ⟨[], hsame, by simp⟩
      · exact ⟨[.deliver task (.ok reply) jitter now], hclient, by simp⟩

theorem exists_client_run (session : Session) (events : List Event) :
    ∃ steps : List RegistryClient.Event,
      (session.run events).client = session.client.run steps ∧
        ∀ call, .submit call ∈ steps → .submit call ∈ events := by
  induction events generalizing session with
  | nil => exact ⟨[], rfl, by simp⟩
  | cons event rest ih =>
      obtain ⟨first, hfirst, hcalls⟩ := session.exists_client_step event
      obtain ⟨later, hlater, hcalls'⟩ := ih (session.step event)
      refine ⟨first ++ later, ?_, ?_⟩
      · rw [RegistryClient.run_append, ← hfirst]
        exact hlater
      · intro call hcall
        rcases List.mem_append.mp hcall with hmem | hmem
        · rw [hcalls call hmem]
          exact List.mem_cons_self
        · exact List.mem_cons_of_mem event (hcalls' call hmem)

theorem apart_of_lookups (config : RegistryConfig) (clientConfig : ClientConfig)
    {events : List Event} (hevents : ∀ call, .submit call ∈ events → ∃ key, call = .locate key) :
    ((start config clientConfig).run events).client.Apart := by
  obtain ⟨steps, hclient, hcalls⟩ := (start config clientConfig).exists_client_run events
  rw [hclient]
  apply RegistryClient.apart_of_lookups
  intro call hcall
  exact hevents call (hcalls call hcall)

end Session

namespace Timeline

/-- The dates are right in every session.  A copy is replaced by one of an older snapshot
only by a fetch that was asked for before the copy's snapshot was taken, so never where no
two fetches are in flight at once, and look-ups alone keep their fetches apart. -/
theorem copy_goes_forward_without_overlap (config : RegistryConfig)
    (clientConfig : ClientConfig) (events : List Session.Event) :
    let initial := Session.start config clientConfig
    let timeline := (start config clientConfig).run events
    timeline.session = initial.run events ∧
      timeline.Right (fun date => (initial.run (events.take date)).registry) ∧
      (∀ event date next, timeline.held = some date →
        (timeline.step event).held = some next → next < date →
          ∃ task, timeline.session.installing event = some task ∧ timeline.asked task < date) ∧
      ((∀ earlier, earlier <+: events → (initial.run earlier).client.Apart) →
        ∀ event date next, timeline.held = some date →
          (timeline.step event).held = some next → date ≤ next) ∧
      ((∀ call, .submit call ∈ events → ∃ key, call = .locate key) →
        ∀ earlier, earlier <+: events → (initial.run earlier).client.Apart) := by
  intro initial timeline
  have hsession : timeline.session = initial.run events :=
    ((start config clientConfig).run_session events).1
  have hstart : (start config clientConfig).Right
      (fun date => (initial.run (events.take date)).registry) := by
    constructor
    · exact fun _ => rfl
    · simp [start]
    · simp [start, Session.start]
    · simp [start, Session.start]
  have hfollows : Follows (fun date => (initial.run (events.take date)).registry)
      (start config clientConfig) events := by
    intro earlier hearlier
    have htake : events.take (0 + earlier.length) = earlier := by
      rw [Nat.zero_add]
      exact (List.prefix_iff_eq_take.mp hearlier).symm
    exact congrArg (fun earlier => (initial.run earlier).registry) htake
  have hright := hstart.run hfollows
  refine ⟨hsession, hright, ?_, ?_, ?_⟩
  · intro event date next hheld hnext hback
    rcases hright.held_step event hheld hnext with rfl | ⟨task, hinstalling, hasked⟩
    · exact absurd hback (Nat.lt_irrefl _)
    · exact ⟨task, hinstalling, Nat.lt_of_le_of_lt hasked hback⟩
  · intro hapart event date next hheld hnext
    have hnone : (start config clientConfig).Ahead := by
      intro task date _ hheld
      cases hheld
    exact (hnone.run hstart hfollows hapart).held_le hright event hheld hnext
  · intro hevents earlier hearlier
    apply Session.apart_of_lookups
    intro call hcall
    exact hevents call (hearlier.subset hcall)

/-- A session on rings with one virtual node for a weight. -/
def startSmall : Timeline := start { ring := ⟨1⟩ } { ring := ⟨1⟩ }

/-- A look-up fetches; another node joins, and a later look-up starts a refresh, which the
registry answers. -/
def renewing : List Session.Event :=
  [.registry (.pulse ⟨"a"⟩ ⟨1, 0, 0, ⟨0, 0⟩⟩), .submit (.locate "k"), .resume 0 .zero, .answer 0,
    .deliver 0 .even .zero, .registry (.pulse ⟨"b"⟩ ⟨1, 0, 0, ⟨0, 0⟩⟩), .submit (.locate "k"),
    .resume 1 (.ofSeconds 20), .resume 2 (.ofSeconds 20), .answer 2]

theorem renewed_copy_goes_forward :
    (∀ call, .submit call ∈ renewing → ∃ key, call = .locate key) ∧
      ∃ date next, (startSmall.run renewing).held = some date ∧
        ((startSmall.run renewing).step (.deliver 2 .even (.ofSeconds 20))).held = some next ∧
        date ≤ next := by
  have hlookups : ∀ call, .submit call ∈ renewing → ∃ key, call = .locate key := by
    simp [renewing]
  have hheld : (startSmall.run renewing).held = some 3 := by decide +kernel
  have hnext : ((startSmall.run renewing).step (.deliver 2 .even (.ofSeconds 20))).held =
      some 9 := by decide +kernel
  obtain ⟨-, -, -, hforward, hapart⟩ :=
    copy_goes_forward_without_overlap { ring := ⟨1⟩ } { ring := ⟨1⟩ } renewing
  exact ⟨hlookups, 3, 9, hheld, hnext, hforward (hapart hlookups) _ 3 9 hheld hnext⟩

/-- Two refreshes cross: the first is answered before a node joins, the second after, and
the second answer is the first to arrive. -/
def crossing : List Session.Event :=
  [.registry (.pulse ⟨"a"⟩ ⟨1, 0, 0, ⟨0, 0⟩⟩), .submit .refresh, .resume 0 .zero, .answer 0,
    .registry (.pulse ⟨"b"⟩ ⟨1, 0, 0, ⟨0, 0⟩⟩), .submit .refresh, .resume 1 .zero, .answer 1,
    .deliver 1 .even .zero]

/-- A late reply puts a copy of an older snapshot in the place of a newer one. -/
theorem crossing_refreshes_go_back :
    let timeline := startSmall.run crossing
    let next := timeline.step (.deliver 0 .even .zero)
    timeline.held = some 7 ∧ next.held = some 3 ∧
      timeline.session.client.cache.nodes.map NodeRecord.id = [⟨"a"⟩, ⟨"b"⟩] ∧
      next.session.client.cache.nodes.map NodeRecord.id = [⟨"a"⟩] := by
  decide +kernel

end Timeline
end CacheTier
