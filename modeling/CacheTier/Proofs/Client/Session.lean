import CacheTier.Proofs.Client.Copy

/-!
# Sessions of a client and its registry

A client asks a registry for snapshots while nodes join and leave.  Calls of the
client, replies of the registry and their delivery interleave with each other and
with the calls on the registry in any order.  In every state of such a session the
client has no copy or one of the registry as it was at some moment before.
-/

namespace CacheTier

/-- A fetch under way: the checksum it was sent with and the reply, once given. -/
structure Fetch where
  known : Option String
  reply : Option SnapshotReply

/-- A registry, a client in front of it, and the fetches between them. -/
structure Session where
  registry : Registry
  client : RegistryClient
  fetches : Table Nat Fetch

/-! ## Past states -/

/-- One of some states of a registry: it is coherent, and its ring has a given
configuration. -/
structure Registry.Past (config : RingConfig) (states : Set Registry) (registry : Registry) :
    Prop where
  mem : registry ∈ states
  coherent : registry.Coherent
  placing : registry.config.ring = config

/-- A snapshot on its way to the client was taken of one of some states. -/
def Fetch.Genuine (config : RingConfig) (states : Set Registry)
    (fetch : Fetch) : Prop :=
  ∀ snapshot, fetch.reply = some (.full snapshot) →
    ∃ registry, Registry.Past config states registry ∧ snapshot.TakenOf registry

namespace Session

/-! ## Steps -/

/-- What happens in a session, one thing at a time. -/
inductive Event where
  /-- Something calls the registry. -/
  | registry (call : Registry.Call)
  /-- Something calls the client. -/
  | submit (call : ClientCall)
  /-- A call of the client goes on. -/
  | resume (task : Nat) (now : Span)
  /-- The registry replies to a fetch. -/
  | answer (task : Nat)
  /-- A reply reaches the client. -/
  | deliver (task : Nat) (jitter : Jitter) (now : Span)

/-- The session before any call. -/
def start (config : RegistryConfig) (clientConfig : ClientConfig) : Session :=
  ⟨.create config, .create clientConfig, .empty⟩

/-- The fetches under way once a demand of the client is met. -/
def record (fetches : Table Nat Fetch) : ClientDemand → Table Nat Fetch
  | .fetch task known => fetches.insert task ⟨known, none⟩
  | _ => fetches

/-- The session after a step of the client. -/
def absorb (session : Session) (result : RegistryClient × List ClientDemand) : Session :=
  { session with client := result.1, fetches := result.2.foldl record session.fetches }

/-- The session after an event; a fetch is answered and its reply delivered once. -/
def step (session : Session) : Event → Session
  | .registry call => { session with registry := session.registry.call call }
  | .submit call => { session with client := (session.client.submit call).1 }
  | .resume task now => session.absorb (session.client.resume task now)
  | .answer task =>
    match session.fetches.get? task with
    | some ⟨known, none⟩ =>
      { session with
        fetches := session.fetches.insert task ⟨known, some (session.registry.snapshot known)⟩ }
    | _ => session
  | .deliver task jitter now =>
    match session.fetches.get? task with
    | some ⟨_, some reply⟩ =>
      absorb { session with fetches := session.fetches.erase task }
        (session.client.deliver task (.ok reply) jitter now)
    | _ => session

/-- The session after a sequence of events. -/
def run (session : Session) (events : List Event) : Session :=
  events.foldl step session

/-! ## The invariant -/

/-- The client's copy, if it has one, and every snapshot on its way to the client are of
past states of the registry; client and registry place keys on rings of one
configuration. -/
structure Sound (config : RingConfig) (states : Set Registry) (session : Session) :
    Prop where
  present : Registry.Past config states session.registry
  routing : session.client.config.ring = config
  copied : session.client.cache.checksum = none ∨
    ∃ registry, Registry.Past config states registry ∧ session.client.cache.Copies registry
  genuine : ∀ task fetch, session.fetches.get? task = some fetch → fetch.Genuine config states

variable {config : RingConfig} {states : Set Registry} {session : Session}

theorem sound_start (config : RegistryConfig) (clientConfig : ClientConfig)
    (hring : clientConfig.ring = config.ring)
    (hstart : Registry.create config ∈ states) :
    (start config clientConfig).Sound config.ring states where
  present := ⟨hstart, Registry.coherent_create config, rfl⟩
  routing := hring
  copied := Or.inl rfl
  genuine := by simp [start]

theorem genuine_of_no_reply (known : Option String) :
    Fetch.Genuine config states ⟨known, none⟩ := by
  intro snapshot hreply
  exact absurd hreply (Option.some_ne_none _).symm

/-- The demands of a client start fetches without a reply. -/
theorem genuine_foldl_record {fetches : Table Nat Fetch}
    (h : ∀ task fetch, fetches.get? task = some fetch → fetch.Genuine config states)
    (demands : List ClientDemand) : ∀ task fetch,
      (demands.foldl record fetches).get? task = some fetch → fetch.Genuine config states := by
  induction demands generalizing fetches with
  | nil => exact h
  | cons demand rest ih =>
      apply ih
      cases demand with
      | fetch task known => exact Table.forall_get?_insert h (genuine_of_no_reply known)
      | resume _ => exact h
      | start _ => exact h
      | finish _ _ => exact h

theorem Sound.absorb_of_keepsCopy (h : session.Sound config states)
    {result : RegistryClient × List ClientDemand}
    (hkeeps : session.client.KeepsCopy result.1) :
    (session.absorb result).Sound config states where
  present := h.present
  routing := by
    rw [absorb, hkeeps.config]
    exact h.routing
  copied := by
    rw [absorb, hkeeps.cache]
    exact h.copied
  genuine := genuine_foldl_record h.genuine result.2

theorem config_conclude (client : RegistryClient) (reply : SnapshotReply) (jitter : Jitter)
    (now : Span) : (client.conclude (.ok reply) jitter now).1.config = client.config := by
  cases reply with
  | unchanged checksum => rfl
  | full snapshot => rfl

/-- The copy after a reply is that of the snapshot it carries, or of the same state as
before. -/
theorem Sound.copied_conclude (h : session.Sound config states) {reply : SnapshotReply}
    (hgenuine : ∀ snapshot, reply = .full snapshot →
      ∃ registry, Registry.Past config states registry ∧ snapshot.TakenOf registry)
    (jitter : Jitter) (now : Span) :
    let cache := (session.client.conclude (.ok reply) jitter now).1.cache
    cache.checksum = none ∨ ∃ registry, Registry.Past config states registry ∧ cache.Copies registry := by
  cases reply with
  | unchanged checksum =>
      rcases h.copied with hcold | ⟨registry, hpast, hcopies⟩
      · left
        exact (ClientCache.checksum_confirmed _ _ _).trans hcold
      · right
        exact ⟨registry, hpast, hcopies.confirmed checksum now⟩
  | full snapshot =>
      obtain ⟨registry, hpast, htaken⟩ := hgenuine snapshot rfl
      have hring : session.client.config.ring = registry.config.ring :=
        h.routing.trans hpast.placing.symm
      right
      exact ⟨registry, hpast, ClientCache.copies_ofSnapshot hpast.coherent hring htaken now⟩

theorem Sound.deliver (h : session.Sound config states) (task : Nat) (jitter : Jitter)
    (now : Span) : (session.step (.deliver task jitter now)).Sound config states := by
  rw [step]
  split
  · rename_i known reply hget
    by_cases hwaits : ∃ call, session.client.tasks.get? task = some ⟨call, .fetching⟩
    · obtain ⟨call, hcall⟩ := hwaits
      have hkeeps := RegistryClient.keepsCopy_conclude_deliver hcall (.ok reply) jitter now
      refine ⟨h.present, ?_, ?_, ?_⟩
      · rw [absorb, hkeeps.config, config_conclude]
        exact h.routing
      · rw [absorb, hkeeps.cache]
        apply h.copied_conclude
        rintro snapshot rfl
        exact h.genuine task _ hget snapshot rfl
      · exact genuine_foldl_record (Table.forall_get?_erase h.genuine task) _
    · have hidle : ∀ call, session.client.tasks.get? task ≠ some ⟨call, .fetching⟩ := by
        intro call hcall
        exact hwaits ⟨call, hcall⟩
      rw [RegistryClient.deliver_of_not_fetching hidle]
      exact ⟨h.present, h.routing, h.copied, Table.forall_get?_erase h.genuine task⟩
  · exact h

theorem Sound.answer (h : session.Sound config states) (task : Nat) :
    (session.step (.answer task)).Sound config states := by
  rw [step]
  split
  · refine ⟨h.present, h.routing, h.copied, Table.forall_get?_insert h.genuine ?_⟩
    intro snapshot hreply
    have htaken : snapshot.TakenOf session.registry :=
      Registry.eq_of_snapshot_full (Option.some.inj hreply)
    exact ⟨session.registry, h.present, htaken⟩
  · exact h

theorem Sound.step (h : session.Sound config states) (event : Event)
    (hnext : (session.step event).registry ∈ states) :
    (session.step event).Sound config states := by
  cases event with
  | registry call =>
      refine ⟨⟨hnext, h.present.coherent.call call, ?_⟩, h.routing, h.copied, h.genuine⟩
      rw [Session.step, Registry.config_call]
      exact h.present.placing
  | submit call => exact ⟨h.present, h.routing, h.copied, h.genuine⟩
  | resume task now =>
      exact h.absorb_of_keepsCopy (RegistryClient.keepsCopy_resume session.client task now)
  | answer task => exact h.answer task
  | deliver task jitter now => exact h.deliver task jitter now

/-- Every state of a session is sound for the states that its registry went through,
however its steps interleave. -/
theorem Sound.run (h : session.Sound config states) (events : List Event)
    (hstates : ∀ earlier, earlier <+: events → (session.run earlier).registry ∈ states) :
    (session.run events).Sound config states := by
  induction events generalizing session with
  | nil => exact h
  | cons event rest ih =>
      have hnext : (session.step event).registry ∈ states :=
        hstates [event] (List.prefix_append [event] rest)
      -- the states are those of the whole run, of which the rest is a part
      apply ih (h.step event hnext)
      intro earlier hearlier
      exact hstates (event :: earlier) (List.cons_prefix_cons.mpr ⟨rfl, hearlier⟩)

/-- The registry at the moments of a session up to the end of some events. -/
def history (session : Session) (events : List Event) : Set Registry :=
  {registry | ∃ earlier, earlier <+: events ∧ registry = (session.run earlier).registry}

theorem sound_run_start (config : RegistryConfig) (clientConfig : ClientConfig)
    (hring : clientConfig.ring = config.ring) (events : List Event) :
    ((start config clientConfig).run events).Sound config.ring
      ((start config clientConfig).history events) := by
  have hstart : Registry.create config ∈ (start config clientConfig).history events :=
    ⟨[], List.nil_prefix, rfl⟩
  apply (sound_start config clientConfig hring hstart).run
  intro earlier hearlier
  exact ⟨earlier, hearlier, rfl⟩

end Session
end CacheTier
