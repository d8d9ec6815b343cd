import CacheTier.Proofs.Client.Copy
import Mathlib.Data.List.Induction

/-!
# Deliveries to a client

However the calls of a client overlap, its copy is what the deliveries make of it, taken
in one after another.  So it is the copy of the last full snapshot delivered, and it was
refreshed by the latest delivery since that named its checksum.
-/

namespace CacheTier

/-- The end of a fetch that reached a client. -/
structure Delivery where
  reply : Except FleetError SnapshotReply
  time : Span

namespace Delivery

/-- The delivery carries a snapshot. -/
def IsFull (delivery : Delivery) : Prop := ∃ snapshot, delivery.reply = .ok (.full snapshot)

/-- Whether the delivery names a checksum as the current one. -/
def names (checksum : String) (delivery : Delivery) : Bool :=
  match delivery.reply with
  | .ok (.unchanged current) => current == checksum
  | .ok (.full snapshot) => snapshot.checksum == checksum
  | .error _ => false

/-- The time of the latest delivery that names a checksum. -/
def namedAt? (checksum : String) (deliveries : List Delivery) : Option Span :=
  (deliveries.filter (names checksum)).getLast?.map time

theorem namedAt?_append (checksum : String) (deliveries : List Delivery) (last : Delivery) :
    namedAt? checksum (deliveries ++ [last]) =
      if names checksum last = true then some last.time else namedAt? checksum deliveries := by
  rw [namedAt?, List.filter_append]
  split_ifs with hnames
  · rw [List.filter_cons_of_pos hnames, List.filter_nil, List.getLast?_concat, Option.map_some]
  · rw [List.filter_cons_of_neg hnames, List.filter_nil, List.append_nil, namedAt?]

end Delivery

namespace ClientCache

/-- The copy after a delivery. -/
def taking (config : ClientConfig) (cache : ClientCache) (delivery : Delivery) : ClientCache :=
  match delivery.reply with
  | .error _ => cache
  | .ok (.unchanged checksum) => cache.confirmed checksum delivery.time
  | .ok (.full snapshot) => .ofSnapshot config snapshot delivery.time

variable {config : ClientConfig} {cache : ClientCache} {snapshot : Snapshot} {time : Span}
  {after : List Delivery} {next : Delivery}

/-- A delivery without a snapshot renews a copy whose checksum it names, and leaves any
other as it is. -/
theorem taking_of_not_full (hnext : ¬ next.IsFull) {checksum : String}
    (hchecksum : cache.checksum = some checksum) :
    cache.taking config next =
      if next.names checksum = true then { cache with refreshedAt := some next.time }
      else cache := by
  obtain ⟨reply, now⟩ := next
  cases reply with
  | error cause => simp [taking, Delivery.names]
  | ok reply =>
      cases reply with
      | unchanged current =>
          by_cases hcurrent : current = checksum
          · simp [taking, confirmed, Delivery.names, hchecksum, hcurrent]
          · have hne : checksum ≠ current := fun h => hcurrent h.symm
            simp [taking, confirmed, Delivery.names, hchecksum, hcurrent, hne]
      | full snapshot => exact absurd ⟨snapshot, rfl⟩ hnext

theorem taking_of_checksum_eq_none (hnext : ¬ next.IsFull) (hchecksum : cache.checksum = none) :
    cache.taking config next = cache := by
  obtain ⟨reply, now⟩ := next
  cases reply with
  | error cause => rfl
  | ok reply =>
      cases reply with
      | unchanged current => simp [taking, confirmed, hchecksum]
      | full snapshot => exact absurd ⟨snapshot, rfl⟩ hnext

/-- The copy is that of the snapshot that a delivery brought, and was refreshed by the
latest delivery from that one on that named its checksum. -/
structure InstalledBy (config : ClientConfig) (cache : ClientCache) (snapshot : Snapshot)
    (time : Span) (after : List Delivery) : Prop where
  latest : ∀ delivery ∈ after, ¬ delivery.IsFull
  checksum : cache.checksum = some snapshot.checksum
  nodes : cache.nodes = snapshot.nodes
  ring : cache.ring = ringOf config snapshot.nodes
  refreshedAt : cache.refreshedAt =
    Delivery.namedAt? snapshot.checksum (⟨.ok (.full snapshot), time⟩ :: after)

theorem installedBy_ofSnapshot (config : ClientConfig) (snapshot : Snapshot) (time : Span) :
    InstalledBy config (ofSnapshot config snapshot time) snapshot time [] where
  latest := by simp
  checksum := rfl
  nodes := rfl
  ring := rfl
  refreshedAt := by simp [ofSnapshot, Delivery.namedAt?, Delivery.names]

theorem InstalledBy.taking (h : InstalledBy config cache snapshot time after)
    (hnext : ¬ next.IsFull) :
    InstalledBy config (cache.taking config next) snapshot time (after ++ [next]) := by
  have hlatest : ∀ delivery ∈ after ++ [next], ¬ delivery.IsFull :=
    List.forall_mem_append.mpr ⟨h.latest, List.forall_mem_singleton.mpr hnext⟩
  have hnamed := Delivery.namedAt?_append snapshot.checksum
    (⟨.ok (.full snapshot), time⟩ :: after) next
  rw [List.cons_append] at hnamed
  rw [taking_of_not_full hnext h.checksum]
  split_ifs at hnamed ⊢ with hnames
  · exact ⟨hlatest, h.checksum, h.nodes, h.ring, hnamed.symm⟩
  · exact ⟨hlatest, h.checksum, h.nodes, h.ring, h.refreshedAt.trans hnamed.symm⟩

/-- Deliveries taken in one after another leave the copy of the last snapshot among them,
or no copy if there was none. -/
theorem foldl_taking (config : ClientConfig) (deliveries : List Delivery) :
    (deliveries.foldl (ClientCache.taking config) (cold config) = cold config ∧
        ∀ delivery ∈ deliveries, ¬ delivery.IsFull) ∨
      ∃ before snapshot time after,
        deliveries = before ++ ⟨.ok (.full snapshot), time⟩ :: after ∧
          InstalledBy config (deliveries.foldl (ClientCache.taking config) (cold config))
            snapshot time after := by
  -- by the last delivery: a full one installs its snapshot, any other keeps what there is
  induction deliveries using List.reverseRecOn with
  | nil => exact Or.inl ⟨rfl, by simp⟩
  | append_singleton deliveries next ih =>
      rw [List.foldl_concat]
      by_cases hfull : next.IsFull
      · obtain ⟨reply, time⟩ := next
        obtain ⟨snapshot, rfl⟩ := hfull
        exact Or.inr ⟨deliveries, snapshot, time, [], rfl, installedBy_ofSnapshot config snapshot time⟩
      · rcases ih with ⟨hcold, hnone⟩ | ⟨before, snapshot, time, after, rfl, hinstalled⟩
        · left
          rw [hcold, taking_of_checksum_eq_none hfull rfl]
          exact ⟨rfl, List.forall_mem_append.mpr ⟨hnone, List.forall_mem_singleton.mpr hfull⟩⟩
        · refine Or.inr ⟨before, snapshot, time, after ++ [next], ?_, hinstalled.taking hfull⟩
          rw [List.append_assoc, List.cons_append]

end ClientCache

namespace RegistryClient

/-- What happens to a client, one thing at a time.  Nothing is assumed about replies. -/
inductive Event where
  /-- Something calls the client. -/
  | submit (call : ClientCall)
  /-- A call goes on. -/
  | resume (task : Nat) (now : Span)
  /-- A fetch comes to its end. -/
  | deliver (task : Nat) (reply : Except FleetError SnapshotReply) (jitter : Jitter) (now : Span)

def step (client : RegistryClient) : Event → RegistryClient
  | .submit call => (client.submit call).1
  | .resume task now => (client.resume task now).1
  | .deliver task reply jitter now => (client.deliver task reply jitter now).1

/-- The client after a sequence of events. -/
def run (client : RegistryClient) (events : List Event) : RegistryClient :=
  events.foldl step client

/-- The delivery of an event, if there is a call that waits for it. -/
def delivered (client : RegistryClient) : Event → List Delivery
  | .deliver task reply _ now =>
    match client.tasks.get? task with
    | some ⟨_, .fetching⟩ => [⟨reply, now⟩]
    | _ => []
  | _ => []

/-- The deliveries of a sequence of events. -/
def deliveries : RegistryClient → List Event → List Delivery
  | _, [] => []
  | client, first :: rest => client.delivered first ++ deliveries (client.step first) rest

theorem conclude_eq_taking (client : RegistryClient) (reply : Except FleetError SnapshotReply)
    (jitter : Jitter) (now : Span) :
    (client.conclude reply jitter now).1.config = client.config ∧
      (client.conclude reply jitter now).1.cache =
        client.cache.taking client.config ⟨reply, now⟩ := by
  cases reply with
  | error cause => exact ⟨rfl, rfl⟩
  | ok reply =>
      cases reply with
      | unchanged checksum => exact ⟨rfl, rfl⟩
      | full snapshot => exact ⟨rfl, rfl⟩

/-- A step changes the copy by its delivery alone. -/
theorem step_cache (client : RegistryClient) (event : Event) :
    (client.step event).config = client.config ∧
      (client.step event).cache =
        (client.delivered event).foldl (ClientCache.taking client.config) client.cache := by
  cases event with
  | submit call => exact ⟨rfl, rfl⟩
  | resume task now =>
      have hkeeps := keepsCopy_resume client task now
      exact ⟨hkeeps.config, hkeeps.cache⟩
  | deliver task reply jitter now =>
      rw [step, delivered]
      split
      · rename_i call hget
        have hkeeps := keepsCopy_conclude_deliver hget reply jitter now
        obtain ⟨hconfig, hcache⟩ := conclude_eq_taking client reply jitter now
        exact ⟨hkeeps.config.trans hconfig, hkeeps.cache.trans hcache⟩
      · rename_i hget
        rw [deliver_of_not_fetching hget]
        exact ⟨rfl, rfl⟩

theorem run_cache (client : RegistryClient) (events : List Event) :
    (client.run events).config = client.config ∧
      (client.run events).cache =
        (client.deliveries events).foldl (ClientCache.taking client.config) client.cache := by
  induction events generalizing client with
  | nil => exact ⟨rfl, rfl⟩
  | cons first rest ih =>
      obtain ⟨hconfig, hcache⟩ := client.step_cache first
      obtain ⟨hconfig', hcache'⟩ := ih (client.step first)
      refine ⟨hconfig'.trans hconfig, ?_⟩
      rw [deliveries, List.foldl_append, ← hcache, ← hconfig]
      exact hcache'

theorem cache_step_of_delivered_eq_nil {client : RegistryClient} {event : Event}
    (h : client.delivered event = []) : (client.step event).cache = client.cache := by
  rw [(client.step_cache event).2, h, List.foldl_nil]

/-- A delivery that the copy does not change by leaves it as it is, whether a call waits
for it or not. -/
theorem cache_deliver_of_taking_eq {client : RegistryClient}
    {reply : Except FleetError SnapshotReply} {now : Span}
    (h : client.cache.taking client.config ⟨reply, now⟩ = client.cache) (task : Nat)
    (jitter : Jitter) : (client.deliver task reply jitter now).1.cache = client.cache := by
  have hstep := (client.step_cache (.deliver task reply jitter now)).2
  rw [step, delivered] at hstep
  split at hstep
  · rw [List.foldl_cons, List.foldl_nil, h] at hstep
    exact hstep
  · exact hstep

/-- However calls, replies and failures interleave, the client has no copy because no
snapshot was delivered, or that of the last snapshot delivered, refreshed by the latest
delivery from then on that named its checksum.  Failures, replies that name another
checksum, and whatever is not a delivery leave the copy as it is. -/
theorem run_cache_of_last_snapshot (config : ClientConfig) (events : List Event) :
    let client := (create config).run events
    let deliveries := (create config).deliveries events
    ((client.cache.checksum = none ∧ client.cache.nodes = [] ∧
          client.cache.ring.isEmpty = true ∧ client.cache.refreshedAt = none ∧
          ∀ delivery ∈ deliveries, ¬ delivery.IsFull) ∨
        ∃ before snapshot time after,
          deliveries = before ++ ⟨.ok (.full snapshot), time⟩ :: after ∧
            client.cache.InstalledBy config snapshot time after) ∧
      (∀ event, client.delivered event = [] → (client.step event).cache = client.cache) ∧
      (∀ task cause jitter now,
        (client.deliver task (.error cause) jitter now).1.cache = client.cache) ∧
      (∀ task checksum jitter now, client.cache.checksum ≠ some checksum →
        (client.deliver task (.ok (.unchanged checksum)) jitter now).1.cache = client.cache) := by
  intro client deliveries
  have hcache : client.cache = deliveries.foldl (ClientCache.taking config) (.cold config) :=
    ((create config).run_cache events).2
  refine ⟨?_, fun event => cache_step_of_delivered_eq_nil, ?_, ?_⟩
  · rw [hcache]
    rcases ClientCache.foldl_taking config deliveries with ⟨hcold, hnone⟩ | hinstalled
    · rw [hcold]
      exact Or.inl ⟨rfl, rfl, rfl, rfl, hnone⟩
    · exact Or.inr hinstalled
  · intro task cause jitter now
    exact cache_deliver_of_taking_eq rfl task jitter
  · intro task checksum jitter now hother
    apply cache_deliver_of_taking_eq
    have hne : ¬ (client.cache.checksum == some checksum) = true := by simpa using hother
    exact if_neg hne

end RegistryClient
end CacheTier
