import CacheTier.Client
import CacheTier.Proofs.Registry.Coherence

/-!
# The client's copy

Of all that a client does, only the delivery of a reply touches its copy of the
registry.  A full reply replaces the copy by the snapshot it carries, and the ring
that is built from the snapshot is aligned with the records that the registry had
when the snapshot was taken.
-/

namespace CacheTier

/-! ## Copies of a registry -/

/-- A snapshot was taken of a registry in this state. -/
def Snapshot.TakenOf (registry : Registry) (snapshot : Snapshot) : Prop :=
  snapshot = ⟨registry.checksum, registry.nodes.values⟩

namespace ClientCache

/-- A copy of a registry in some state: its records, its checksum, and a ring that is
aligned with the records. -/
structure Copies (registry : Registry) (cache : ClientCache) : Prop where
  aligned : Registry.Aligned registry.config.ring cache.ring registry.nodes
  listed : cache.nodes = registry.nodes.values
  summed : cache.checksum = some registry.checksum

theorem ringOf_eq_run (config : ClientConfig) (nodes : List NodeRecord) :
    ringOf config nodes = (Ring.ofConfig Digest.ofText config.ring).run (joins nodes) := by
  rw [ringOf, Ring.run, joins, List.foldl_map]
  rfl

/-- The copy of a snapshot is one of the registry that it was taken of. -/
theorem copies_ofSnapshot {config : ClientConfig} {registry : Registry}
    (h : registry.Coherent) (hring : config.ring = registry.config.ring)
    {snapshot : Snapshot} (hsnapshot : snapshot.TakenOf registry) (now : Span) :
    (ofSnapshot config snapshot now).Copies registry where
  aligned := by
    rw [ofSnapshot, ringOf_eq_run, hring, hsnapshot]
    exact h.rebuild (List.Perm.refl _)
  listed := by
    rw [hsnapshot]
    rfl
  summed := by
    rw [hsnapshot]
    rfl

theorem Copies.confirmed {registry : Registry} {cache : ClientCache} (h : cache.Copies registry)
    (checksum : String) (now : Span) : (cache.confirmed checksum now).Copies registry := by
  rw [ClientCache.confirmed]
  split_ifs
  · exact ⟨h.aligned, h.listed, h.summed⟩
  · exact h

@[simp] theorem checksum_confirmed (cache : ClientCache) (checksum : String) (now : Span) :
    (cache.confirmed checksum now).checksum = cache.checksum := by
  rw [confirmed]
  split_ifs
  · rfl
  · rfl

@[simp] theorem nodes_confirmed (cache : ClientCache) (checksum : String) (now : Span) :
    (cache.confirmed checksum now).nodes = cache.nodes := by
  rw [confirmed]
  split_ifs
  · rfl
  · rfl

end ClientCache

namespace RegistryClient

/-! ## Steps that keep the copy -/

/-- Configuration and copy are the same before and after. -/
structure KeepsCopy (before after : RegistryClient) : Prop where
  config : after.config = before.config
  cache : after.cache = before.cache

theorem KeepsCopy.refl (client : RegistryClient) : KeepsCopy client client := ⟨rfl, rfl⟩

theorem KeepsCopy.trans {a b c : RegistryClient} (h : KeepsCopy a b) (h' : KeepsCopy b c) :
    KeepsCopy a c :=
  ⟨h'.config.trans h.config, h'.cache.trans h.cache⟩

theorem keepsCopy_passTurn (client : RegistryClient) : KeepsCopy client client.passTurn.1 := by
  rw [passTurn]
  split
  · exact ⟨rfl, rfl⟩
  · exact ⟨rfl, rfl⟩

theorem keepsCopy_takeTurn (client : RegistryClient) (task : Nat) (key : String) (now : Span) :
    KeepsCopy client (client.takeTurn task key now).1 := by
  have hpass : KeepsCopy client client.passTurn.1 := keepsCopy_passTurn client
  rw [takeTurn]
  split_ifs
  · split
    · exact hpass.trans ⟨rfl, rfl⟩
    · exact ⟨rfl, rfl⟩
  · exact hpass.trans ⟨rfl, rfl⟩

theorem keepsCopy_startRefresh (client : RegistryClient) (now : Span) :
    KeepsCopy client (client.startRefresh now).1 := by
  rw [startRefresh]
  split_ifs
  · exact KeepsCopy.refl client
  · exact ⟨rfl, rfl⟩

theorem keepsCopy_beginLocate (client : RegistryClient) (task : Nat) (key : String)
    (now : Span) : KeepsCopy client (client.beginLocate task key now).1 := by
  rw [beginLocate]
  split_ifs
  · exact ⟨rfl, rfl⟩
  · split
    · have hturn : KeepsCopy client { client with turn := some task } := ⟨rfl, rfl⟩
      exact hturn.trans (keepsCopy_takeTurn _ task key now)
    · exact ⟨rfl, rfl⟩
  · exact (keepsCopy_startRefresh client now).trans ⟨rfl, rfl⟩
  · exact ⟨rfl, rfl⟩

theorem keepsCopy_resume (client : RegistryClient) (task : Nat) (now : Span) :
    KeepsCopy client (client.resume task now).1 := by
  rw [resume]
  split
  · exact keepsCopy_beginLocate client task _ now
  · exact ⟨rfl, rfl⟩
  · split_ifs
    · exact keepsCopy_takeTurn client task _ now
    · exact KeepsCopy.refl client
  · exact KeepsCopy.refl client

/-! ## Deliveries -/

theorem keepsCopy_finishLocate (client : RegistryClient) (task : Nat) (key : String)
    (outcome : Except FleetError RefreshOutcome) :
    KeepsCopy client (client.finishLocate task key outcome).1 := by
  cases outcome with
  | error cause =>
      rw [finishLocate]
      split_ifs
      · exact ⟨rfl, rfl⟩
      · exact ⟨rfl, rfl⟩
  | ok outcome => exact ⟨rfl, rfl⟩

/-- The end of a fetch is taken in before its call is answered. -/
theorem keepsCopy_conclude_deliver {client : RegistryClient} {task : Nat} {call : ClientCall}
    (h : client.tasks.get? task = some ⟨call, .fetching⟩)
    (reply : Except FleetError SnapshotReply) (jitter : Jitter) (now : Span) :
    KeepsCopy (client.conclude reply jitter now).1 (client.deliver task reply jitter now).1 := by
  rw [deliver, h]
  cases call with
  | locate key => exact (keepsCopy_passTurn _).trans (keepsCopy_finishLocate _ task key _)
  | refresh => exact ⟨rfl, rfl⟩
  | background => exact ⟨rfl, rfl⟩

theorem deliver_of_not_fetching {client : RegistryClient} {task : Nat}
    (h : ∀ call, client.tasks.get? task ≠ some ⟨call, .fetching⟩)
    (reply : Except FleetError SnapshotReply) (jitter : Jitter) (now : Span) :
    client.deliver task reply jitter now = (client, []) := by
  rw [deliver]
  split
  · rename_i call hget
    exact absurd hget (h call)
  · rfl

end RegistryClient
end CacheTier
