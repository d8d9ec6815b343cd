import CacheTier.Proofs.Client.Background

/-!
# Fetches in flight

A fetch is in flight from the step in which its call goes on to the delivery of its end.
Look-ups, and the background refreshes that they start, keep out of each other's way: a
look-up fetches only while the ring is empty, and starts a refresh only while it is not.
So there are two fetches in flight only where somebody asks for a refresh.
-/

namespace CacheTier
namespace RegistryClient

/-- A call waits for a reply. -/
def Fetching (tasks : Table Nat ClientTask) : Nat → Prop :=
  tasks.Holds (·.stage = .fetching)

theorem fetching_iff {tasks : Table Nat ClientTask} {task : Nat} :
    Fetching tasks task ↔ ∃ call, tasks.get? task = some ⟨call, .fetching⟩ := by
  constructor
  · rintro ⟨⟨call, stage⟩, hget, rfl⟩
    exact ⟨call, hget⟩
  · rintro ⟨call, hget⟩
    exact ⟨_, hget, rfl⟩

/-- No two calls wait for replies at once. -/
def Apart (client : RegistryClient) : Prop :=
  ∀ task other, Fetching client.tasks task → Fetching client.tasks other → task = other

section Steps

variable {client : RegistryClient} {task other : Nat} {now : Span}

theorem fetching_of_submit {call : ClientCall}
    (h : Fetching (client.submit call).1.tasks other) : Fetching client.tasks other := by
  rw [RegistryClient.submit, Fetching, Table.holds_insert_iff] at h
  split_ifs at h
  exact h

/-- A call that goes on sends the client's checksum and is in flight from then on, or
nothing is in flight that has not been before. -/
theorem resume_fetches (client : RegistryClient) (task : Nat) (now : Span) :
    (client.resume task now).2 = [.fetch task client.cache.checksum] ∧
        (∀ other, Fetching (client.resume task now).1.tasks other →
          other = task ∨ Fetching client.tasks other) ∨
      ClientDemand.fetchers (client.resume task now).2 = [] ∧
        ∀ other, Fetching (client.resume task now).1.tasks other →
          Fetching client.tasks other := by
  have hresumed := client.resumed task now
  generalize client.resume task now = next at hresumed ⊢
  have hbegins : ∀ call other, Fetching (client.tasks.insert task ⟨call, .fetching⟩) other →
      other = task ∨ Fetching client.tasks other := by
    intro call other hother
    rw [Fetching, Table.holds_insert_iff] at hother
    split_ifs at hother with heq
    · exact Or.inl heq
    · exact Or.inr hother
  have hends : ∀ tasks other, Fetching (Table.erase tasks task) other → Fetching tasks other := by
    intro tasks other hother
    exact (Table.holds_erase_iff.mp hother).2
  cases hresumed with
  | still _ _ => exact Or.inr ⟨rfl, fun _ => id⟩
  | refreshes _ _ => exact Or.inl ⟨rfl, hbegins _⟩
  | queues _ _ _ _ =>
      refine Or.inr ⟨rfl, ?_⟩
      intro other hother
      rw [Fetching, Table.holds_insert_iff] at hother
      split_ifs at hother
      exact hother
  | fetches _ _ _ => exact Or.inl ⟨rfl, hbegins _⟩
  | passes _ _ =>
      refine Or.inr ⟨?_, ?_⟩
      · rw [andThen, ClientDemand.fetchers_append, client.passTurn_demands.1]
        rfl
      · rw [← client.passTurn_tasks.1]
        exact hends _
  | answers _ _ => exact Or.inr ⟨rfl, hends _⟩
  | renews _ _ _ _ =>
      refine Or.inr ⟨rfl, ?_⟩
      intro other hother
      exact fetching_of_submit (hends _ other hother)

end Steps

/-! ## Look-ups alone -/

/-- What there can be among look-ups alone, by whether the ring is empty: nobody has asked
for a refresh, a look-up fetches while the ring is empty, and a background refresh is under
way while it is not. -/
def Permitted (empty : Bool) : ClientTask → Prop
  | ⟨.locate _, .fetching⟩ => empty = true
  | ⟨.locate _, _⟩ => True
  | ⟨.refresh, _⟩ => False
  | ⟨.background, _⟩ => empty = false

structure LooksUpOnly (client : RegistryClient) : Prop where
  orderly : client.Orderly
  single : SingleFlight client.refreshing client.tasks
  permitted : ∀ task entry, client.tasks.get? task = some entry →
    Permitted client.cache.ring.isEmpty entry

namespace LooksUpOnly

variable {client : RegistryClient} {task : Nat}

theorem create (config : ClientConfig) : (create config).LooksUpOnly where
  orderly := orderly_create config
  single := ⟨none, rfl, by simp [RegistryClient.create, inBackground_iff]⟩
  permitted := by simp [RegistryClient.create]

/-- While a call fetches, no other is a background refresh. -/
theorem eq_of_background (h : client.LooksUpOnly) {call : ClientCall}
    (hget : client.tasks.get? task = some ⟨call, .fetching⟩) {other : Nat} {stage : CallStage}
    (hother : client.tasks.get? other = some ⟨.background, stage⟩) : task = other := by
  have hfetching := h.permitted task _ hget
  cases call with
  | locate key =>
      have hwarm : client.cache.ring.isEmpty = false := h.permitted other _ hother
      have hcold : client.cache.ring.isEmpty = true := hfetching
      rw [hwarm] at hcold
      cases hcold
  | refresh => exact absurd hfetching id
  | background =>
      exact h.single.eq_of_inBackground (inBackground_iff.mpr ⟨_, hget⟩)
        (inBackground_iff.mpr ⟨stage, hother⟩)

theorem apart (h : client.LooksUpOnly) : client.Apart := by
  intro task other htask hother
  obtain ⟨call, hget⟩ := fetching_iff.mp htask
  obtain ⟨call', hget'⟩ := fetching_iff.mp hother
  cases call' with
  | locate key' =>
      cases call with
      | locate key => exact h.orderly.eq_of_fetching hget hget'
      | refresh => exact absurd (h.permitted task _ hget) id
      | background => exact (h.eq_of_background hget' hget).symm
  | refresh => exact absurd (h.permitted other _ hget') id
  | background => exact h.eq_of_background hget hget'

theorem submit (h : client.LooksUpOnly) (key : String) :
    (client.submit (.locate key)).1.LooksUpOnly where
  orderly := h.orderly.submit _
  single := h.single.enter h.orderly.get?_nextTask (by simp) .begun
  permitted := Table.forall_get?_insert h.permitted trivial

theorem resume (h : client.LooksUpOnly) (task : Nat) (now : Span) :
    (client.resume task now).1.LooksUpOnly := by
  have horderly := h.orderly.resume task now
  have hsingle := singleFlight_resume h.single h.orderly task now
  have hresumed := client.resumed task now
  generalize client.resume task now = next at horderly hsingle hresumed ⊢
  refine ⟨horderly, hsingle, ?_⟩
  cases hresumed with
  | still _ _ => exact h.permitted
  | @refreshes call hget hcall =>
      apply Table.forall_get?_insert h.permitted
      have hbegun := h.permitted task _ hget
      cases call with
      | locate key => exact absurd rfl (hcall key)
      | refresh => exact hbegun
      | background => exact hbegun
  | queues _ _ _ _ => exact Table.forall_get?_insert h.permitted trivial
  | fetches _ hcold _ =>
      rw [isCold, ClientCache.isCold, Bool.and_eq_true] at hcold
      exact Table.forall_get?_insert h.permitted hcold.1
  | passes _ _ =>
      simp only [andThen, finish]
      rw [client.passTurn_tasks.1, (keepsCopy_passTurn client).cache]
      exact Table.forall_get?_erase h.permitted task
  | answers _ _ => exact Table.forall_get?_erase h.permitted task
  | renews _ hwarm _ _ =>
      have hnew : Permitted client.cache.ring.isEmpty ⟨.background, .begun⟩ := hwarm
      exact Table.forall_get?_erase (Table.forall_get?_insert h.permitted hnew) task

/-- Only one call fetches or is a background refresh, so whatever a reply makes of the ring,
the calls left are permitted. -/
theorem deliver (h : client.LooksUpOnly) (task : Nat) (reply : Except FleetError SnapshotReply)
    (jitter : Jitter) (now : Span) : (client.deliver task reply jitter now).1.LooksUpOnly := by
  by_cases hfetching : Fetching client.tasks task
  · obtain ⟨call, hget⟩ := fetching_iff.mp hfetching
    have htasks := (deliver_calls hget reply jitter now).1
    refine ⟨h.orderly.deliver task reply jitter now,
      singleFlight_deliver h.single task reply jitter now, ?_⟩
    rintro other ⟨call', stage⟩ hother
    rw [htasks, Table.get?_erase] at hother
    split_ifs at hother with hne
    cases call' with
    | locate key =>
        cases stage with
        | begun => trivial
        | queued => trivial
        | fetching => exact absurd (h.apart _ _ (fetching_iff.mpr ⟨_, hother⟩) hfetching) hne
    | refresh => exact absurd (h.permitted other _ hother) id
    | background => exact absurd (h.eq_of_background hget hother).symm hne
  · rw [deliver_of_not_fetching fun call hget => hfetching (fetching_iff.mpr ⟨call, hget⟩)]
    exact h

end LooksUpOnly

/-- As long as nobody asks for a refresh, no two fetches are in flight at once. -/
theorem apart_of_lookups (config : ClientConfig) {events : List Event}
    (hevents : ∀ call, .submit call ∈ events → ∃ key, call = .locate key) :
    ((create config).run events).Apart := by
  apply LooksUpOnly.apart
  apply run_induction LooksUpOnly (LooksUpOnly.create config)
  intro client event hevent h
  cases event with
  | submit call =>
      obtain ⟨key, rfl⟩ := hevents call hevent
      exact h.submit key
  | resume task now => exact h.resume task now
  | deliver task reply jitter now => exact h.deliver task reply jitter now

end RegistryClient
end CacheTier
