import CacheTier.Proofs.Client.Steps

/-!
# A warm client keeps routing

The ring of a client's copy is always the one built from the nodes of the copy.  So it
routes every key as soon as there are nodes, and a client that has nodes answers every
look-up in the step in which it begins: staleness, pauses, failures and whatever fetches
are under way make no difference.
-/

namespace CacheTier

namespace ClientCache

variable {config : ClientConfig} {nodes : List NodeRecord}

/-! ## Rings built from nodes -/

theorem placed_ringOf (config : ClientConfig) (nodes : List NodeRecord) :
    (ringOf config nodes).Placed := by
  rw [ringOf_eq_run]
  exact (Ring.placed_ofConfig Digest.ofText config.ring).run (joins nodes)

theorem weight?_ringOf (config : ClientConfig) (nodes : List NodeRecord) (id : NodeId) :
    (ringOf config nodes).weight? id =
      (nodes.find? (·.id == id)).map NodeRecord.priority := by
  rw [ringOf_eq_run, Ring.weight?_run_ofConfig, joinWeights_joins]

theorem isEmpty_ringOf_iff : (ringOf config nodes).isEmpty = true ↔ nodes = [] := by
  rw [Ring.isEmpty_iff_weight?]
  constructor
  · intro hnone
    cases nodes with
    | nil => rfl
    | cons first rest =>
        have hfirst := hnone first.id
        simp [weight?_ringOf] at hfirst
  · rintro rfl id
    rw [weight?_ringOf]
    rfl

theorem route?_ringOf_eq_none_iff {key : String} :
    (ringOf config nodes).route? key = none ↔ nodes = [] := by
  rw [(placed_ringOf config nodes).route?_eq_none_iff, isEmpty_ringOf_iff]

/-- A ring routes to the nodes that it was built from. -/
theorem exists_mem_of_route?_ringOf {key : String} {id : NodeId}
    (hroute : (ringOf config nodes).route? key = some id) : ∃ record ∈ nodes, record.id = id := by
  have hshare := (placed_ringOf config nodes).share?_ne_none_of_route? hroute
  rw [Ring.share?, weight?_ringOf] at hshare
  cases hfind : nodes.find? (·.id == id) with
  | none => simp [hfind] at hshare
  | some record =>
      exact ⟨record, List.mem_of_find?_eq_some hfind, by simpa using List.find?_some hfind⟩

/-! ## Copies with nodes -/

theorem nodes_taking_ne_nil {cache : ClientCache} (h : cache.nodes ≠ []) {delivery : Delivery}
    (hfull : ∀ snapshot, delivery.reply = .ok (.full snapshot) → snapshot.nodes ≠ []) :
    (cache.taking config delivery).nodes ≠ [] := by
  obtain ⟨reply, now⟩ := delivery
  cases reply with
  | error cause => exact h
  | ok reply =>
      cases reply with
      | unchanged checksum =>
          simp only [taking, confirmed]
          split_ifs
          · exact h
          · exact h
      | full snapshot => exact hfull snapshot rfl

end ClientCache

namespace RegistryClient

/-- The copy's ring is always that of the copy's nodes. -/
theorem ring_run_create (config : ClientConfig) (events : List Event) :
    ((create config).run events).cache.ring =
      ClientCache.ringOf config ((create config).run events).cache.nodes := by
  have hcache : ((create config).run events).cache =
      ((create config).deliveries events).foldl (ClientCache.taking config) (.cold config) :=
    ((create config).run_cache events).2
  rw [hcache]
  rcases ClientCache.foldl_taking config ((create config).deliveries events) with
    ⟨hcold, -⟩ | ⟨_, _, _, _, -, hinstalled⟩
  · rw [hcold]
    rfl
  · rw [hinstalled.ring, hinstalled.nodes]

/-- If a snapshot is delivered at an event, it has nodes. -/
def Event.Populated : Event → Prop
  | .deliver _ (.ok (.full snapshot)) _ _ => snapshot.nodes ≠ []
  | _ => True

theorem nodes_step_ne_nil {client : RegistryClient} {event : Event}
    (hevent : event.Populated) (h : client.cache.nodes ≠ []) :
    (client.step event).cache.nodes ≠ [] := by
  rw [(client.step_cache event).2]
  cases event with
  | submit call => exact h
  | resume task now => exact h
  | deliver task reply jitter now =>
      rw [delivered]
      split
      · apply ClientCache.nodes_taking_ne_nil h
        intro snapshot hreply
        subst hreply
        exact hevent
      · exact h

/-- A look-up by a copy with nodes is answered as soon as it begins. -/
theorem answers_resume_of_warm {client : RegistryClient}
    (hwarm : client.cache.ring.isEmpty = false) {task : Nat} {key : String}
    (hget : client.tasks.get? task = some ⟨.locate key, .begun⟩) (hkey : key.isEmpty = false)
    (now : Span) :
    ClientDemand.answers (client.resume task now).2 =
        [(task, .located (client.cache.route key))] ∧
      ClientDemand.fetchers (client.resume task now).2 = [] := by
  have hcold : client.isCold now = false := by simp [isCold, ClientCache.isCold, hwarm]
  have hresumed := client.resumed task now
  generalize client.resume task now = next at hresumed ⊢
  cases hresumed with
  | still hidle _ => exact absurd hget (hidle _)
  | refreshes hget' hcall =>
      rw [hget] at hget'
      cases hget'
      exact absurd rfl (hcall key)
  | queues _ _ hcold' _ => simp [hcold] at hcold'
  | fetches _ hcold' _ => simp [hcold] at hcold'
  | passes hopen _ =>
      cases hopen with
      | free _ _ hcold' _ => simp [hcold] at hcold'
      | passed hget' _ => simp [hget] at hget'
  | answers hget' hresult =>
      rw [hget] at hget'
      cases hget'
      rcases hresult with ⟨hempty, -⟩ | ⟨-, rfl⟩
      · simp [hkey] at hempty
      · exact ⟨rfl, rfl⟩
  | renews hget' _ _ _ =>
      rw [hget] at hget'
      cases hget'
      exact ⟨rfl, rfl⟩

/-- Once a client has nodes, and as long as no snapshot without nodes is delivered, its
ring stays, and every look-up is answered in the step in which it begins, by the node of
the copy that the ring names then, without a fetch. -/
theorem warm_client_keeps_routing (config : ClientConfig) (events more : List Event)
    (hwarm : ((create config).run events).cache.ring.isEmpty = false)
    (hmore : ∀ event ∈ more, event.Populated) :
    let client := (create config).run (events ++ more)
    client.cache.ring.isEmpty = false ∧
      ∀ task key now, client.tasks.get? task = some ⟨.locate key, .begun⟩ →
        key.isEmpty = false →
        ∃ id, client.cache.ring.route? key = some id ∧
          (∃ record ∈ client.cache.nodes, record.id = id) ∧
          ClientDemand.answers (client.resume task now).2 = [(task, .located (.ok id))] ∧
          ClientDemand.fetchers (client.resume task now).2 = [] := by
  intro client
  have hring : client.cache.ring = ClientCache.ringOf config client.cache.nodes :=
    ring_run_create config (events ++ more)
  have hnodes : client.cache.nodes ≠ [] := by
    rw [ring_run_create, ← Bool.not_eq_true, ClientCache.isEmpty_ringOf_iff] at hwarm
    have hrun : client = ((create config).run events).run more :=
      (create config).run_append events more
    rw [hrun]
    apply run_induction (fun client => client.cache.nodes ≠ []) hwarm
    intro client event hevent hnodes
    exact nodes_step_ne_nil (hmore event hevent) hnodes
  have hstays : client.cache.ring.isEmpty = false := by
    rw [hring, ← Bool.not_eq_true, ClientCache.isEmpty_ringOf_iff]
    exact hnodes
  refine ⟨hstays, ?_⟩
  intro task key now hget hkey
  obtain ⟨id, hroute⟩ : ∃ id, client.cache.ring.route? key = some id := by
    rw [← Option.ne_none_iff_exists', hring]
    exact fun hnone => hnodes (ClientCache.route?_ringOf_eq_none_iff.mp hnone)
  have hanswer : client.cache.route key = .ok id := by rw [ClientCache.route, hroute]
  obtain ⟨hanswers, hfetchers⟩ := answers_resume_of_warm hstays hget hkey now
  rw [hanswer] at hanswers
  refine ⟨id, hroute, ?_, hanswers, hfetchers⟩
  rw [hring] at hroute
  exact ClientCache.exists_mem_of_route?_ringOf hroute

/-- A client on a ring with one virtual node for a weight. -/
def startSmall : RegistryClient := create { ring := ⟨1⟩ }

def oneNode : Snapshot := ⟨"3f78", [⟨⟨"a"⟩, 1, 0, 0, ⟨0, 0⟩, 1⟩]⟩

/-- A refresh brings a snapshot of one node. -/
def nodeFetched : List Event :=
  [.submit .refresh, .resume 0 .zero, .deliver 0 (.ok (.full oneNode)) .even .zero]

/-- The copy grows stale, a refresh fails, and a key is looked up. -/
def outage : List Event :=
  [.submit .refresh, .resume 1 (.ofSeconds 20),
    .deliver 1 (.error (.internal "down")) .even (.ofSeconds 20), .submit (.locate "k")]

theorem warm_client_routes_in_outage :
    (startSmall.run nodeFetched).cache.ring.isEmpty = false ∧
      (∀ event ∈ outage, event.Populated) ∧
      ∃ id, ClientDemand.answers
        ((startSmall.run (nodeFetched ++ outage)).resume 2 (.ofSeconds 20)).2 =
          [(2, .located (.ok id))] := by
  have hwarm : (startSmall.run nodeFetched).cache.ring.isEmpty = false := by decide +kernel
  have hmore : ∀ event ∈ outage, event.Populated := by simp [outage, Event.Populated]
  have hroutes := (warm_client_keeps_routing { ring := ⟨1⟩ } nodeFetched outage hwarm hmore).2
  obtain ⟨id, -, -, hanswers, -⟩ :=
    hroutes 2 "k" (.ofSeconds 20) (by decide +kernel) (by decide)
  exact ⟨hwarm, hmore, id, hanswers⟩

end RegistryClient
end CacheTier
