import CacheTier.Proofs.Client.Session
import CacheTier.Proofs.Registry.Checksum

/-!
# Where a refreshed client routes like its registry

After a full reply a client routes every key as the registry does.  After a reply
that nothing has changed it knows only that the checksum of the identifiers is the
same: the members are the same where identifiers have one line, but a node that
left and came back with another capacity may have another number of virtual nodes.
Client and registry can then route a key to two nodes, of which one has done so.
-/

namespace CacheTier

/-! ## A copy and a later state of the registry -/

namespace ClientCache.Copies

variable {cache : ClientCache} {earlier registry : Registry}

theorem ids_eq (h : cache.Copies earlier) :
    cache.nodes.map NodeRecord.id = earlier.nodeIds := by
  rw [h.listed, h.aligned.ids_values]
  rfl

/-- A copy has the virtual nodes that the registry had. -/
theorem share?_eq (h : cache.Copies earlier) (hearlier : earlier.Coherent) (id : NodeId) :
    cache.ring.share? id = earlier.ring.share? id := by
  have hquota : cache.ring.quota = earlier.ring.quota := by
    funext w
    apply Ring.quota_congr
    rw [h.aligned.shaped, hearlier.shaped]
  rw [Ring.share?, Ring.share?, h.aligned.weighed, hearlier.weighed, hquota]

theorem lines_eq (h : cache.Copies earlier) (hearlier : earlier.Coherent)
    (hregistry : registry.Coherent) (hsum : cache.checksum = some registry.checksum)
    (hdigest : Digest.Distinguished (cache.nodes.map NodeRecord.id) registry.nodeIds) :
    Digest.lines earlier.nodeIds = Digest.lines registry.nodeIds := by
  rw [h.ids_eq] at hdigest
  rw [h.summed, Option.some_inj, hearlier.checked, hregistry.checked] at hsum
  exact hdigest.checksum_eq_iff.mp hsum

theorem route?_eq_none_iff (h : cache.Copies earlier) (hregistry : registry.Coherent)
    (hlines : Digest.lines earlier.nodeIds = Digest.lines registry.nodeIds) (key : String) :
    cache.ring.route? key = none ↔ registry.locate? key = none := by
  have hids : earlier.nodes.keys = [] ↔ registry.nodes.keys = [] := by
    rw [← Digest.lines_eq_nil_iff, ← Digest.lines_eq_nil_iff]
    exact Iff.of_eq (congrArg (· = []) hlines)
  rw [h.aligned.route?_eq_none_iff, hids]
  exact hregistry.route?_eq_none_iff.symm

theorem contains_eq (h : cache.Copies earlier)
    (hlines : Digest.lines earlier.nodeIds = Digest.lines registry.nodeIds)
    (hcopy : ∀ record ∈ cache.nodes, record.id.OneLine)
    (hregistry : ∀ id ∈ registry.nodeIds, id.OneLine) (id : NodeId) :
    cache.ring.contains id = registry.contains id := by
  have hearlier : ∀ id ∈ earlier.nodeIds, id.OneLine := by
    intro id hid
    rw [← h.ids_eq] at hid
    obtain ⟨record, hrecord, rfl⟩ := List.mem_map.mp hid
    exact hcopy record hrecord
  have hids : earlier.nodes.keys = registry.nodes.keys :=
    Digest.eq_of_lines_eq hearlier hregistry hlines
  rw [Bool.eq_iff_iff, h.aligned.contains_iff_mem_keys, hids]
  exact Table.contains_iff_mem_keys.symm

end ClientCache.Copies

namespace Session

variable {config : RingConfig} {states : Set Registry} {session : Session}

/-! ## Deliveries of current replies -/

/-- A call of the client waits for a reply that the registry in its present state has
given. -/
structure Answered (session : Session) (task : Nat) (call : ClientCall)
    (known : Option String) : Prop where
  waits : session.client.tasks.get? task = some ⟨call, .fetching⟩
  replied : session.fetches.get? task = some ⟨known, some (session.registry.snapshot known)⟩

theorem Answered.cache_deliver {task : Nat} {call : ClientCall} {known : Option String}
    (h : session.Answered task call known) (jitter : Jitter) (now : Span) :
    (session.step (.deliver task jitter now)).client.cache =
      (session.client.conclude (.ok (session.registry.snapshot known)) jitter now).1.cache := by
  simp only [step, h.replied, absorb]
  exact (RegistryClient.keepsCopy_conclude_deliver h.waits _ jitter now).cache

/-- A full reply makes the client route as the registry does. -/
theorem Sound.route?_of_full (h : session.Sound config states) {known : Option String}
    {snapshot : Snapshot} (hfull : session.registry.snapshot known = .full snapshot)
    (jitter : Jitter) (now : Span) (key : String) :
    (session.client.conclude (.ok (session.registry.snapshot known)) jitter now).1.cache.ring.route?
      key = session.registry.locate? key := by
  have hring : session.client.config.ring = session.registry.config.ring :=
    h.routing.trans h.present.placing.symm
  have hcopies := ClientCache.copies_ofSnapshot h.present.coherent hring
    (Registry.eq_of_snapshot_full hfull) now
  rw [hfull]
  exact Ring.route?_congr (hcopies.aligned.entries_eq h.present.coherent.toAligned) key

/-- A reply without a snapshot leaves the copy, which is that of the checksum it names. -/
theorem Sound.copies_of_unchanged (h : session.Sound config states) {known : Option String}
    (hreply : (session.registry.snapshot known).isUnchanged = true)
    (hknown : session.client.cache.checksum = known) (jitter : Jitter) (now : Span) :
    let cache :=
      (session.client.conclude (.ok (session.registry.snapshot known)) jitter now).1.cache
    cache.checksum = some session.registry.checksum ∧
      ∃ earlier, Registry.Past config states earlier ∧ cache.Copies earlier := by
  have hsent : known = some session.registry.checksum :=
    Registry.snapshot_isUnchanged_iff.mp hreply
  have hsame : session.registry.snapshot known = .unchanged session.registry.checksum := by
    rw [Registry.snapshot, if_pos (beq_iff_eq.mpr hsent)]
  rw [hsame]
  refine ⟨(ClientCache.checksum_confirmed _ _ _).trans (hknown.trans hsent), ?_⟩
  rcases h.copied with hcold | ⟨earlier, hpast, hcopies⟩
  · rw [hknown, hsent] at hcold
    exact absurd hcold (Option.some_ne_none _)
  · exact ⟨earlier, hpast, hcopies.confirmed _ now⟩

/-! ## Refreshes that nothing overlaps -/

theorem run_append (session : Session) (events more : List Event) :
    session.run (events ++ more) = (session.run events).run more :=
  List.foldl_append

theorem run_concat (session : Session) (events : List Event) (event : Event) :
    session.run (events ++ [event]) = (session.run events).step event :=
  run_append session events [event]

theorem run_registry (session : Session) (calls : List Registry.Call) :
    session.run (calls.map .registry) =
      { session with registry := session.registry.run calls } := by
  induction calls generalizing session with
  | nil => rfl
  | cons call rest ih => exact ih (session.step (.registry call))

/-- A refresh up to the registry's reply, while only the registry is called. -/
def refreshing (task : Nat) (calls : List Registry.Call) (now : Span) : List Event :=
  [.submit .refresh, .resume task now] ++ calls.map .registry ++ [.answer task]

/-- A refresh begins by a fetch with the checksum of the client's copy. -/
theorem run_submit_refresh (session : Session) (now : Span) :
    session.run [.submit .refresh, .resume session.client.nextTask now] =
      session.absorb ((session.client.submit .refresh).1.beginFetch
        session.client.nextTask .refresh) := by
  have hbegun : (session.client.submit .refresh).1.tasks.get? session.client.nextTask =
      some ⟨.refresh, .begun⟩ := by
    rw [RegistryClient.submit, Table.get?_insert_self]
  have hresume : (session.client.submit .refresh).1.resume session.client.nextTask now =
      (session.client.submit .refresh).1.beginFetch session.client.nextTask .refresh := by
    rw [RegistryClient.resume, hbegun]
  rw [← hresume]
  rfl

theorem answered_of_fetching {task : Nat} {call : ClientCall} {known : Option String}
    (hwaits : session.client.tasks.get? task = some ⟨call, .fetching⟩)
    (hfetch : session.fetches.get? task = some ⟨known, none⟩) :
    (session.step (.answer task)).Answered task call known := by
  have hstep : session.step (.answer task) =
      { session with
        fetches := session.fetches.insert task
          ⟨known, some (session.registry.snapshot known)⟩ } := by
    rw [step, hfetch]
  rw [hstep]
  exact ⟨hwaits, Table.get?_insert_self _ _ _⟩

/-- While only the registry is called, a refresh is answered for the checksum that the
client still has. -/
theorem answered_refreshing (session : Session) (calls : List Registry.Call) (now : Span) :
    let asked := session.run (refreshing session.client.nextTask calls now)
    asked.Answered session.client.nextTask .refresh session.client.cache.checksum ∧
      asked.client.cache = session.client.cache := by
  intro asked
  -- the session just before the registry replies
  obtain ⟨called, hcalled⟩ : ∃ called : Session, called =
      { session.absorb ((session.client.submit .refresh).1.beginFetch
          session.client.nextTask .refresh) with registry := session.registry.run calls } :=
    ⟨_, rfl⟩
  have hwaits : called.client.tasks.get? session.client.nextTask =
      some ⟨.refresh, .fetching⟩ := by
    rw [hcalled]
    exact Table.get?_insert_self _ _ _
  have hfetch : called.fetches.get? session.client.nextTask =
      some ⟨session.client.cache.checksum, none⟩ := by
    rw [hcalled]
    exact Table.get?_insert_self _ _ _
  have hasked : asked = called.step (.answer session.client.nextTask) := by
    change session.run _ = _
    rw [refreshing, run_concat, run_append, run_submit_refresh, run_registry, hcalled]
    rfl
  refine ⟨hasked ▸ answered_of_fetching hwaits hfetch, ?_⟩
  rw [hasked, step, hfetch, hcalled]
  rfl

/-! ## Agreement -/

/-- In every session, a call whose reply is current when it is delivered ends without
error.  After a full reply the client routes every key as the registry does.  After a
reply that nothing has changed, if the client still has the checksum it asked with,
its copy is that of an earlier moment, and the two route a key alike unless one of
them routes it to a node that had another number of virtual nodes then; both have
members or neither has, and where identifiers have one line they are the same
members.  A refresh during which only the registry is called is answered for the
checksum that the client still has. -/
theorem delivered_reply_settles_routes
    (config : RegistryConfig) (clientConfig : ClientConfig)
    (hring : clientConfig.ring = config.ring) (events : List Event) :
    let session := (start config clientConfig).run events
    (∀ task call known jitter now, session.Answered task call known →
      let reply := session.registry.snapshot known
      let cache := (session.step (.deliver task jitter now)).client.cache
      (call = .refresh → ∃ outcome, .finish task (.refreshed (.ok outcome)) ∈
        (session.client.deliver task (.ok reply) jitter now).2) ∧
      (reply.isUnchanged = false →
        ∀ key, cache.ring.route? key = session.registry.locate? key) ∧
      (reply.isUnchanged = true → session.client.cache.checksum = known →
        (∃ earlier ∈ (start config clientConfig).history events,
          cache.nodes = earlier.nodes.values ∧ cache.ring.entries = earlier.ring.entries ∧
          ∀ key, cache.ring.route? key = session.registry.locate? key ∨
            ∃ id, (cache.ring.route? key = some id ∨ session.registry.locate? key = some id) ∧
              earlier.ring.share? id ≠ session.registry.ring.share? id) ∧
        (Digest.Distinguished (cache.nodes.map NodeRecord.id) session.registry.nodeIds →
          (∀ key, cache.ring.route? key = none ↔ session.registry.locate? key = none) ∧
          ((∀ record ∈ cache.nodes, record.id.OneLine) →
            (∀ id ∈ session.registry.nodeIds, id.OneLine) →
              ∀ id, cache.ring.contains id = session.registry.contains id)))) ∧
    ∀ calls now,
      let asked := session.run (refreshing session.client.nextTask calls now)
      asked.Answered session.client.nextTask .refresh session.client.cache.checksum ∧
        asked.client.cache = session.client.cache := by
  intro session
  have hsound := sound_run_start config clientConfig hring events
  refine ⟨?_, answered_refreshing session⟩
  intro task call known jitter now hanswered reply cache
  have hcache : cache = (session.client.conclude (.ok reply) jitter now).1.cache :=
    hanswered.cache_deliver jitter now
  refine ⟨?_, ?_, ?_⟩
  · rintro rfl
    simp only [RegistryClient.deliver, hanswered.waits, RegistryClient.conclude,
      RegistryClient.finish, List.mem_singleton]
    exact ⟨_, rfl⟩
  · intro hchanged key
    rw [hcache]
    cases hreply : reply with
    | unchanged checksum =>
        rw [hreply] at hchanged
        exact Bool.noConfusion hchanged
    | full snapshot =>
        rw [← hreply]
        exact hsound.route?_of_full hreply jitter now key
  · intro hunchanged hknown
    obtain ⟨hsum, earlier, hpast, hcopies⟩ :=
      hsound.copies_of_unchanged hunchanged hknown jitter now
    rw [← hanswered.cache_deliver jitter now] at hsum hcopies
    refine ⟨⟨earlier, hpast.mem, hcopies.listed, ?_, ?_⟩, ?_⟩
    · exact hcopies.aligned.entries_eq hpast.coherent.toAligned
    · intro key
      simp only [← hcopies.share?_eq hpast.coherent]
      exact hcopies.aligned.placed.route?_eq_or_share?_ne hsound.present.coherent.placed key
    · intro hdigest
      have hlines := hcopies.lines_eq hpast.coherent hsound.present.coherent hsum hdigest
      refine ⟨hcopies.route?_eq_none_iff hsound.present.coherent hlines, ?_⟩
      intro hcopy hregistry id
      exact hcopies.contains_eq hlines hcopy hregistry id

/-- A session on rings with one virtual node for a weight. -/
def startSmall : Session := start { ring := ⟨1⟩ } { ring := ⟨1⟩ }

/-- Two nodes of one capacity join, and the client refreshes its copy. -/
def pairFetched : List Event :=
  [.registry (.pulse ⟨"a"⟩ ⟨1, 0, 0, ⟨0, 0⟩⟩), .registry (.pulse ⟨"b"⟩ ⟨1, 0, 0, ⟨0, 0⟩⟩)] ++
    refreshing 0 [] .zero ++ [.deliver 0 .even .zero]

theorem get?_eq_of_known {fetches : Table Nat Fetch} {task : Nat} {known : Option String}
    (hknown : (fetches.get? task).map Fetch.known = some known)
    (hreply : ((fetches.get? task).bind Fetch.reply).isNone = true) :
    fetches.get? task = some ⟨known, none⟩ := by
  obtain ⟨⟨sent, reply⟩, hfetch, hsent⟩ := Option.map_eq_some_iff.mp hknown
  have hnone : reply = none := by simpa [hfetch] using hreply
  have hsame : sent = known := hsent
  rw [hfetch, hnone, hsame]

theorem answered_second_refresh (events : List Event)
    (htask : (startSmall.run events).client.nextTask = 1) :
    let session := startSmall.run (events ++ refreshing 1 [] .zero)
    session.Answered 1 .refresh session.client.cache.checksum := by
  obtain ⟨hanswered, hcache⟩ := answered_refreshing (startSmall.run events) [] .zero
  rw [← hcache, htask, ← run_append] at hanswered
  exact hanswered

/-- A second refresh of a steady fleet is answered without its members. -/
theorem settled_routes_of_steady_pair :
    let session := startSmall.run (pairFetched ++ refreshing 1 [] .zero)
    let cache := (session.step (.deliver 1 .even .zero)).client.cache
    (session.registry.snapshot session.client.cache.checksum).isUnchanged = true ∧
      Digest.Distinguished (cache.nodes.map NodeRecord.id) session.registry.nodeIds ∧
      ∀ key, cache.ring.route? key = none ↔ session.registry.locate? key = none := by
  have hanswered := answered_second_refresh pairFetched (by decide +kernel)
  have hsettles := (delivered_reply_settles_routes { ring := ⟨1⟩ } { ring := ⟨1⟩ } rfl
    (pairFetched ++ refreshing 1 [] .zero)).1 1 .refresh _ .even .zero hanswered
  rw [← startSmall] at hsettles
  have hstate :
      let session := startSmall.run (pairFetched ++ refreshing 1 [] .zero)
      (session.registry.snapshot session.client.cache.checksum).isUnchanged = true ∧
        (session.step (.deliver 1 .even .zero)).client.cache.nodes.map NodeRecord.id =
          session.registry.nodeIds := by
    decide +kernel
  -- from here on the session is not to be run
  generalize startSmall.run (pairFetched ++ refreshing 1 [] .zero) = session at *
  obtain ⟨hunchanged, hids⟩ := hstate
  have hdigest : Digest.Distinguished
      ((session.step (.deliver 1 .even .zero)).client.cache.nodes.map NodeRecord.id)
      session.registry.nodeIds := fun _ => congrArg Digest.memberLines hids
  exact ⟨hunchanged, hdigest, ((hsettles.2.2 hunchanged rfl).2 hdigest).1⟩

/-- A refresh that is told that nothing has changed leaves a key with two routes. -/
def Misroutes (session : Session) (task : Nat) (known : Option String) (key : String) : Prop :=
  session.Answered task .refresh known ∧
    (session.registry.snapshot known).isUnchanged = true ∧
    (session.step (.deliver task .even .zero)).client.cache.ring.route? key ≠
      session.registry.locate? key

/-- One of the nodes leaves and comes back with twice the capacity. -/
def rejoined : List Event :=
  [.registry (.remove ⟨"b"⟩), .registry (.pulse ⟨"b"⟩ ⟨2, 0, 0, ⟨0, 0⟩⟩)]

/-- One of the nodes leaves and comes back as it was, and a refresh overlaps another
that is answered in between. -/
def overlapped : List Event :=
  [.submit .refresh, .resume 1 .zero, .registry (.remove ⟨"b"⟩)] ++ refreshing 2 [] .zero ++
    [.deliver 2 .even .zero, .registry (.pulse ⟨"b"⟩ ⟨1, 0, 0, ⟨0, 0⟩⟩)]

/-- The checksum of the two nodes. -/
def pairChecksum : String := "05dec960e24d918b8a73a1c53bcbbaac2ee5c2e0"

/-- The client is not told of a node that came back with another capacity, nor that an
overlapping refresh has left it with older members. -/
theorem unchanged_reply_misroutes :
    Misroutes (startSmall.run (pairFetched ++ rejoined ++ refreshing 1 [] .zero)) 1
        (some pairChecksum) "k1" ∧
      Misroutes (startSmall.run (pairFetched ++ overlapped ++ [.answer 1])) 1
        (some pairChecksum) "k3" := by
  constructor
  · obtain ⟨session, hsession⟩ : ∃ session, session =
        startSmall.run (pairFetched ++ rejoined ++ refreshing 1 [] .zero) := ⟨_, rfl⟩
    have hstate : session.client.cache.checksum = some pairChecksum ∧
        (session.registry.snapshot (some pairChecksum)).isUnchanged = true ∧
        (session.step (.deliver 1 .even .zero)).client.cache.ring.route? "k1" ≠
          session.registry.locate? "k1" := by
      rw [hsession]
      decide +kernel
    have hanswered := answered_second_refresh (pairFetched ++ rejoined) (by decide +kernel)
    rw [← hsession] at hanswered ⊢
    exact ⟨hstate.1 ▸ hanswered, hstate.2⟩
  · have hbefore :
        let session := startSmall.run (pairFetched ++ overlapped)
        session.client.tasks.get? 1 = some ⟨.refresh, .fetching⟩ ∧
          (session.fetches.get? 1).map Fetch.known = some (some pairChecksum) ∧
          ((session.fetches.get? 1).bind Fetch.reply).isNone = true := by
      decide +kernel
    obtain ⟨hwaits, hknown, hreply⟩ := hbefore
    refine ⟨?_, ?_⟩
    · rw [run_concat startSmall (pairFetched ++ overlapped)]
      exact answered_of_fetching hwaits (get?_eq_of_known hknown hreply)
    · decide +kernel

end Session
end CacheTier
