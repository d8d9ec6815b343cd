import CacheTier.Proofs.Registry.Steps
import CacheTier.Proofs.Ring.Occupancy
import CacheTier.Proofs.Totals

/-!
# What a registry counts

The counters of a registry are the totals of what its calls have answered: how many pulses
joined, renewed or were ignored, how many nodes the sweeps have named, how many removals found
their node.  Members come with the first of these and go with the last two, so the totals
also give the number of members.  A pulse over which the program panics has been counted by
then and is counted as nothing else, so each of them leaves the pulses one ahead of what became
of them.
-/

namespace CacheTier
namespace Registry

/-! ## Answers -/

/-- What a call answers. -/
inductive Answer where
  | pulsed (ending : PulseEnding)
  | swept (expired : List NodeId)
  | removed (known : Bool)

namespace Answer

@[simp] def isJoin : Answer → Bool
  | pulsed (.ok (.joined _)) => true
  | _ => false

@[simp] def isUpdate : Answer → Bool
  | pulsed (.ok .updated) => true
  | _ => false

@[simp] def isStale : Answer → Bool
  | pulsed (.ok .stale) => true
  | _ => false

/-- Whether a removal found its node. -/
@[simp] def isRemoval : Answer → Bool
  | removed known => known
  | _ => false

/-- The nodes that a sweep names. -/
@[simp] def expired : Answer → List NodeId
  | swept expired => expired
  | _ => []

/-- Whether the program panicked over a pulse. -/
@[simp] def isPanic : Answer → Bool
  | pulsed (.error .panicked) => true
  | _ => false

/-- Whether a pulse was not refused. -/
@[simp] def isCounted : Answer → Bool
  | pulsed (.ok _) => true
  | pulsed (.error .panicked) => true
  | _ => false

theorem toNat_isCounted (answer : Answer) :
    answer.isCounted.toNat =
      answer.isJoin.toNat + answer.isUpdate.toNat + answer.isStale.toNat +
        answer.isPanic.toNat := by
  rcases answer with ((_ | _) | (_ | _ | _)) | _ | _ <;> rfl

end Answer

/-- Whether a call is a pulse that names a node. -/
def Call.isNamedPulse : Call → Bool
  | .pulse id _ => !id.isEmpty
  | _ => false

def answer (registry : Registry) : Call → Answer
  | .pulse id report => .pulsed (registry.pulse id report).2
  | .sweep now timeout => .swept (registry.sweep now timeout).2
  | .remove id => .removed (registry.remove id).2

/-- What the calls of a sequence answer. -/
def answers (registry : Registry) : List Call → List Answer
  | [] => []
  | call :: rest => registry.answer call :: answers (registry.call call) rest

variable {registry : Registry} {id : NodeId} {report : CapacityReport}

theorem length_answers (registry : Registry) (calls : List Call) :
    (registry.answers calls).length = calls.length := by
  induction calls generalizing registry with
  | nil => rfl
  | cons call rest ih => rw [answers, List.length_cons, ih, List.length_cons]

/-- Exactly the pulses that name no node are refused. -/
theorem isCounted_answer (registry : Registry) (call : Call) :
    (registry.answer call).isCounted = call.isNamedPulse := by
  cases call with
  | pulse id report =>
      have hpulsed := registry.pulsed id report
      rw [answer, Call.isNamedPulse]
      generalize registry.pulse id report = result at hpulsed ⊢
      cases hpulsed with
      | refused hname => simp [hname]
      | panics hname _ _ => simp [hname]
      | joins hname _ _ => simp [hname]
      | renews hname _ _ => simp [hname]
      | ignores hname _ _ => simp [hname]
  | sweep now timeout => rfl
  | remove id => rfl

theorem countP_isCounted (registry : Registry) (calls : List Call) :
    (registry.answers calls).countP Answer.isCounted = calls.countP Call.isNamedPulse := by
  induction calls generalizing registry with
  | nil => rfl
  | cons call rest ih =>
      rw [answers, List.countP_cons, List.countP_cons, ih, isCounted_answer]

theorem countP_isCounted_eq_add (answers : List Answer) :
    answers.countP Answer.isCounted =
      answers.countP Answer.isJoin + answers.countP Answer.isUpdate +
        answers.countP Answer.isStale + answers.countP Answer.isPanic := by
  simp only [← sum_map_toNat, Answer.toNat_isCounted, List.sum_map_add]

/-! ## Counters -/

/-- The counters after a call with an answer. -/
def countAnswer (counters : RegistryCounters) (answer : Answer) : RegistryCounters where
  pulses := counters.pulses + UInt64.ofNat answer.isCounted.toNat
  joins := counters.joins + UInt64.ofNat answer.isJoin.toNat
  updates := counters.updates + UInt64.ofNat answer.isUpdate.toNat
  stalePulses := counters.stalePulses + UInt64.ofNat answer.isStale.toNat
  expirations := counters.expirations + UInt64.ofNat answer.expired.length
  removals := counters.removals + UInt64.ofNat answer.isRemoval.toNat

theorem counters_foldl_drop (registry : Registry) (ids : List NodeId) :
    (ids.foldl drop registry).counters = registry.counters := by
  rw [foldl_drop_eq]

theorem counters_sweep (registry : Registry) (now : Instant) (timeout : Span) :
    (registry.sweep now timeout).1.counters =
      { registry.counters with
        expirations := registry.counters.expirations +
          UInt64.ofNat (registry.sweep now timeout).2.length } := by
  rw [sweep]
  split
  · simp
  · simp [publish, withChecksum, counters_foldl_drop]

theorem counters_remove (registry : Registry) (id : NodeId) :
    (registry.remove id).1.counters =
      { registry.counters with
        removals := registry.counters.removals +
          UInt64.ofNat (registry.remove id).2.toNat } := by
  rw [remove]
  split_ifs
  · rfl
  · simp

/-- What a call counts shows in its answer. -/
theorem counters_call (registry : Registry) (call : Call) :
    (registry.call call).counters = countAnswer registry.counters (registry.answer call) := by
  cases call with
  | pulse id report =>
      have hpulsed := registry.pulsed id report
      rw [Registry.call, answer]
      generalize registry.pulse id report = result at hpulsed ⊢
      cases hpulsed with
      | refused _ => simp [countAnswer]
      | panics _ _ _ => simp [countAnswer, anchored, countPulse]
      | joins _ _ _ => simp [countAnswer, join, anchored, countPulse, publish, withChecksum]
      | renews _ _ _ => simp [countAnswer, renew, countPulse, publish]
      | ignores _ _ _ => simp [countAnswer, ignoreStale, countPulse, publish]
  | sweep now timeout =>
      rw [Registry.call, answer, counters_sweep]
      simp [countAnswer]
  | remove id =>
      rw [Registry.call, answer, counters_remove]
      simp [countAnswer]

theorem counters_run (registry : Registry) (calls : List Call) :
    (registry.run calls).counters =
      (registry.answers calls).foldl countAnswer registry.counters := by
  induction calls generalizing registry with
  | nil => rfl
  | cons call rest ih =>
      rw [answers, List.foldl_cons, ← counters_call]
      exact ih (registry.call call)

/-! ## Members -/

theorem size_foldl_drop (hcoherent : registry.nodes.Ascending) {ids : List NodeId}
    (hdistinct : ids.Nodup) (hmember : ∀ id ∈ ids, registry.contains id = true) :
    (ids.foldl drop registry).size + ids.length = registry.size := by
  induction ids generalizing registry with
  | nil => rfl
  | cons id rest ih =>
      obtain ⟨hnew, hrest⟩ := List.nodup_cons.mp hdistinct
      obtain ⟨hfirst, hothers⟩ := List.forall_mem_cons.mp hmember
      obtain ⟨record, hget⟩ := Option.isSome_iff_exists.mp hfirst
      have hdropped : registry.size = (registry.drop id).size + 1 :=
        (hcoherent.perm_erase hget).length_eq
      have hkept : ∀ k ∈ rest, (registry.drop id).contains k = true := by
        intro k hk
        rw [contains_eq_isSome, get?_drop, if_neg (ne_of_mem_of_not_mem hk hnew)]
        exact hothers k hk
      rw [List.foldl_cons, List.length_cons, hdropped,
        ← ih (Table.ascending_erase hcoherent id) hrest hkept]
      omega

theorem Coherent.size_sweep (h : registry.Coherent) (now : Instant) (timeout : Span) :
    (registry.sweep now timeout).1.size + (registry.sweep now timeout).2.length =
      registry.size := by
  have hmember : ∀ id ∈ (registry.expiredAt now timeout).map NodeRecord.id,
      registry.contains id = true := by
    intro id hid
    obtain ⟨record, hrecord, rfl⟩ := List.mem_map.mp hid
    rw [contains_eq_isSome, h.get?_of_mem_expiredAt hrecord, Option.isSome_some]
  have hsize := size_foldl_drop h.ascending (h.nodup_expiredAt now timeout) hmember
  rw [snd_sweep, Registry.sweep]
  split
  · next hnone => rw [hnone, List.map_nil, List.length_nil, Nat.add_zero]
  · exact hsize

theorem Coherent.size_remove (h : registry.Coherent) (id : NodeId) :
    (registry.remove id).1.size + (registry.remove id).2.toNat = registry.size := by
  rw [Registry.remove]
  split_ifs with hin
  · obtain ⟨record, hget⟩ := Option.isSome_iff_exists.mp hin
    exact (h.ascending.perm_erase hget).length_eq.symm
  · rfl

/-- A member more for a node that joins, and one less for each that a call names or removes. -/
theorem Coherent.size_call (h : registry.Coherent) (call : Call) :
    (registry.call call).size + (registry.answer call).expired.length +
        (registry.answer call).isRemoval.toNat =
      registry.size + (registry.answer call).isJoin.toNat := by
  cases call with
  | pulse id report =>
      have hpulsed := registry.pulsed id report
      rw [Registry.call, answer]
      generalize registry.pulse id report = result at hpulsed ⊢
      cases hpulsed with
      | refused _ => rfl
      | panics _ _ _ => rfl
      | joins _ hnew _ =>
          have hinsert := (h.ascending.perm_insert id
            (.ofReport id report (registry.countPulse.joinWeight report))).length_eq
          rw [Table.erase_of_get?_eq_none hnew] at hinsert
          exact hinsert
      | @renews record _ hknown _ =>
          have hcontains : registry.nodes.contains id = true := by
            rw [Table.contains, show registry.nodes.get? id = some record from hknown,
              Option.isSome_some]
          have hkeys := congrArg List.length
            (Table.keys_insert_of_contains h.ascending hcontains (record.apply report))
          rw [Table.length_keys, Table.length_keys] at hkeys
          exact hkeys
      | ignores _ _ _ => rfl
  | sweep now timeout => exact h.size_sweep now timeout
  | remove id => exact h.size_remove id

/-- The members of a run are the joins less the expirations and the removals. -/
theorem Coherent.size_run (h : registry.Coherent) (calls : List Call) :
    (registry.run calls).size +
        ((registry.answers calls).map fun answer => answer.expired.length).sum +
        (registry.answers calls).countP Answer.isRemoval =
      registry.size + (registry.answers calls).countP Answer.isJoin := by
  induction calls generalizing registry with
  | nil => rfl
  | cons call rest ih =>
      have hcall := h.size_call call
      have hrest := ih (h.call call)
      simp only [answers, List.map_cons, List.sum_cons, ← sum_map_toNat] at hrest ⊢
      change ((registry.call call).run rest).size + _ + _ = _
      omega

/-! ## Virtual nodes -/

/-- Ring and records give the members the same weights. -/
theorem Aligned.weights_perm {config : RingConfig} {ring : FleetRing}
    {nodes : Table NodeId NodeRecord} (h : Aligned config ring nodes) :
    (ring.members.map fun m => (m.id, m.weight)).Perm
      (nodes.entries.map fun pair => (pair.1, pair.2.priority)) := by
  have hmembers : (ring.members.map fun m => (m.id, m.weight)).Nodup := by
    apply List.Nodup.of_map Prod.fst
    rw [List.map_map]
    exact h.placed.distinct
  have hnodes : (nodes.entries.map fun pair => (pair.1, pair.2.priority)).Nodup := by
    apply List.Nodup.of_map Prod.fst
    rw [List.map_map]
    exact h.ascending.nodup
  apply (List.perm_ext_iff_of_nodup hmembers hnodes).mpr
  rintro ⟨id, weight⟩
  have hweighed : ring.weight? id = some weight ↔
      (nodes.get? id).map NodeRecord.priority = some weight := by rw [h.weighed]
  rw [h.placed.weight?_eq_some_iff, Option.map_eq_some_iff] at hweighed
  simp only [List.mem_map, Prod.mk.injEq, Prod.exists, ← h.ascending.get?_eq_some_iff]
  rw [hweighed]
  constructor
  · rintro ⟨record, hget, hpriority⟩
    exact ⟨id, record, hget, rfl, hpriority⟩
  · rintro ⟨_, record, hget, rfl, hpriority⟩
    exact ⟨record, hget, hpriority⟩

/-- The virtual nodes that the recorded nodes are due for their weights. -/
def quotas (registry : Registry) : Nat :=
  (registry.nodes.values.map fun record => registry.ring.quota record.priority).sum

theorem Coherent.quotas_eq (h : registry.Coherent) :
    registry.quotas = (registry.ring.members.map fun m => registry.ring.quota m.weight).sum := by
  have hperm := (h.weights_perm.map fun pair => registry.ring.quota pair.2).sum_eq
  rw [List.map_map, List.map_map] at hperm
  rw [quotas, Table.values, List.map_map]
  exact hperm.symm

/-- No two virtual nodes of one member share a hash. -/
def Scattered (registry : Registry) : Prop :=
  ∀ id record, registry.get? id = some record →
    ∀ i < registry.ring.quota record.priority, ∀ j < registry.ring.quota record.priority,
      Digest.ofText (Ring.label id i) = Digest.ofText (Ring.label id j) → i = j

theorem Coherent.entryCount_of_scattered (h : registry.Coherent)
    (hscattered : registry.Scattered) : registry.ring.entryCount = registry.quotas := by
  rw [h.quotas_eq]
  apply h.placed.entryCount_of_nodup
  intro m hm
  rw [Ring.nodup_positions_iff]
  have hweight : registry.ring.weight? m.id = some m.weight :=
    h.placed.weight?_eq_some_iff.mpr ⟨m, hm, rfl, rfl⟩
  rw [h.weighed, Option.map_eq_some_iff] at hweight
  obtain ⟨record, hget, hpriority⟩ := hweight
  rw [← hpriority]
  exact hscattered m.id record hget

/-! ## Statistics -/

section Counter

variable {word : RegistryCounters → UInt64} {config : RegistryConfig} {calls : List Call}

/-- A counter that goes on by a share of every answer is the sum of the shares, if they are not
more than the calls, and those fewer than the words. -/
theorem counter_eq_sum {share : Answer → Nat}
    (hstep : ∀ c a, word (countAnswer c a) = word c + UInt64.ofNat (share a))
    (hzero : word {} = 0) (hcalls : calls.length < UInt64.size)
    (hle : (((create config).answers calls).map share).sum ≤ calls.length) :
    (word ((create config).run calls).counters).toNat =
      (((create config).answers calls).map share).sum := by
  rw [counters_run, show (create config).counters = {} from rfl, foldl_total hstep, hzero,
    UInt64.zero_add]
  exact UInt64.toNat_ofNat_of_lt' (Nat.lt_of_le_of_lt hle hcalls)

theorem counter_eq_countP {p : Answer → Bool}
    (hstep : ∀ c a, word (countAnswer c a) = word c + UInt64.ofNat (p a).toNat)
    (hzero : word {} = 0) (hcalls : calls.length < UInt64.size) :
    (word ((create config).run calls).counters).toNat =
      ((create config).answers calls).countP p := by
  rw [counter_eq_sum hstep hzero hcalls, sum_map_toNat]
  rw [sum_map_toNat, ← length_answers (create config) calls]
  exact List.countP_le_length

end Counter

/-- After fewer calls than there are words, the counters of a registry are the totals of what
the calls have answered.  Every pulse that named a node has joined it, has renewed it, was
ignored or ended in a panic, so the first three of these make up the pulses exactly if there was
no panic.  The members are the joins less the expirations and the removals; and the ring has at
most as many virtual nodes as the members are due for their weights, and that many if no two
of one member share a hash. -/
theorem statistics_add_up (config : RegistryConfig) (calls : List Call)
    (hcalls : calls.length < UInt64.size) :
    let registry := (create config).run calls
    let answers := (create config).answers calls
    let counters := registry.stats.counters
    counters.pulses.toNat = calls.countP Call.isNamedPulse ∧
      counters.joins.toNat = answers.countP Answer.isJoin ∧
      counters.updates.toNat = answers.countP Answer.isUpdate ∧
      counters.stalePulses.toNat = answers.countP Answer.isStale ∧
      counters.expirations.toNat = (answers.map fun answer => answer.expired.length).sum ∧
      counters.removals.toNat = answers.countP Answer.isRemoval ∧
      counters.pulses.toNat =
        counters.joins.toNat + counters.updates.toNat + counters.stalePulses.toNat +
          answers.countP Answer.isPanic ∧
      (counters.pulses.toNat =
          counters.joins.toNat + counters.updates.toNat + counters.stalePulses.toNat ↔
        ∀ answer ∈ answers, answer.isPanic = false) ∧
      registry.stats.nodeCount.toNat + counters.expirations.toNat + counters.removals.toNat =
        counters.joins.toNat ∧
      registry.stats.virtualNodes.toNat ≤ registry.quotas ∧
      (registry.Scattered → registry.ring.entryCount = registry.quotas ∧
        registry.stats.virtualNodes = UInt64.ofNat registry.quotas) := by
  intro registry answers counters
  have hcoherent : registry.Coherent := (coherent_create config).run calls
  have hsize : registry.size + (answers.map fun answer => answer.expired.length).sum +
      answers.countP Answer.isRemoval = answers.countP Answer.isJoin := by
    have hrun := (coherent_create config).size_run calls
    rwa [show (create config).size = 0 from rfl, Nat.zero_add] at hrun
  have hjoined : answers.countP Answer.isJoin ≤ calls.length := by
    rw [← length_answers (create config) calls]
    exact List.countP_le_length
  have hpulses : counters.pulses.toNat = answers.countP Answer.isCounted :=
    counter_eq_countP (fun _ _ => rfl) rfl hcalls
  have hjoins : counters.joins.toNat = answers.countP Answer.isJoin :=
    counter_eq_countP (fun _ _ => rfl) rfl hcalls
  have hupdates : counters.updates.toNat = answers.countP Answer.isUpdate :=
    counter_eq_countP (fun _ _ => rfl) rfl hcalls
  have hstale : counters.stalePulses.toNat = answers.countP Answer.isStale :=
    counter_eq_countP (fun _ _ => rfl) rfl hcalls
  have hexpired : (answers.map fun answer => answer.expired.length).sum ≤ calls.length := by
    omega
  have hexpirations : counters.expirations.toNat =
      (answers.map fun answer => answer.expired.length).sum :=
    counter_eq_sum (fun _ _ => rfl) rfl hcalls hexpired
  have hremovals : counters.removals.toNat = answers.countP Answer.isRemoval :=
    counter_eq_countP (fun _ _ => rfl) rfl hcalls
  have hcount : registry.stats.nodeCount.toNat = registry.size :=
    UInt64.toNat_ofNat_of_lt' (by omega)
  have hle : registry.ring.entryCount ≤ registry.quotas := by
    rw [hcoherent.quotas_eq]
    exact hcoherent.placed.entryCount_le
  have htotal : counters.pulses.toNat =
      counters.joins.toNat + counters.updates.toNat + counters.stalePulses.toNat +
        answers.countP Answer.isPanic := by
    rw [hpulses, hjoins, hupdates, hstale, countP_isCounted_eq_add]
  refine ⟨?_, hjoins, hupdates, hstale, hexpirations, hremovals, htotal, ?_, ?_, ?_, ?_⟩
  · rw [hpulses, countP_isCounted]
  · rw [htotal, Nat.add_eq_left, List.countP_eq_zero]
    simp only [Bool.not_eq_true]
  · rw [hcount, hexpirations, hremovals, hjoins, hsize]
  · exact (Nat.mod_le _ _).trans hle
  · intro hscattered
    have hequal := hcoherent.entryCount_of_scattered hscattered
    exact ⟨hequal, congrArg UInt64.ofNat hequal⟩

/-- Two nodes join, a pulse without a name is refused, one of the nodes is late and the other
renews; a sweep takes out the first and a removal the second, which is removed once more in
vain; and the first joins again. -/
def comingsAndGoings : List Call :=
  [.pulse ⟨"a"⟩ (reportAt 10 4), .pulse ⟨""⟩ (reportAt 15 4), .pulse ⟨"b"⟩ (reportAt 20 8),
    .pulse ⟨"a"⟩ (reportAt 5 4), .pulse ⟨"b"⟩ (reportAt 30 8), .sweep ⟨100, 0⟩ (.ofSeconds 80),
    .remove ⟨"b"⟩, .remove ⟨"b"⟩, .pulse ⟨"a"⟩ (reportAt 110 4)]

theorem statistics_of_comingsAndGoings :
    comingsAndGoings.length < UInt64.size ∧
      let stats := ((create {}).run comingsAndGoings).stats
      stats.counters.pulses.toNat = 5 ∧ stats.counters.joins.toNat = 3 ∧
        stats.counters.updates.toNat = 1 ∧ stats.counters.stalePulses.toNat = 1 ∧
        stats.counters.expirations.toNat = 1 ∧ stats.counters.removals.toNat = 1 ∧
        stats.nodeCount.toNat = 1 := by
  have hcalls : comingsAndGoings.length < UInt64.size := by decide
  obtain ⟨hpulses, hjoins, hupdates, hstale, hexpirations, hremovals, -, -, hcount, -, -⟩ :=
    statistics_add_up {} comingsAndGoings hcalls
  have hthree : ((create {}).answers comingsAndGoings).countP Answer.isJoin = 3 := by
    decide +kernel
  have hupdated : ((create {}).answers comingsAndGoings).countP Answer.isUpdate = 1 := by
    decide +kernel
  have hlate : ((create {}).answers comingsAndGoings).countP Answer.isStale = 1 := by
    decide +kernel
  have hone : ((create {}).answers comingsAndGoings).countP Answer.isRemoval = 1 := by
    decide +kernel
  have hswept : (((create {}).answers comingsAndGoings).map
      fun answer => answer.expired.length).sum = 1 := by decide +kernel
  rw [hthree] at hjoins
  rw [hone] at hremovals
  rw [hswept] at hexpirations
  exact ⟨hcalls, hpulses, hjoins, hupdates.trans hupdated, hstale.trans hlate, hexpirations,
    hremovals, by omega⟩

/-- A node with one byte joins, and the next one reports all the bytes that a word can count. -/
def smallThenLargest : List Call :=
  [.pulse ⟨"a"⟩ (reportAt 0 1), .pulse ⟨"b"⟩ (reportAt 0 18446744073709551615)]

/-- The program panics over the second pulse, which has been counted by then.  So two pulses that
named a node have come to one join, no update and no stale pulse. -/
theorem panic_leaves_pulses_ahead :
    let stats := ((create {}).run smallThenLargest).stats
    smallThenLargest.countP Call.isNamedPulse = 2 ∧
      ((create {}).answers smallThenLargest).map Answer.isPanic = [false, true] ∧
      stats.counters.pulses = 2 ∧ stats.counters.joins = 1 ∧ stats.counters.updates = 0 ∧
      stats.counters.stalePulses = 0 ∧ stats.nodeCount = 1 := by
  decide +kernel

end Registry
end CacheTier
