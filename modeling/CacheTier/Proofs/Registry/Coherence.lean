import CacheTier.Proofs.Registry.Ending
import CacheTier.Proofs.Ring.Membership
import CacheTier.Proofs.Table

/-!
# The registry is coherent

A registry keeps its members three times: in the table of records, on the ring,
and in the checksum of their identifiers.  Pulses, sweeps and removals change all
three.  This file shows that they never drift apart: in every state a registry
can reach, the ring is the one that would be built afresh from the records, in
whatever order they are added.
-/

namespace CacheTier

/-! ## Rings built from records -/

/-- The changes that add records to a ring one after another. -/
def joins (records : List NodeRecord) : List Ring.Change :=
  records.map fun record => .add record.id record.priority

/-- A node that is recorded twice keeps the weight of its first record. -/
theorem foldl_recordChange_joins
    (records : List NodeRecord) (weights : NodeId → Option Float) (id : NodeId) :
    (joins records).foldl Ring.recordChange weights id =
      (weights id).or ((records.find? (·.id == id)).map NodeRecord.priority) := by
  induction records generalizing weights with
  | nil => simp [joins]
  | cons record rest ih =>
      rw [joins, List.map_cons, List.foldl_cons, ← joins, ih, Ring.recordChange]
      by_cases hid : record.id = id
      · cases hweight : weights record.id with
        | none => simp [hid ▸ hweight, hid]
        | some w => simp [hid ▸ hweight, hid]
      · have hne : id ≠ record.id := fun h => hid h.symm
        cases hweight : weights record.id with
        | none => simp [hid, Function.update_of_ne hne]
        | some w => simp [hid]

theorem joinWeights_joins (records : List NodeRecord) (id : NodeId) :
    Ring.joinWeights (joins records) id =
      (records.find? (·.id == id)).map NodeRecord.priority := by
  rw [Ring.joinWeights, foldl_recordChange_joins, Option.none_or]

namespace Registry

/-! ## Ring and records -/

/-- The ring has the recorded nodes as its members, each with the priority of its
record, and every record stands under its own identifier, which is not empty. -/
structure Aligned (config : RingConfig) (ring : FleetRing)
    (nodes : Table NodeId NodeRecord) : Prop where
  placed : ring.Placed
  shaped : ring.entriesPerWeight = max config.entriesPerWeight 1
  ascending : nodes.Ascending
  recorded : ∀ id record, nodes.get? id = some record → record.id = id
  named : ∀ id record, nodes.get? id = some record → id.isEmpty = false
  weighed : ∀ id, ring.weight? id = (nodes.get? id).map NodeRecord.priority

variable {config : RingConfig} {ring : FleetRing} {nodes : Table NodeId NodeRecord}

theorem aligned_ofConfig (config : RingConfig) :
    Aligned config (.ofConfig Digest.ofText config) .empty where
  placed := Ring.placed_ofConfig Digest.ofText config
  shaped := rfl
  ascending := Table.ascending_empty
  recorded := by simp
  named := by simp
  weighed := fun _ => rfl

theorem Aligned.join (h : Aligned config ring nodes) {id : NodeId}
    (hnew : nodes.get? id = none) (hname : id.isEmpty = false)
    (report : CapacityReport) (weight : Float) :
    Aligned config (ring.add id weight).1
      (nodes.insert id (.ofReport id report weight)) where
  placed := h.placed.add id weight
  shaped := by rw [Ring.entriesPerWeight_add, h.shaped]
  ascending := Table.ascending_insert h.ascending _ _
  recorded := Table.forall_get?_insert h.recorded rfl
  named := Table.forall_get?_insert h.named hname
  weighed := by
    intro k
    have hfree : ring.weight? id = none := by rw [h.weighed, hnew, Option.map_none]
    rw [Ring.weight?_add, Table.get?_insert, hfree]
    split_ifs with hk
    · rfl
    · exact h.weighed k

theorem Aligned.renew (h : Aligned config ring nodes) {id : NodeId} {record : NodeRecord}
    (hknown : nodes.get? id = some record) (report : CapacityReport) :
    Aligned config ring (nodes.insert id (record.apply report)) where
  placed := h.placed
  shaped := h.shaped
  ascending := Table.ascending_insert h.ascending _ _
  recorded := Table.forall_get?_insert h.recorded (h.recorded id record hknown)
  named := Table.forall_get?_insert h.named (h.named id record hknown)
  weighed := by
    intro k
    rw [Table.get?_insert]
    split_ifs with hk
    · rw [hk, h.weighed, hknown]
      rfl
    · exact h.weighed k

theorem Aligned.drop (h : Aligned config ring nodes) (id : NodeId) :
    Aligned config (ring.remove id).1 (nodes.erase id) where
  placed := h.placed.remove id
  shaped := by rw [Ring.entriesPerWeight_remove, h.shaped]
  ascending := Table.ascending_erase h.ascending id
  recorded := Table.forall_get?_erase h.recorded id
  named := Table.forall_get?_erase h.named id
  weighed := by
    intro k
    rw [Ring.weight?_remove, Table.get?_erase]
    split_ifs with hk
    · rfl
    · exact h.weighed k

/-! ## What alignment gives -/

theorem Aligned.ids_values (h : Aligned config ring nodes) :
    nodes.values.map NodeRecord.id = nodes.keys := by
  rw [Table.values, Table.keys, List.map_map]
  apply List.map_congr_left
  intro pair hpair
  exact h.recorded pair.1 pair.2 (h.ascending.get?_eq_some_iff.mpr hpair)

theorem Aligned.get?_eq_some_iff (h : Aligned config ring nodes)
    {id : NodeId} {record : NodeRecord} :
    nodes.get? id = some record ↔ record ∈ nodes.values ∧ record.id = id := by
  constructor
  · intro hget
    have hmem : (id, record) ∈ nodes.entries := h.ascending.get?_eq_some_iff.mp hget
    exact ⟨List.mem_map_of_mem hmem, h.recorded id record hget⟩
  · rintro ⟨hmem, rfl⟩
    obtain ⟨⟨key, _⟩, hpair, rfl⟩ := List.mem_map.mp hmem
    have hget := h.ascending.get?_eq_some_iff.mpr hpair
    rw [h.recorded key _ hget]
    exact hget

theorem Aligned.contains_iff_mem_keys (h : Aligned config ring nodes) {id : NodeId} :
    ring.contains id = true ↔ id ∈ nodes.keys := by
  rw [Ring.contains_iff_weight?, h.weighed, ← Table.contains_iff_mem_keys, Table.contains,
    Option.isSome_iff_exists]
  simp

theorem Aligned.members_perm (h : Aligned config ring nodes) :
    (ring.members.map Ring.Member.id).Perm nodes.keys := by
  apply (List.perm_ext_iff_of_nodup h.placed.distinct h.ascending.nodup).mpr
  intro id
  rw [← h.contains_iff_mem_keys, Ring.contains_iff_weight?]
  simp [h.placed.weight?_eq_some_iff]

/-- A ring gives no route exactly when no node is recorded. -/
theorem Aligned.route?_eq_none_iff (h : Aligned config ring nodes) {key : String} :
    ring.route? key = none ↔ nodes.keys = [] := by
  rw [h.placed.route?_eq_none_iff, Ring.isEmpty_iff_weight?, List.eq_nil_iff_forall_not_mem]
  apply forall_congr'
  intro id
  rw [← h.contains_iff_mem_keys, Ring.contains_iff_weight?, Option.eq_none_iff_forall_ne_some,
    not_exists]

/-- A ring built afresh from the records, in any order, is aligned with them. -/
theorem Aligned.rebuild (h : Aligned config ring nodes)
    {order : List NodeRecord} (horder : order.Perm nodes.values) :
    Aligned config ((Ring.ofConfig Digest.ofText config).run (joins order)) nodes where
  placed := (Ring.placed_ofConfig Digest.ofText config).run (joins order)
  shaped := Ring.entriesPerWeight_run _ _
  ascending := h.ascending
  recorded := h.recorded
  named := h.named
  weighed := by
    intro id
    have hdistinct : (order.map NodeRecord.id).Nodup := by
      rw [(horder.map NodeRecord.id).nodup_iff, h.ids_values]
      exact h.ascending.nodup
    have hfind : order.find? (·.id == id) = nodes.get? id := by
      ext record
      rw [Table.find?_eq_some_iff_of_nodup_map hdistinct, horder.mem_iff, h.get?_eq_some_iff]
    rw [Ring.weight?_run_ofConfig, joinWeights_joins, hfind]

/-- Rings that are aligned with the same records have the same entries. -/
theorem Aligned.entries_eq {ring' : FleetRing}
    (h : Aligned config ring nodes) (h' : Aligned config ring' nodes) :
    ring.entries = ring'.entries := by
  apply h.placed.entries_eq_of_weight? h'.placed
  · rw [h.shaped, h'.shaped]
  · intro id
    rw [h.weighed, h'.weighed]

/-! ## Coherence -/

/-- Ring and records are aligned, and the checksum is that of the present members. -/
structure Coherent (registry : Registry) : Prop extends
    Aligned registry.config.ring registry.ring registry.nodes where
  checked : registry.checksum = Digest.checksum registry.nodeIds

theorem coherent_create (config : RegistryConfig) : (create config).Coherent where
  toAligned := aligned_ofConfig config.ring
  checked := rfl

theorem Coherent.pulse {registry : Registry} (h : registry.Coherent)
    (id : NodeId) (report : CapacityReport) : (registry.pulse id report).1.Coherent := by
  have hpulsed := registry.pulsed id report
  generalize registry.pulse id report = answer at hpulsed ⊢
  cases hpulsed with
  | refused _ => exact h
  | panics _ _ _ => exact ⟨h.toAligned, h.checked⟩
  | joins hname hnew _ => exact ⟨h.toAligned.join hnew hname report _, rfl⟩
  | @renews record _ hknown _ =>
      refine ⟨h.toAligned.renew hknown report, ?_⟩
      have hcontains : registry.nodes.contains id = true := congrArg Option.isSome hknown
      have hkeys : (registry.nodes.insert id (record.apply report)).keys = registry.nodes.keys :=
        Table.keys_insert_of_contains h.ascending hcontains _
      exact h.checked.trans (congrArg Digest.checksum hkeys.symm)
  | ignores _ _ _ => exact ⟨h.toAligned, h.checked⟩

theorem config_foldl_drop (registry : Registry) (ids : List NodeId) :
    (ids.foldl Registry.drop registry).config = registry.config := by
  induction ids generalizing registry with
  | nil => rfl
  | cons id rest ih => exact ih (registry.drop id)

theorem aligned_foldl_drop
    {registry : Registry} (h : Aligned config registry.ring registry.nodes)
    (ids : List NodeId) :
    Aligned config (ids.foldl Registry.drop registry).ring
      (ids.foldl Registry.drop registry).nodes := by
  induction ids generalizing registry with
  | nil => exact h
  | cons id rest ih => exact ih (h.drop id)

theorem Coherent.sweep {registry : Registry} (h : registry.Coherent)
    (now : Instant) (timeout : Span) : (registry.sweep now timeout).1.Coherent := by
  rw [Registry.sweep]
  split
  · exact h
  · refine ⟨?_, rfl⟩
    -- until the last expired node is dropped the checksum is out of date
    generalize (registry.expiredAt now timeout).map NodeRecord.id = ids
    have haligned := aligned_foldl_drop h.toAligned ids
    rw [← config_foldl_drop registry ids] at haligned
    exact haligned

theorem Coherent.remove {registry : Registry} (h : registry.Coherent) (id : NodeId) :
    (registry.remove id).1.Coherent := by
  rw [Registry.remove]
  split_ifs
  · exact ⟨h.toAligned.drop id, rfl⟩
  · exact h

/-! ## Runs -/

/-- A call that may change a registry. -/
inductive Call where
  | pulse (id : NodeId) (report : CapacityReport)
  | sweep (now : Instant) (timeout : Span)
  | remove (id : NodeId)

/-- The registry after a call. -/
def call (registry : Registry) : Call → Registry
  | .pulse id report => (registry.pulse id report).1
  | .sweep now timeout => (registry.sweep now timeout).1
  | .remove id => (registry.remove id).1

/-- The registry after a sequence of calls. -/
def run (registry : Registry) (calls : List Call) : Registry :=
  calls.foldl call registry

theorem Coherent.call {registry : Registry} (h : registry.Coherent) (call : Call) :
    (registry.call call).Coherent := by
  cases call with
  | pulse id report => exact h.pulse id report
  | sweep now timeout => exact h.sweep now timeout
  | remove id => exact h.remove id

theorem Coherent.run {registry : Registry} (h : registry.Coherent) (calls : List Call) :
    (registry.run calls).Coherent := by
  induction calls generalizing registry with
  | nil => exact h
  | cons call rest ih => exact ih (h.call call)

theorem config_call (registry : Registry) (call : Call) :
    (registry.call call).config = registry.config := by
  cases call with
  | pulse id report =>
      have hpulsed := registry.pulsed id report
      rw [Registry.call]
      generalize registry.pulse id report = answer at hpulsed ⊢
      cases hpulsed with
      | refused _ => rfl
      | panics _ _ _ => rfl
      | joins _ _ _ => rfl
      | renews _ _ _ => rfl
      | ignores _ _ _ => rfl
  | sweep now timeout =>
      simp only [Registry.call, Registry.sweep]
      split
      · rfl
      · exact config_foldl_drop registry _
  | remove id =>
      simp only [Registry.call, Registry.remove]
      split_ifs
      · rfl
      · rfl

theorem config_run (registry : Registry) (calls : List Call) :
    (registry.run calls).config = registry.config := by
  induction calls generalizing registry with
  | nil => rfl
  | cons call rest ih => exact (ih _).trans (config_call registry call)

/-- A state that some calls lead to from a registry without members. -/
def Reachable (registry : Registry) : Prop :=
  ∃ config calls, (create config).run calls = registry

theorem Reachable.coherent {registry : Registry} (h : registry.Reachable) :
    registry.Coherent := by
  obtain ⟨config, calls, rfl⟩ := h
  exact (coherent_create config).run calls

/-! ## What clients see -/

/-- A full answer lists the records in the order of their identifiers. -/
theorem eq_of_snapshot_full {registry : Registry} {known : Option String} {snapshot : Snapshot}
    (h : registry.snapshot known = .full snapshot) :
    snapshot = ⟨registry.checksum, registry.nodes.values⟩ := by
  rw [Registry.snapshot] at h
  split_ifs at h
  exact (SnapshotReply.full.inj h).symm

/-- After any sequence of calls the ring has the recorded nodes as its members, each
with the priority of its record, and the checksum is that of their identifiers in
the order of their bytes.  A ring built from a full snapshot, in whatever order its
nodes are added, has the entries and the routes of the registry's own. -/
theorem run_keeps_ring_and_records
    (config : RegistryConfig) (calls : List Call) :
    let registry := (create config).run calls
    (registry.ring.members.map Ring.Member.id).Perm registry.nodeIds ∧
      (∀ id record, registry.get? id = some record →
        record.id = id ∧ registry.ring.weight? id = some record.priority) ∧
      registry.checksum = Digest.checksum registry.nodeIds ∧
      registry.nodeIds.Pairwise (fun a b => a.bytes < b.bytes) ∧
      (∀ id ∈ registry.nodeIds, id ≠ NodeId.empty) ∧
      (∀ key, registry.locate? key = none ↔ registry.nodeIds = []) ∧
      ∀ known snapshot, registry.snapshot known = .full snapshot →
        ∀ order, order.Perm snapshot.nodes →
          let rebuilt := (Ring.ofConfig Digest.ofText config.ring).run (joins order)
          rebuilt.entries = registry.ring.entries ∧
            ∀ key, rebuilt.route? key = registry.locate? key := by
  intro registry
  have hcoherent : registry.Coherent := (coherent_create config).run calls
  have hconfig : registry.config.ring = config.ring :=
    congrArg RegistryConfig.ring (config_run (create config) calls)
  refine ⟨hcoherent.members_perm, ?_, hcoherent.checked, ?_, ?_, ?_, ?_⟩
  · intro id record hget
    refine ⟨hcoherent.recorded id record hget, ?_⟩
    rw [hcoherent.weighed]
    exact congrArg (Option.map NodeRecord.priority) hget
  · exact hcoherent.ascending.imp NodeId.lt_iff_bytes_lt.mp
  · intro id hid hempty
    have hin : registry.nodes.contains id = true := Table.contains_iff_mem_keys.mpr hid
    obtain ⟨record, hget⟩ := Option.isSome_iff_exists.mp hin
    have hname : id.isEmpty = false := hcoherent.named id record hget
    rw [NodeId.isEmpty_iff.mpr hempty] at hname
    exact Bool.noConfusion hname
  · intro key
    exact hcoherent.route?_eq_none_iff
  · intro known snapshot hfull order horder
    rw [eq_of_snapshot_full hfull] at horder
    have hentries := (hcoherent.rebuild horder).entries_eq hcoherent.toAligned
    rw [hconfig] at hentries
    exact ⟨hentries, Ring.route?_congr hentries⟩

end Registry
end CacheTier
