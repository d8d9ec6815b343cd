import CacheTier.Proofs.Registry.Coherence

/-!
# What a call does to a registry

A pulse touches the record of one node, and a sweep or a removal takes some nodes out.  The
laws of whole runs are read off the lemmas of this file, which say for each call what
becomes of the records and of the anchor.
-/

namespace CacheTier
namespace Registry

variable {registry : Registry} {id k : NodeId} {report : CapacityReport}

theorem contains_eq_isSome (registry : Registry) (id : NodeId) :
    registry.contains id = (registry.get? id).isSome := rfl

/-! ## Pulses -/

/-- A node that is answered that it joined was unknown before. -/
theorem eq_join_of_joined {weight : Float}
    (hjoined : (registry.pulse id report).2 = .ok (.joined weight)) :
    id.isEmpty = false ∧ registry.get? id = none ∧ weight = registry.joinWeight report ∧
      (registry.pulse id report).1 = registry.countPulse.join id report := by
  have hpulsed := registry.pulsed id report
  generalize registry.pulse id report = answer at hpulsed hjoined ⊢
  cases hpulsed with
  | refused _ => cases hjoined
  | panics _ _ _ => cases hjoined
  | joins hname hnew _ =>
      cases hjoined
      exact ⟨hname, hnew, rfl, rfl⟩
  | renews _ _ _ => cases hjoined
  | ignores _ _ _ => cases hjoined

/-- An unknown node joins if its positions can be listed.  Otherwise the pulse panics, and no more
has been done than to count it and to set the anchor. -/
theorem pulse_of_unknown (hname : id.isEmpty = false) (hnew : registry.contains id = false)
    (report : CapacityReport) :
    registry.pulse id report =
      if registry.joinPanics id report = true then
        (registry.countPulse.anchored report, .error .panicked)
      else (registry.countPulse.join id report, .ok (.joined (registry.joinWeight report))) := by
  have hnone : registry.get? id = none := by simpa [contains_eq_isSome] using hnew
  have hpulsed := registry.pulsed id report
  generalize registry.pulse id report = answer at hpulsed ⊢
  cases hpulsed with
  | refused hempty => simp [hname] at hempty
  | panics _ _ hpanics => rw [if_pos hpanics]
  | joins _ _ hlisted => rw [hlisted, if_neg Bool.false_ne_true]
  | renews _ hknown _ => simp [hnone] at hknown
  | ignores _ hknown _ => simp [hnone] at hknown

theorem joined_of_listed {weight : Float} (hname : id.isEmpty = false)
    (hnew : registry.contains id = false) (hlisted : registry.joinPanics id report = false)
    (hweight : registry.joinWeight report = weight) :
    (registry.pulse id report).2 = .ok (.joined weight) := by
  rw [pulse_of_unknown hname hnew, hlisted, if_neg Bool.false_ne_true, hweight]

theorem panicked_of_not_listed (hname : id.isEmpty = false)
    (hnew : registry.contains id = false) (hpanics : registry.joinPanics id report = true) :
    (registry.pulse id report).2 = .error .panicked := by
  rw [pulse_of_unknown hname hnew, if_pos hpanics]

/-- A pulse touches no record but that of the node it names. -/
theorem get?_pulse_of_ne (hk : k ≠ id) :
    (registry.pulse id report).1.get? k = registry.get? k := by
  have hpulsed := registry.pulsed id report
  generalize registry.pulse id report = answer at hpulsed ⊢
  cases hpulsed with
  | refused _ => rfl
  | panics _ _ _ => rfl
  | joins _ _ _ => exact Table.get?_insert_of_ne _ hk _
  | renews _ _ _ => exact Table.get?_insert_of_ne _ hk _
  | ignores _ _ _ => rfl

theorem pulse_of_known {record : NodeRecord} (hname : id.isEmpty = false)
    (hknown : registry.get? id = some record) (report : CapacityReport) :
    registry.pulse id report =
      if report.reportedAt < record.lastUpdate then
        (registry.countPulse.ignoreStale record id report, .ok .stale)
      else (registry.countPulse.renew record id report, .ok .updated) := by
  have hpulsed := registry.pulsed id report
  generalize registry.pulse id report = answer at hpulsed ⊢
  cases hpulsed with
  | refused hempty => simp [hname] at hempty
  | panics _ hnew _ => simp [hnew] at hknown
  | joins _ hnew _ => simp [hnew] at hknown
  | renews _ hrecord hcurrent =>
      obtain rfl := Option.some.inj (hrecord.symm.trans hknown)
      rw [if_neg hcurrent]
  | ignores _ hrecord hstale =>
      obtain rfl := Option.some.inj (hrecord.symm.trans hknown)
      rw [if_pos hstale]

/-- A pulse of a known node leaves the newer of its record and the report. -/
theorem get?_pulse_of_known {record : NodeRecord} (hname : id.isEmpty = false)
    (hknown : registry.get? id = some record) :
    (registry.pulse id report).1.get? id =
      some (if report.reportedAt < record.lastUpdate then record else record.apply report) := by
  rw [pulse_of_known hname hknown]
  split_ifs
  · exact hknown
  · exact Table.get?_insert_self _ id _

/-- After a pulse of a named node that does not panic, the members are those of before and this
node. -/
theorem contains_pulse (hname : id.isEmpty = false)
    (hlisted : registry.joinPanics id report = false) (k : NodeId) :
    (registry.pulse id report).1.contains k = (k == id || registry.contains k) := by
  by_cases hk : k = id
  · have hpulsed := registry.pulsed id report
    have hself : (k == id) = true := beq_iff_eq.mpr hk
    rw [hself, Bool.true_or, contains_eq_isSome, hk]
    generalize registry.pulse id report = answer at hpulsed ⊢
    cases hpulsed with
    | refused hempty => simp [hname] at hempty
    | panics _ _ hpanics => simp [hlisted] at hpanics
    | joins _ _ _ => exact congrArg Option.isSome (Table.get?_insert_self _ id _)
    | renews _ _ _ => exact congrArg Option.isSome (Table.get?_insert_self _ id _)
    | ignores _ hknown _ => exact Option.isSome_iff_exists.mpr ⟨_, hknown⟩
  · have hother : (k == id) = false := beq_eq_false_iff_ne.mpr hk
    rw [hother, Bool.false_or, contains_eq_isSome, get?_pulse_of_ne hk, contains_eq_isSome]

/-! ## Sweeps and removals -/

theorem get?_drop (registry : Registry) (id k : NodeId) :
    (registry.drop id).get? k = if k = id then none else registry.get? k :=
  Table.get?_erase registry.nodes id k

theorem get?_foldl_drop (registry : Registry) (ids : List NodeId) (k : NodeId) :
    (ids.foldl drop registry).get? k = if k ∈ ids then none else registry.get? k := by
  induction ids generalizing registry with
  | nil => simp
  | cons id rest ih =>
      rw [List.foldl_cons, ih, get?_drop]
      by_cases hrest : k ∈ rest
      · simp [hrest]
      · simp [hrest]

/-- Dropping members changes nothing but the ring and the records. -/
theorem foldl_drop_eq (registry : Registry) (ids : List NodeId) :
    ids.foldl drop registry =
      { registry with
        ring := (ids.foldl drop registry).ring
        nodes := (ids.foldl drop registry).nodes } := by
  induction ids generalizing registry with
  | nil => rfl
  | cons id rest ih => exact ih (registry.drop id)

theorem anchor_foldl_drop (registry : Registry) (ids : List NodeId) :
    (ids.foldl drop registry).anchor = registry.anchor := by
  rw [foldl_drop_eq]

theorem feed_foldl_drop (registry : Registry) (ids : List NodeId) :
    (ids.foldl drop registry).feed = registry.feed := by
  rw [foldl_drop_eq]

theorem snd_sweep (registry : Registry) (now : Instant) (timeout : Span) :
    (registry.sweep now timeout).2 =
      (registry.expiredAt now timeout).map NodeRecord.id := by
  rw [sweep]
  split
  · next hnone => rw [hnone, List.map_nil]
  · rfl

theorem Coherent.get?_of_mem_expiredAt (h : registry.Coherent) {now : Instant} {timeout : Span}
    {record : NodeRecord} (hrecord : record ∈ registry.expiredAt now timeout) :
    registry.get? record.id = some record :=
  h.get?_eq_some_iff.mpr ⟨List.mem_of_mem_filter hrecord, rfl⟩

theorem Coherent.nodup_expiredAt (h : registry.Coherent) (now : Instant) (timeout : Span) :
    ((registry.expiredAt now timeout).map NodeRecord.id).Nodup := by
  have hnodup := h.ascending.nodup
  rw [← h.ids_values] at hnodup
  exact hnodup.sublist (List.filter_sublist.map NodeRecord.id)

/-- A sweep takes out the nodes that it names. -/
theorem get?_sweep (registry : Registry) (now : Instant) (timeout : Span) (k : NodeId) :
    (registry.sweep now timeout).1.get? k =
      if k ∈ (registry.sweep now timeout).2 then none else registry.get? k := by
  rw [snd_sweep, sweep]
  split
  · next hnone => simp [hnone]
  · exact get?_foldl_drop registry _ k

theorem anchor_sweep (registry : Registry) (now : Instant) (timeout : Span) :
    (registry.sweep now timeout).1.anchor = registry.anchor := by
  rw [sweep]
  split
  · rfl
  · exact anchor_foldl_drop registry _

theorem snd_remove (registry : Registry) (id : NodeId) :
    (registry.remove id).2 = registry.contains id := by
  rw [remove]
  split_ifs with hmember
  · exact hmember.symm
  · exact (Bool.eq_false_iff.mpr hmember).symm

/-- The removal of an unknown node changes nothing. -/
theorem remove_of_not_contains (hmember : registry.contains id = false) :
    (registry.remove id).1 = registry := by
  rw [remove, if_neg (by simp [hmember])]

theorem get?_remove (registry : Registry) (id k : NodeId) :
    (registry.remove id).1.get? k = if k = id then none else registry.get? k := by
  rw [remove]
  by_cases hin : registry.contains id = true
  · rw [if_pos hin]
    exact registry.get?_drop id k
  · rw [if_neg hin]
    have hnone : registry.get? id = none := by
      simpa [contains_eq_isSome] using hin
    split_ifs with hk
    · rw [hk, hnone]
    · rfl

theorem anchor_remove (registry : Registry) (id : NodeId) :
    (registry.remove id).1.anchor = registry.anchor := by
  rw [remove]
  split_ifs
  · rfl
  · rfl

/-! ## Runs -/

theorem run_append (registry : Registry) (earlier later : List Call) :
    registry.run (earlier ++ later) = (registry.run earlier).run later := by
  rw [run, run, run, List.foldl_append]

theorem run_concat (registry : Registry) (calls : List Call) (call : Call) :
    registry.run (calls ++ [call]) = (registry.run calls).call call :=
  run_append registry calls [call]

theorem Reachable.run {registry : Registry} (h : registry.Reachable) (calls : List Call) :
    (registry.run calls).Reachable := by
  obtain ⟨config, earlier, rfl⟩ := h
  exact ⟨config, earlier ++ calls, run_append _ _ _⟩

/-- A report of a number of bytes at a second. -/
def reportAt (second : Int) (totalBytes : UInt64) : CapacityReport :=
  ⟨totalBytes, 0, 0, ⟨second, 0⟩⟩

end Registry
end CacheTier
