import CacheTier.Proofs.Registry.Pulses
import CacheTier.Time.Timestamp

/-!
# When a node expires

A sweep takes out the nodes that have been idle for more whole milliseconds than the timeout
has.  Both sides are rounded toward zero, so a node is safe for as long as the timeout and gone
one millisecond later.  Nothing but the records and the ring entries of these nodes is touched,
and an earlier sweep takes out no node that a later one would spare.

A leap second has the number of the second before it.  Around one the time between two
instants is a second more or less than their numbers say, and may even grow shorter while the
clock goes on.  So a sweep within a leap second may expire a node that it hears of a moment later,
and a later sweep may spare a node that an earlier one takes out; where that matters it is said
which instants must lie outside of one.
-/

namespace CacheTier

/-- A number of nanoseconds has more than `m` whole milliseconds from the next one on. -/
theorem lt_tdiv_million_iff (m : Nat) (n : Int) :
    (m : Int) < Int.tdiv n 1000000 ↔ ((m : Int) + 1) * 1000000 ≤ n := by
  rcases Int.le_total 0 n with hsign | hsign
  · rw [Int.tdiv_eq_ediv_of_nonneg hsign]
    omega
  · have hnonpos : 0 ≤ Int.tdiv (-n) 1000000 := Int.tdiv_nonneg (by omega) (by decide)
    rw [Int.neg_tdiv] at hnonpos
    omega

/-! ## Instants -/

namespace Instant

/-- The instant lies in a year that a timestamp can have. -/
def Dated (t : Instant) : Prop :=
  t.nanos < 2000000000 ∧
    Timestamp.firstYear ≤ (Calendar.dateOf (Int.fdiv t.second 86400)).1 ∧
      (Calendar.dateOf (Int.fdiv t.second 86400)).1 ≤ Timestamp.lastYear

instance (t : Instant) : Decidable t.Dated :=
  inferInstanceAs (Decidable (t.nanos < 2000000000 ∧
    Timestamp.firstYear ≤ (Calendar.dateOf (Int.fdiv t.second 86400)).1 ∧
      (Calendar.dateOf (Int.fdiv t.second 86400)).1 ≤ Timestamp.lastYear))

/-- A leap second, if the instant lies in one, is the last second of its day. -/
def LeapsAtMidnight (t : Instant) : Prop := t.isLeap = true → t.secondOfDay = 86399

instance (t : Instant) : Decidable t.LeapsAtMidnight :=
  inferInstanceAs (Decidable (t.isLeap = true → t.secondOfDay = 86399))

variable {t now later earlier : Instant}

theorem secondOfDay_lt (t : Instant) : t.secondOfDay < 86400 := by
  rw [secondOfDay, Int.fmod_eq_emod_of_nonneg _ (by decide)]
  omega

theorem nanos_lt_of_not_isLeap (h : t.isLeap = false) : t.nanos < 1000000000 := by
  simpa [isLeap] using h

/-- A year has at most one more than 400 for each cycle of the calendar that is over. -/
theorem Dated.natAbs_second_le (h : t.Dated) : t.second.natAbs ≤ 10000000000000 := by
  obtain ⟨-, hfirst, hlast⟩ := h
  simp only [Calendar.dateOf, Timestamp.firstYear, Timestamp.lastYear,
    Int.fdiv_eq_ediv_of_nonneg _ (show (0 : Int) ≤ 86400 by decide),
    Int.fdiv_eq_ediv_of_nonneg _ (show (0 : Int) ≤ 146097 by decide),
    Int.fdiv_eq_ediv_of_nonneg _ (show (0 : Int) ≤ 1460 by decide),
    Int.fdiv_eq_ediv_of_nonneg _ (show (0 : Int) ≤ 36524 by decide),
    Int.fdiv_eq_ediv_of_nonneg _ (show (0 : Int) ≤ 146096 by decide),
    Int.fdiv_eq_ediv_of_nonneg _ (show (0 : Int) ≤ 365 by decide)] at hfirst hlast
  generalize hshifted : t.second / 86400 + 719468 = shifted at hfirst hlast
  generalize hera : shifted / 146097 = era at hfirst hlast
  generalize hday : shifted - era * 146097 = day at hfirst hlast
  generalize hyear : (day - day / 1460 + day / 36524 - day / 146096) / 365 = year at hfirst hlast
  have hbounds : 0 ≤ day ∧ day < 146097 := by omega
  have hyears : 0 ≤ year ∧ year ≤ 400 := by omega
  split_ifs at hfirst hlast <;> omega

theorem leapCorrection_le (later earlier : Instant) : leapCorrection later earlier ≤ 1 := by
  rw [leapCorrection]
  split_ifs <;> decide

/-- Between instants of the years that timestamps have there are fewer milliseconds than the
largest timeout has. -/
theorem Dated.tdiv_since_le (h : later.Dated) (h' : earlier.Dated) :
    Int.tdiv (later.since earlier) 1000000 ≤ Registry.timeoutLimit := by
  have hlater := h.natAbs_second_le
  have hearlier := h'.natAbs_second_le
  have hcorrection := leapCorrection_le later earlier
  have hnanos := h.1
  have hlimit : Registry.timeoutLimit = (9223372036854775807 : Nat) := rfl
  apply Int.not_lt.mp
  rw [hlimit, lt_tdiv_million_iff, since, toNanos, toNanos]
  omega

/-- Since a later instant less than a second has passed, and no time at all unless now is the leap
second at the end of a day. -/
theorem since_lt_of_lt (hnanos : now.nanos < 2000000000) (h : now < later) :
    now.since later < 1000000000 ∧
      ((now.isLeap = true → now.secondOfDay ≠ 86399) → now.since later < 0) := by
  have hleap (t : Instant) : t.isLeap = true ↔ 1000000000 ≤ t.nanos := decide_eq_true_iff
  have hday (t : Instant) : (t.secondOfDay : Int) = t.second % 86400 := by
    rw [secondOfDay, Int.fmod_eq_emod_of_nonneg _ (by decide)]
    omega
  have hnow := hday now
  have hlater := hday later
  have horder : now.second < later.second ∨
      now.second = later.second ∧ now.nanos < later.nanos := h
  rw [since, toNanos, toNanos, leapCorrection]
  simp only [hleap, Bool.and_eq_true, decide_eq_true_iff]
  constructor
  · split_ifs <;> omega
  · intro hmidnight
    split_ifs <;> omega

theorem leapCorrection_eq_zero (hlater : later.LeapsAtMidnight)
    (hearlier : earlier.LeapsAtMidnight) : leapCorrection later earlier = 0 := by
  have hlast := later.secondOfDay_lt
  have hlast' := earlier.secondOfDay_lt
  rw [leapCorrection, if_neg, if_neg]
  · intro h
    obtain ⟨hday, hleap⟩ : later.secondOfDay < earlier.secondOfDay ∧ later.isLeap = true := by
      simpa using h
    have := hlater hleap
    omega
  · intro h
    obtain ⟨hday, hleap⟩ : earlier.secondOfDay < later.secondOfDay ∧ earlier.isLeap = true := by
      simpa using h
    have := hearlier hleap
    omega

/-- Outside of leap seconds the time since an instant does not grow shorter. -/
theorem since_le_since (hnow : now.isLeap = false) (hlater : later.LeapsAtMidnight)
    (hearlier : earlier.LeapsAtMidnight) (h : ¬later < now) :
    now.since earlier ≤ later.since earlier := by
  have hnanos := nanos_lt_of_not_isLeap hnow
  have hmidnight : now.LeapsAtMidnight := fun hleap => by
    rw [hnow] at hleap
    exact Bool.noConfusion hleap
  have hsecond : now.second ≤ later.second := Int.not_lt.mp fun hlt => h (Or.inl hlt)
  have hwithin : now.second = later.second → now.nanos ≤ later.nanos := fun heq =>
    Nat.not_lt.mp fun hlt => h (Or.inr ⟨heq.symm, hlt⟩)
  rw [since, since, leapCorrection_eq_zero hmidnight hearlier,
    leapCorrection_eq_zero hlater hearlier, toNanos, toNanos, toNanos]
  omega

end Instant

namespace Registry

variable {registry before after : Registry} {id : NodeId} {record : NodeRecord}
  {now later : Instant} {timeout : Span}

/-! ## Who expires -/

/-- No node is idle for more milliseconds than the largest timeout has, so the limit of the
comparison is never what keeps a node. -/
theorem isExpired_iff (hnow : now.Dated) (hrecord : record.lastUpdate.Dated) :
    isExpired record now timeout = true ↔ (timeout.millis : Int) < record.idleMillis now := by
  have hidle : record.idleMillis now ≤ timeoutLimit := hnow.tdiv_since_le hrecord
  rw [isExpired, decide_eq_true_iff]
  omega

theorem lt_idleMillis_iff :
    (timeout.millis : Int) < record.idleMillis now ↔
      ((timeout.millis : Int) + 1) * 1000000 ≤ record.idle now :=
  lt_tdiv_million_iff _ _

theorem not_lt_idleMillis_of_idle_le (hidle : record.idle now ≤ timeout.nanos) :
    ¬(timeout.millis : Int) < record.idleMillis now := by
  rw [lt_idleMillis_iff, Span.millis]
  omega

theorem lt_idleMillis_of_le_idle (hidle : (timeout.nanos : Int) + 1000000 ≤ record.idle now) :
    (timeout.millis : Int) < record.idleMillis now := by
  rw [lt_idleMillis_iff, Span.millis]
  omega

/-- A node that was heard of later than now is within its timeout, if now is not the leap second
at the end of a day or the timeout is a second at least. -/
theorem idle_le_of_lt_lastUpdate (hnow : now.Dated) (hfuture : now < record.lastUpdate)
    (hmidnight : now.isLeap = true → now.secondOfDay = 86399 → 1000000000 ≤ timeout.nanos) :
    record.idle now ≤ timeout.nanos := by
  obtain ⟨hshort, hnone⟩ := Instant.since_lt_of_lt hnow.1 hfuture
  rw [NodeRecord.idle]
  by_cases hleap : now.isLeap = true ∧ now.secondOfDay = 86399
  · have hlong : 1000000000 ≤ timeout.nanos := hmidnight hleap.1 hleap.2
    omega
  · have hbefore : now.since record.lastUpdate < 0 := hnone fun h h' => hleap ⟨h, h'⟩
    omega

theorem Coherent.mem_sweep_iff (h : registry.Coherent) (now : Instant) (timeout : Span) :
    id ∈ (registry.sweep now timeout).2 ↔
      ∃ record, registry.get? id = some record ∧ isExpired record now timeout = true := by
  rw [snd_sweep, List.mem_map]
  constructor
  · rintro ⟨record, hrecord, rfl⟩
    exact ⟨record, h.get?_of_mem_expiredAt hrecord, (List.mem_filter.mp hrecord).2⟩
  · rintro ⟨record, hget, hexpired⟩
    obtain ⟨hmem, hid⟩ := h.get?_eq_some_iff.mp hget
    exact ⟨record, List.mem_filter.mpr ⟨hmem, hexpired⟩, hid⟩

theorem Coherent.ascending_sweep (h : registry.Coherent) (now : Instant) (timeout : Span) :
    (registry.sweep now timeout).2.Pairwise (· < ·) := by
  have hkeys : (registry.nodes.values.map NodeRecord.id).Pairwise (· < ·) := by
    rw [h.ids_values]
    exact h.ascending
  rw [snd_sweep]
  exact hkeys.sublist (List.filter_sublist.map NodeRecord.id)

/-- A sweep that names nobody does nothing at all. -/
theorem sweep_eq_self (hnobody : (registry.sweep now timeout).2 = []) :
    registry.sweep now timeout = (registry, []) := by
  rw [snd_sweep, List.map_eq_nil_iff] at hnobody
  rw [sweep, hnobody]

/-! ## What a sweep leaves -/

/-- Some nodes are gone, and nothing else has changed in the records, on the ring, in the
routes or in the scale of the weights. -/
structure Without (before : Registry) (gone : List NodeId) (after : Registry) : Prop where
  records : after.nodes.entries = before.nodes.entries.filter fun pair => pair.1 ∉ gone
  weights : ∀ id, after.ring.weight? id = if id ∈ gone then none else before.ring.weight? id
  entries : after.ring.entries = before.ring.entries.filter fun entry => entry.owner ∉ gone
  routes : ∀ key id, before.locate? key = some id → id ∉ gone → after.locate? key = some id
  anchor : after.anchor = before.anchor

/-- Where ring and records are aligned, the records that are left determine the rest. -/
theorem Coherent.without {gone : List NodeId} (h : before.Coherent) (h' : after.Coherent)
    (hconfig : after.config = before.config) (hanchor : after.anchor = before.anchor)
    (hget : ∀ k, after.get? k = if k ∈ gone then none else before.get? k) :
    Without before gone after := by
  have hweights (k : NodeId) :
      after.ring.weight? k = if k ∈ gone then none else before.ring.weight? k := by
    have hrecord : after.nodes.get? k = if k ∈ gone then none else before.nodes.get? k := hget k
    rw [h'.weighed, h.weighed, hrecord]
    split_ifs
    · rfl
    · rfl
  have hshape : after.ring.entriesPerWeight = before.ring.entriesPerWeight := by
    rw [h'.shaped, h.shaped, hconfig]
  have hshares (k : NodeId) :
      after.ring.share? k = if k ∈ gone then none else before.ring.share? k := by
    rw [Ring.share?, Ring.share?, hweights, funext (Ring.quota_congr hshape)]
    split_ifs
    · rfl
    · rfl
  have hgone {key : String} {k : NodeId} (hroute : after.locate? key = some k) : k ∉ gone :=
    fun hk => h'.placed.share?_ne_none_of_route? hroute (by rw [hshares, if_pos hk])
  refine ⟨?_, hweights, ?_, ?_, hanchor⟩
  · apply h.ascending.entries_eq_filter h'.ascending (p := fun k => decide (k ∉ gone))
    intro k
    refine (hget k).trans ?_
    by_cases hk : k ∈ gone
    · simp [hk]
    · simp [hk, Registry.get?]
  · apply List.Pairwise.eq_of_mem_iff h'.placed.ascending (h.placed.ascending.filter _)
    intro entry
    rw [List.mem_filter, decide_eq_true_iff]
    by_cases hk : entry.owner ∈ gone
    · constructor
      · intro hentry
        obtain ⟨w, i, hweight, -⟩ := h'.placed.mem_entries_iff.mp hentry
        rw [hweights, if_pos hk] at hweight
        cases hweight
      · exact fun hentry => absurd hk hentry.2
    · rw [h'.placed.mem_entries_iff_of_share? h.placed (by rw [hshares, if_neg hk])]
      exact (and_iff_left hk).symm
  · intro key id hroute hid
    rcases h'.placed.route?_eq_or_share?_ne h.placed key with heq | ⟨k, hk, hne⟩
    · exact heq.trans hroute
    · -- a node with another share is gone, so neither ring routes the key to it
      have hin : k ∈ gone := by
        by_contra hin
        exact hne (by rw [hshares, if_neg hin])
      rcases hk with hk | hk
      · exact absurd hin (hgone hk)
      · rw [Option.some.inj (hroute.symm.trans hk)] at hid
        exact absurd hin hid

theorem Coherent.without_sweep (h : registry.Coherent) (now : Instant) (timeout : Span) :
    Without registry (registry.sweep now timeout).2 (registry.sweep now timeout).1 :=
  h.without (h.sweep now timeout) (config_call registry (.sweep now timeout))
    (anchor_sweep registry now timeout) (get?_sweep registry now timeout)

/-- A sweep leaves the records that have not expired. -/
theorem Coherent.get?_sweep_eq_filter (h : registry.Coherent) (now : Instant) (timeout : Span)
    (id : NodeId) :
    (registry.sweep now timeout).1.get? id =
      (registry.get? id).filter fun record => !isExpired record now timeout := by
  rw [get?_sweep]
  have hnamed : id ∈ (registry.sweep now timeout).2 ↔
      ∃ record, registry.get? id = some record ∧ isExpired record now timeout = true :=
    h.mem_sweep_iff now timeout
  cases hget : registry.get? id with
  | none =>
      split_ifs
      · rfl
      · rfl
  | some record =>
      have hmem : id ∈ (registry.sweep now timeout).2 ↔ isExpired record now timeout = true := by
        rw [hnamed, hget]
        simp
      by_cases hexpired : isExpired record now timeout = true
      · rw [if_pos (hmem.mpr hexpired)]
        simp [Option.filter, hexpired]
      · rw [if_neg (mt hmem.mp hexpired)]
        simp [Option.filter, hexpired]

/-- Nobody who is left expires by the same rule again. -/
theorem Coherent.sweep_again (h : registry.Coherent) (now : Instant) (timeout : Span) :
    (registry.sweep now timeout).1.sweep now timeout = ((registry.sweep now timeout).1, []) := by
  apply sweep_eq_self
  rw [List.eq_nil_iff_forall_not_mem]
  intro id hid
  obtain ⟨record, hget, hexpired⟩ := ((h.sweep now timeout).mem_sweep_iff now timeout).mp hid
  rw [get?_sweep] at hget
  split_ifs at hget with hgone
  exact hgone ((h.mem_sweep_iff now timeout).mpr ⟨record, hget, hexpired⟩)

/-- Members and checksum are the same, and so are the entries on the ring. -/
structure SameMembership (one other : Registry) : Prop where
  nodes : one.nodes = other.nodes
  entries : one.ring.entries = other.ring.entries
  checksum : one.checksum = other.checksum

theorem Coherent.sameMembership {one other : Registry} (h : one.Coherent) (h' : other.Coherent)
    (hconfig : one.config = other.config) (hget : ∀ k, one.get? k = other.get? k) :
    SameMembership one other := by
  have hnodes : one.nodes = other.nodes := h'.ascending.eq_of_get? h.ascending hget
  have haligned := h.toAligned
  rw [hnodes, hconfig] at haligned
  refine ⟨hnodes, haligned.entries_eq h'.toAligned, ?_⟩
  rw [h.checked, h'.checked, nodeIds, hnodes]
  rfl

/-- Where a later sweep spares nobody whom the earlier one takes out, the earlier one makes no
difference in the end. -/
theorem Coherent.sweep_sweep (h : registry.Coherent)
    (hspares : ∀ id record, registry.get? id = some record →
      isExpired record now timeout = true → isExpired record later timeout = true) :
    SameMembership ((registry.sweep now timeout).1.sweep later timeout).1
      (registry.sweep later timeout).1 := by
  apply ((h.sweep now timeout).sweep later timeout).sameMembership (h.sweep later timeout)
  · exact (config_call _ (.sweep later timeout)).trans <|
      (config_call registry (.sweep now timeout)).trans
        (config_call registry (.sweep later timeout)).symm
  · intro k
    rw [(h.sweep now timeout).get?_sweep_eq_filter, h.get?_sweep_eq_filter,
      h.get?_sweep_eq_filter]
    cases hget : registry.get? k with
    | none => rfl
    | some record =>
        have hrecord := hspares k record hget
        by_cases hnow : isExpired record now timeout = true
        · simp [Option.filter, hnow, hrecord hnow]
        · simp [Option.filter, hnow]

theorem isExpired_of_idle_le (hidle : record.idle now ≤ record.idle later)
    (hexpired : isExpired record now timeout = true) :
    isExpired record later timeout = true := by
  have hmillis : record.idleMillis now ≤ record.idleMillis later :=
    Int.tdiv_le_tdiv (by decide) hidle
  rw [isExpired, decide_eq_true_iff] at hexpired ⊢
  omega

/-! ## Sweeps of reachable registries -/

/-- What a record says comes from a pulse of its node. -/
theorem exists_pulse_of_get? (config : RegistryConfig) (calls : List Call)
    (hget : ((create config).run calls).get? id = some record) :
    ∃ report, Call.pulse id report ∈ calls ∧ record = .ofReport id report record.priority := by
  induction calls using List.reverseRecOn generalizing record with
  | nil => cases hget
  | append_singleton calls call ih =>
      rw [run_concat] at hget
      have hcoherent : ((create config).run calls).Coherent := (coherent_create config).run calls
      generalize (create config).run calls = registry at hget hcoherent ih
      have hkept (hbefore : registry.get? id = some record) :
          ∃ report, Call.pulse id report ∈ calls ++ [call] ∧
            record = .ofReport id report record.priority := by
        obtain ⟨report, hin, heq⟩ := ih hbefore
        exact ⟨report, List.mem_append_left _ hin, heq⟩
      cases call with
      | pulse k report =>
          by_cases hk : id = k
          · obtain rfl := hk
            have hin : Call.pulse id report ∈ calls ++ [.pulse id report] := by simp
            have hpulsed := registry.pulsed id report
            rw [Registry.call] at hget
            generalize registry.pulse id report = answer at hget hpulsed
            cases hpulsed with
            | refused _ => exact hkept hget
            | panics _ _ _ => exact hkept hget
            | joins _ _ _ =>
                obtain rfl := Option.some.inj ((Table.get?_insert_self _ id _).symm.trans hget)
                exact ⟨report, hin, rfl⟩
            | renews _ hknown _ =>
                obtain rfl := Option.some.inj ((Table.get?_insert_self _ id _).symm.trans hget)
                refine ⟨report, hin, ?_⟩
                rw [NodeRecord.apply, hcoherent.recorded id _ hknown]
                rfl
            | ignores _ _ _ => exact hkept hget
          · exact hkept ((get?_pulse_of_ne hk).symm.trans hget)
      | sweep now timeout =>
          rw [Registry.call, get?_sweep] at hget
          split_ifs at hget
          exact hkept hget
      | remove k =>
          rw [Registry.call, get?_remove] at hget
          split_ifs at hget
          exact hkept hget

/-- A sweep after any calls expires the nodes that have been idle for more whole milliseconds
than the timeout has, in the order of their identifiers, and touches nothing else.  A node is
kept until the timeout and expires at the latest a millisecond after it; nobody expires by a
timeout that no number of milliseconds reaches, nor who was heard of later than now, unless now
is the leap second at the end of a day and the timeout less than a second.  The same sweep again
does nothing.  Sweeping now and later comes to the same as sweeping later, if now is in no leap
second and later and all records are in none but at the end of a day. -/
theorem sweep_expires_idle_nodes
    (config : RegistryConfig) (calls : List Call) (now : Instant) (timeout : Span)
    (hnow : now.Dated)
    (hcalls : ∀ id report, Call.pulse id report ∈ calls → report.reportedAt.Dated) :
    let registry := (create config).run calls
    let swept := registry.sweep now timeout
    swept.2.Pairwise (fun a b => a.bytes < b.bytes) ∧
      (∀ id, id ∈ swept.2 ↔
        ∃ record, registry.get? id = some record ∧
          (timeout.millis : Int) < record.idleMillis now) ∧
      (∀ id record, registry.get? id = some record →
        (record.idle now ≤ timeout.nanos → id ∉ swept.2) ∧
          ((timeout.nanos : Int) + 1000000 ≤ record.idle now → id ∈ swept.2) ∧
            (now < record.lastUpdate →
              (now.isLeap = true → now.secondOfDay = 86399 → 1000000000 ≤ timeout.nanos) →
                id ∉ swept.2)) ∧
      (timeoutLimit < timeout.millis → swept = (registry, [])) ∧
      Without registry swept.2 swept.1 ∧
      swept.1.sweep now timeout = (swept.1, []) ∧
      ∀ later, ¬later < now → now.isLeap = false → later.LeapsAtMidnight →
        (∀ id record, registry.get? id = some record → record.lastUpdate.LeapsAtMidnight) →
        SameMembership (swept.1.sweep later timeout).1 (registry.sweep later timeout).1 := by
  intro registry swept
  have hcoherent : registry.Coherent := (coherent_create config).run calls
  have hdated {id : NodeId} {record : NodeRecord} (hget : registry.get? id = some record) :
      record.lastUpdate.Dated := by
    obtain ⟨report, hin, heq⟩ := exists_pulse_of_get? config calls hget
    rw [heq]
    exact hcalls id report hin
  have hnamed (id : NodeId) : id ∈ swept.2 ↔
      ∃ record, registry.get? id = some record ∧
        (timeout.millis : Int) < record.idleMillis now := by
    rw [hcoherent.mem_sweep_iff]
    refine exists_congr fun record => and_congr_right fun hget => ?_
    exact isExpired_iff hnow (hdated hget)
  have hspared {id : NodeId} {record : NodeRecord} (hget : registry.get? id = some record)
      (hidle : record.idle now ≤ timeout.nanos) : id ∉ swept.2 := by
    rintro hin
    obtain ⟨record', hget', hlong⟩ := (hnamed id).mp hin
    obtain rfl := Option.some.inj (hget.symm.trans hget')
    exact not_lt_idleMillis_of_idle_le hidle hlong
  refine ⟨?_, hnamed, ?_, ?_, hcoherent.without_sweep now timeout,
    hcoherent.sweep_again now timeout, ?_⟩
  · exact (hcoherent.ascending_sweep now timeout).imp NodeId.lt_iff_bytes_lt.mp
  · intro id record hget
    refine ⟨hspared hget, ?_, ?_⟩
    · intro hidle
      exact (hnamed id).mpr ⟨record, hget, lt_idleMillis_of_le_idle hidle⟩
    · intro hfuture hmidnight
      exact hspared hget (idle_le_of_lt_lastUpdate hnow hfuture hmidnight)
  · intro hlimit
    apply sweep_eq_self
    rw [List.eq_nil_iff_forall_not_mem]
    intro id hin
    obtain ⟨record, hget, hlong⟩ := (hnamed id).mp hin
    have hidle : record.idleMillis now ≤ timeoutLimit := hnow.tdiv_since_le (hdated hget)
    omega
  · intro later hlater hleap hmidnight hrecords
    apply hcoherent.sweep_sweep
    intro id record hget hexpired
    exact isExpired_of_idle_le
      (Instant.since_le_since hleap hmidnight (hrecords id record hget) hlater) hexpired

/-- One node is heard of at the epoch, one half a minute later and one in the future. -/
def spacedPulses : List Call :=
  [.pulse ⟨"a"⟩ (reportAt 0 4), .pulse ⟨"b"⟩ (reportAt 30 4), .pulse ⟨"c"⟩ (reportAt 100 4)]

/-- After forty seconds the first of them has been silent for longer than half a minute, and
after a little more than a minute the second one too. -/
theorem sweep_expires_first_of_spaced_pulses :
    let registry := (create { ring := { entriesPerWeight := 1 } }).run spacedPulses
    let swept := registry.sweep ⟨40, 500⟩ (.ofSeconds 30)
    ⟨"a"⟩ ∈ swept.2 ∧ ⟨"b"⟩ ∉ swept.2 ∧ ⟨"c"⟩ ∉ swept.2 ∧
      SameMembership (swept.1.sweep ⟨61, 0⟩ (.ofSeconds 30)).1
        (registry.sweep ⟨61, 0⟩ (.ofSeconds 30)).1 := by
  intro registry swept
  obtain ⟨hfirst, hsecond, hthird⟩ :
      (registry.get? ⟨"a"⟩).map NodeRecord.lastUpdate = some ⟨0, 0⟩ ∧
        (registry.get? ⟨"b"⟩).map NodeRecord.lastUpdate = some ⟨30, 0⟩ ∧
        (registry.get? ⟨"c"⟩).map NodeRecord.lastUpdate = some ⟨100, 0⟩ := by
    decide +kernel
  obtain ⟨first, hget, htime⟩ := Option.map_eq_some_iff.mp hfirst
  obtain ⟨second, hget', htime'⟩ := Option.map_eq_some_iff.mp hsecond
  obtain ⟨third, hget'', htime''⟩ := Option.map_eq_some_iff.mp hthird
  have hcalls : ∀ id report, Call.pulse id report ∈ spacedPulses →
      report.reportedAt.Dated ∧ report.reportedAt.LeapsAtMidnight := by
    intro id report hin
    simp only [spacedPulses, List.mem_cons, Call.pulse.injEq, List.not_mem_nil, or_false] at hin
    rcases hin with ⟨-, rfl⟩ | ⟨-, rfl⟩ | ⟨-, rfl⟩
    · decide
    · decide
    · decide
  have hmidnight : ∀ id record, registry.get? id = some record →
      record.lastUpdate.LeapsAtMidnight := by
    intro id record hget
    obtain ⟨report, hin, heq⟩ := exists_pulse_of_get? _ _ hget
    rw [heq]
    exact (hcalls id report hin).2
  obtain ⟨-, -, hbounds, -, -, -, hlater⟩ :=
    sweep_expires_idle_nodes { ring := { entriesPerWeight := 1 } } spacedPulses ⟨40, 500⟩
      (.ofSeconds 30) (by decide) (fun id report hin => (hcalls id report hin).1)
  refine ⟨(hbounds _ first hget).2.1 ?_, (hbounds _ second hget').1 ?_,
    (hbounds _ third hget'').2.2 ?_ (fun hleap _ => absurd hleap (by decide)),
    hlater ⟨61, 0⟩ (by decide) rfl (by decide) hmidnight⟩
  · rw [NodeRecord.idle, htime]
    decide
  · rw [NodeRecord.idle, htime']
    decide
  · rw [htime'']
    decide

/-- A registry that one node has joined with a report of some time. -/
def heardAt (time : Instant) : Registry :=
  (create { ring := { entriesPerWeight := 1 } }).run [.pulse ⟨"a"⟩ ⟨4, 0, 0, time⟩]

/-- A sweep takes a node out, and a later one alone would have left it in. -/
def Hastens (registry : Registry) (id : NodeId) (now later : Instant) (timeout : Span) : Prop :=
  ¬later < now ∧
    ((registry.sweep now timeout).1.sweep later timeout).1.contains id = false ∧
    (registry.sweep later timeout).1.contains id = true

instance (registry : Registry) (id : NodeId) (now later : Instant) (timeout : Span) :
    Decidable (registry.Hastens id now later timeout) :=
  inferInstanceAs (Decidable (¬later < now ∧
    ((registry.sweep now timeout).1.sweep later timeout).1.contains id = false ∧
    (registry.sweep later timeout).1.contains id = true))

/-- In the leap second at the end of a day, a sweep by half a second expires a node that is heard
of at midnight.  An earlier sweep takes out a node that a later one would spare, if the node is
heard of in a leap second within the day (here at 12:30:60, with the sweeps before and at
midnight), if the earlier sweep is in a leap second (here at 23:59:60.9, and the later one at
midnight), or if the later one is in a leap second within a day that comes before the node's own
time of day. -/
theorem leap_seconds_upset_sweeps :
    ((⟨86399, 1900000000⟩ : Instant) < ⟨86400, 0⟩ ∧
      ((heardAt ⟨86400, 0⟩).sweep ⟨86399, 1900000000⟩ (.ofMillis 500)).2 = [⟨"a"⟩]) ∧
    (heardAt ⟨45059, 1000000000⟩).Hastens ⟨"a"⟩ ⟨86399, 999999999⟩ ⟨86400, 0⟩
      (.ofMillis 41340500) ∧
    (heardAt ⟨0, 0⟩).Hastens ⟨"a"⟩ ⟨86399, 1900000000⟩ ⟨86400, 0⟩ (.ofMillis 86400500) ∧
    (heardAt ⟨50000, 0⟩).Hastens ⟨"a"⟩ ⟨131459, 500000000⟩ ⟨131459, 1200000000⟩
      (.ofMillis 81459300) := by
  decide +kernel

end Registry
end CacheTier
