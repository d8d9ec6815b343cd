import CacheTier.Proofs.Registry.Steps
import Mathlib.Data.List.Infix

/-!
# The newest report wins

Pulses of a node can be late, out of order and repeated.  As long as the node is not
removed or expired, its record is that of the newest report since it joined, and of the
last one to arrive among equally new ones, whatever the order and however often each
arrives.  Only the weight tells which report came first.  After the join no pulse of the
node changes anything but its own record.
-/

namespace CacheTier

/-! ## The order of instants -/

namespace Instant

theorem lt_irrefl (t : Instant) : ¬t < t := by
  rintro (h | ⟨-, h⟩)
  · exact Int.lt_irrefl _ h
  · exact Nat.lt_irrefl _ h

theorem not_lt_of_lt {a b : Instant} (h : a < b) : ¬b < a := by
  rintro (h' | ⟨h', h''⟩)
  · rcases h with h | ⟨h, -⟩
    · omega
    · omega
  · rcases h with h | ⟨-, h⟩
    · omega
    · omega

theorem not_lt_trans {a b c : Instant} (hab : ¬a < b) (hbc : ¬b < c) : ¬a < c := by
  rintro (h | ⟨h, h'⟩)
  · by_cases hb : a.second < b.second
    · exact hab (Or.inl hb)
    · exact hbc (Or.inl (by omega))
  · by_cases hb : a.second = b.second
    · by_cases hn : a.nanos < b.nanos
      · exact hab (Or.inr ⟨hb, hn⟩)
      · exact hbc (Or.inr ⟨by omega, by omega⟩)
    · by_cases hlt : a.second < b.second
      · exact hab (Or.inl hlt)
      · exact hbc (Or.inl (by omega))

theorem eq_of_not_lt {a b : Instant} (hab : ¬a < b) (hba : ¬b < a) : a = b := by
  have hsecond : a.second = b.second := by
    have h : ¬a.second < b.second := fun h => hab (Or.inl h)
    have h' : ¬b.second < a.second := fun h => hba (Or.inl h)
    omega
  have hnanos : a.nanos = b.nanos := by
    have h : ¬a.nanos < b.nanos := fun h => hab (Or.inr ⟨hsecond, h⟩)
    have h' : ¬b.nanos < a.nanos := fun h => hba (Or.inr ⟨hsecond.symm, h⟩)
    omega
  cases a
  cases b
  simp_all

end Instant

/-! ## The latest of some reports -/

namespace CapacityReport

/-- None of the reports is newer, and of those that are as new this is the last. -/
def Latest (reports : List CapacityReport) (report : CapacityReport) : Prop :=
  (∀ other ∈ reports, ¬report.reportedAt < other.reportedAt) ∧
    (reports.filter (·.reportedAt = report.reportedAt)).getLast? = some report

instance (reports : List CapacityReport) (report : CapacityReport) :
    Decidable (Latest reports report) :=
  inferInstanceAs (Decidable ((∀ other ∈ reports, ¬report.reportedAt < other.reportedAt) ∧
    (reports.filter (·.reportedAt = report.reportedAt)).getLast? = some report))

theorem latest_singleton (report : CapacityReport) : Latest [report] report := by
  constructor
  · intro other hother
    rw [List.mem_singleton.mp hother]
    exact Instant.lt_irrefl _
  · simp

theorem Latest.mem {reports : List CapacityReport} {report : CapacityReport}
    (h : Latest reports report) : report ∈ reports :=
  List.mem_of_mem_filter (List.mem_of_getLast? h.2)

theorem Latest.unique {reports : List CapacityReport} {a b : CapacityReport}
    (ha : Latest reports a) (hb : Latest reports b) : a = b := by
  have htime : a.reportedAt = b.reportedAt :=
    Instant.eq_of_not_lt (ha.1 b hb.mem) (hb.1 a ha.mem)
  have hlast := ha.2
  rw [htime, hb.2] at hlast
  exact (Option.some.inj hlast).symm

/-- One more report is the latest unless it is older. -/
theorem Latest.concat {reports : List CapacityReport} {report : CapacityReport}
    (h : Latest reports report) (next : CapacityReport) :
    Latest (reports ++ [next])
      (if next.reportedAt < report.reportedAt then report else next) := by
  split_ifs with hold
  · constructor
    · intro other hother
      rcases List.mem_append.mp hother with hother | hother
      · exact h.1 other hother
      · rw [List.mem_singleton.mp hother]
        exact Instant.not_lt_of_lt hold
    · have hne : next.reportedAt ≠ report.reportedAt := by
        intro heq
        rw [heq] at hold
        exact Instant.lt_irrefl _ hold
      rw [List.filter_append, List.filter_singleton, decide_eq_false hne]
      simpa using h.2
  · constructor
    · intro other hother
      rcases List.mem_append.mp hother with hother | hother
      · exact Instant.not_lt_trans hold (h.1 other hother)
      · rw [List.mem_singleton.mp hother]
        exact Instant.lt_irrefl _
    · simp [List.filter_append]

/-- After shared reports come the same ones in two orders, each once or more.  Where
equally new ones of them are equal, the latest report does not depend on the order. -/
theorem Latest.eq_of_same_reports {shared mine others : List CapacityReport}
    {a b : CapacityReport} (ha : Latest (shared ++ mine) a) (hb : Latest (shared ++ others) b)
    (hsame : ∀ report, report ∈ mine ↔ report ∈ others)
    (hequal : ∀ x ∈ mine, ∀ y ∈ mine, x.reportedAt = y.reportedAt → x = y) : a = b := by
  have hmem : ∀ report, report ∈ shared ++ mine ↔ report ∈ shared ++ others := by
    intro report
    rw [List.mem_append, List.mem_append, hsame]
  have htime : a.reportedAt = b.reportedAt :=
    Instant.eq_of_not_lt (ha.1 b ((hmem b).mpr hb.mem)) (hb.1 a ((hmem a).mp ha.mem))
  have hlast := ha.2
  have hlast' := hb.2
  rw [List.filter_append, List.getLast?_append] at hlast hlast'
  rw [htime] at hlast
  cases hmine : (mine.filter (·.reportedAt = b.reportedAt)).getLast? with
  | none =>
      have hothers : others.filter (·.reportedAt = b.reportedAt) = [] := by
        rw [List.getLast?_eq_none_iff, List.filter_eq_nil_iff] at hmine
        rw [List.filter_eq_nil_iff]
        intro report hreport
        exact hmine report ((hsame report).mpr hreport)
      rw [hmine, Option.none_or] at hlast
      rw [hothers, List.getLast?_nil, Option.none_or] at hlast'
      exact Option.some.inj (hlast.symm.trans hlast')
  | some x =>
      rw [hmine, Option.some_or] at hlast
      obtain rfl := Option.some.inj hlast
      have hx : x ∈ mine := List.mem_of_mem_filter (List.mem_of_getLast? hmine)
      cases hothers : (others.filter (·.reportedAt = b.reportedAt)).getLast? with
      | none =>
          rw [List.getLast?_eq_none_iff, List.filter_eq_nil_iff] at hothers
          exact absurd (by simpa using htime) (hothers x ((hsame x).mp hx))
      | some y =>
          rw [hothers, Option.some_or] at hlast'
          obtain rfl := Option.some.inj hlast'
          have hy : y ∈ others := List.mem_of_mem_filter (List.mem_of_getLast? hothers)
          exact hequal x hx y ((hsame y).mpr hy) htime

end CapacityReport

namespace NodeRecord

/-- A record says what a report says. -/
structure Holds (record : NodeRecord) (report : CapacityReport) : Prop where
  totalBytes : record.totalBytes = report.totalBytes
  usedBytes : record.usedBytes = report.usedBytes
  fileCount : record.fileCount = report.fileCount
  lastUpdate : record.lastUpdate = report.reportedAt

theorem holds_ofReport (id : NodeId) (report : CapacityReport) (weight : Float) :
    (ofReport id report weight).Holds report :=
  ⟨rfl, rfl, rfl, rfl⟩

end NodeRecord

namespace Registry

variable {registry : Registry} {id : NodeId} {report : CapacityReport}

/-! ## One pulse -/

/-- Ring, anchor and checksum stay. -/
structure SamePlacement (before after : Registry) : Prop where
  ring : after.ring = before.ring
  anchor : after.anchor = before.anchor
  checksum : after.checksum = before.checksum

theorem samePlacement_pulse {record : NodeRecord} (hname : id.isEmpty = false)
    (hknown : registry.get? id = some record) (report : CapacityReport) :
    SamePlacement registry (registry.pulse id report).1 := by
  rw [pulse_of_known hname hknown]
  split_ifs
  · exact ⟨rfl, rfl, rfl⟩
  · exact ⟨rfl, rfl, rfl⟩

/-- A report that the record of a node holds already changes nothing when it arrives. -/
theorem nodes_pulse_of_held (h : registry.nodes.Ascending) {record : NodeRecord}
    (hname : id.isEmpty = false) (hknown : registry.get? id = some record)
    (hheld : ¬report.reportedAt < record.lastUpdate → record.apply report = record) :
    (registry.pulse id report).1.nodes = registry.nodes := by
  rw [pulse_of_known hname hknown]
  split_ifs with hstale
  · rfl
  · apply h.insert_of_get?
    rw [hheld hstale]
    exact hknown

/-- Once a report of a member has arrived, its record holds it or is newer. -/
theorem exists_held_pulse (hname : id.isEmpty = false)
    (hmember : (registry.pulse id report).1.contains id = true) :
    ∃ record, (registry.pulse id report).1.get? id = some record ∧
      (¬report.reportedAt < record.lastUpdate → record.apply report = record) := by
  have hpulsed := registry.pulsed id report
  generalize registry.pulse id report = answer at hpulsed hmember ⊢
  cases hpulsed with
  | refused hempty => simp [hname] at hempty
  | panics _ hnew _ =>
      have hunknown : registry.contains id = true := hmember
      simp [contains_eq_isSome, hnew] at hunknown
  | joins _ _ _ =>
      exact ⟨_, Table.get?_insert_self _ id _, fun _ => rfl⟩
  | renews _ _ _ =>
      exact ⟨_, Table.get?_insert_self _ id _, fun _ => rfl⟩
  | ignores _ hrecord hstale =>
      exact ⟨_, hrecord, fun hcurrent => absurd hstale hcurrent⟩

/-- A pulse of a member that arrives twice in a row does nothing the second time. -/
theorem pulse_again (h : registry.Coherent) (hname : id.isEmpty = false)
    (hmember : (registry.pulse id report).1.contains id = true) :
    let once := (registry.pulse id report).1
    SamePlacement once (once.pulse id report).1 ∧
      (once.pulse id report).1.nodes = once.nodes := by
  intro once
  obtain ⟨record, hknown, hheld⟩ := exists_held_pulse hname hmember
  have hascending : once.nodes.Ascending := (h.pulse id report).ascending
  exact ⟨samePlacement_pulse hname hknown report,
    nodes_pulse_of_held hascending hname hknown hheld⟩

/-! ## Reports of one node -/

/-- The report that a call carries for a node. -/
def Call.report? (id : NodeId) : Call → Option CapacityReport
  | .pulse k report => if k = id then some report else none
  | .sweep .. => none
  | .remove _ => none

/-- The reports that some calls carry for a node, in the order of the calls. -/
def reportsOf (id : NodeId) (calls : List Call) : List CapacityReport :=
  calls.filterMap (Call.report? id)

theorem eq_pulse_of_report? {call : Call} (h : call.report? id = some report) :
    call = .pulse id report := by
  cases call with
  | pulse k r =>
      rw [Call.report?] at h
      split_ifs at h with hk
      rw [hk, Option.some.inj h]
  | sweep now timeout => cases h
  | remove k => cases h

theorem reportsOf_concat (id : NodeId) (calls : List Call) (call : Call) :
    reportsOf id (calls ++ [call]) = reportsOf id calls ++ (call.report? id).toList := by
  rw [reportsOf, List.filterMap_append, ← reportsOf]
  cases hreport : call.report? id with
  | none => simp [hreport]
  | some report => simp [hreport]

/-- What carries no report for a node leaves its record, as long as the node stays. -/
theorem get?_call_of_report?_eq_none {call : Call} (h : call.report? id = none)
    (hstays : (registry.call call).contains id = true) :
    (registry.call call).get? id = registry.get? id := by
  obtain ⟨record, hrecord⟩ := Option.isSome_iff_exists.mp hstays
  cases call with
  | pulse k report =>
      have hk : k ≠ id := by
        rintro rfl
        simp [Call.report?] at h
      exact get?_pulse_of_ne hk.symm
  | sweep now timeout =>
      have hafter := registry.get?_sweep now timeout id
      split_ifs at hafter
      · exact absurd (hafter.symm.trans hrecord) (Option.some_ne_none record).symm
      · exact hafter
  | remove k =>
      have hafter := registry.get?_remove k id
      split_ifs at hafter
      · exact absurd (hafter.symm.trans hrecord) (Option.some_ne_none record).symm
      · exact hafter

/-! ## The stay of a node -/

/-- A node joins a registry by its first pulse and is not taken out by the calls after
that. -/
structure Stay (id : NodeId) where
  /-- The registry before the node joins. -/
  start : Registry
  first : CapacityReport
  /-- The weight that the node is answered. -/
  weight : Float
  /-- The calls after the first pulse, of this node and of others. -/
  later : List Call
  reachable : start.Reachable
  joined : (start.pulse id first).2 = .ok (.joined weight)
  stays : ∀ calls, calls <+: later →
    (start.run (.pulse id first :: calls)).contains id = true

namespace Stay

variable (stay : Stay id)

/-- All calls of the stay, the first pulse included. -/
def calls : List Call := .pulse id stay.first :: stay.later

/-- The reports of the node since it joined, the first one included. -/
def reports : List CapacityReport := reportsOf id stay.calls

/-- The registry after the stay. -/
def now : Registry := stay.start.run stay.calls

include stay in
theorem named : id.isEmpty = false := (eq_join_of_joined stay.joined).1

/-- From its first pulse on the node is a member. -/
theorem contains_of_prefix {calls : List Call} (hmade : calls <+: stay.calls)
    (hne : calls ≠ []) : (stay.start.run calls).contains id = true := by
  cases calls with
  | nil => exact absurd rfl hne
  | cons call rest =>
      obtain ⟨rfl, hrest⟩ := List.cons_prefix_cons.mp hmade
      exact stay.stays rest hrest

/-- At every moment of the stay the record is that of the latest report so far. -/
theorem exists_latest {calls : List Call} (hcalls : calls <+: stay.later) :
    ∃ report, CapacityReport.Latest (reportsOf id (.pulse id stay.first :: calls)) report ∧
      (stay.start.run (.pulse id stay.first :: calls)).get? id =
        some (.ofReport id report stay.weight) := by
  induction calls using List.reverseRecOn with
  | nil =>
      obtain ⟨-, -, hweight, hafter⟩ := eq_join_of_joined stay.joined
      refine ⟨stay.first, ?_, ?_⟩
      · have hfirst : reportsOf id [.pulse id stay.first] = [stay.first] := by
          simp [reportsOf, Call.report?]
        rw [hfirst]
        exact CapacityReport.latest_singleton stay.first
      · have hrun : stay.start.run [.pulse id stay.first] = _ := hafter
        rw [hrun, hweight]
        exact Table.get?_insert_self _ id _
  | append_singleton calls call ih =>
      have hstays := stay.stays _ hcalls
      obtain ⟨report, hlatest, hrecord⟩ := ih ((List.prefix_append calls [call]).trans hcalls)
      rw [← List.cons_append, run_concat] at hstays ⊢
      rw [reportsOf_concat]
      cases hreport : call.report? id with
      | none =>
          rw [Option.toList_none, List.append_nil]
          exact ⟨report, hlatest, (get?_call_of_report?_eq_none hreport hstays).trans hrecord⟩
      | some next =>
          rw [eq_pulse_of_report? hreport, Option.toList_some]
          refine ⟨_, hlatest.concat next, ?_⟩
          refine (get?_pulse_of_known stay.named hrecord).trans ?_
          split_ifs with hold hnew hnew
          · rfl
          · exact absurd hold hnew
          · exact absurd hnew hold
          · rfl

theorem exists_latest_now :
    ∃ report, CapacityReport.Latest stay.reports report ∧
      stay.now.get? id = some (.ofReport id report stay.weight) :=
  stay.exists_latest (List.prefix_refl stay.later)

/-- The record keeps up with the newest report, and its last update never goes back. -/
theorem lastUpdate_not_lt {calls : List Call} (hcalls : calls <+: stay.later)
    {before after : NodeRecord}
    (hbefore : (stay.start.run (.pulse id stay.first :: calls)).get? id = some before)
    (hafter : stay.now.get? id = some after) : ¬after.lastUpdate < before.lastUpdate := by
  obtain ⟨report, hlatest, hrecord⟩ := stay.exists_latest hcalls
  obtain ⟨report', hlatest', hrecord'⟩ := stay.exists_latest_now
  obtain rfl := Option.some.inj (hrecord.symm.trans hbefore)
  obtain rfl := Option.some.inj (hrecord'.symm.trans hafter)
  apply hlatest'.1 report
  have hmade : .pulse id stay.first :: calls <+: stay.calls :=
    (List.prefix_cons_inj _).mpr hcalls
  exact (hmade.filterMap (Call.report? id)).subset hlatest.mem

end Stay

/-- As long as a node stays, its record says what the latest of its reports says, with the
weight that it joined with, and its last update never goes back.  None of its later pulses
touches the ring, the anchor, the checksum or another record.  Stays of the same reports, in
whatever order and however often each of them arrives, end in records that agree but for the
weight, and a pulse that arrives twice in a row does nothing the second time. -/
theorem stay_keeps_latest_report {id : NodeId} (stay : Stay id) :
    (∃ report record, CapacityReport.Latest stay.reports report ∧
        stay.now.get? id = some record ∧ record.Holds report ∧
        record.id = id ∧ record.priority = stay.weight) ∧
      stay.now.ring.weight? id = some stay.weight ∧
      (∀ calls, calls <+: stay.later → ∀ before after,
        (stay.start.run (.pulse id stay.first :: calls)).get? id = some before →
        stay.now.get? id = some after → ¬after.lastUpdate < before.lastUpdate) ∧
      (∀ calls report, calls ++ [.pulse id report] <+: stay.later →
        let before := stay.start.run (.pulse id stay.first :: calls)
        let after := before.call (.pulse id report)
        SamePlacement before after ∧ ∀ other, other ≠ id → after.get? other = before.get? other) ∧
      (∀ other : Stay id, ∀ shared mine others,
        stay.reports = shared ++ mine → other.reports = shared ++ others →
        (∀ report, report ∈ mine ↔ report ∈ others) →
        (∀ x ∈ mine, ∀ y ∈ mine, x.reportedAt = y.reportedAt → x = y) →
        ∃ record, stay.now.get? id = some record ∧
          other.now.get? id = some { record with priority := other.weight }) ∧
      (∀ calls report, calls ++ [.pulse id report] <+: stay.calls →
        let once := stay.start.run (calls ++ [.pulse id report])
        let twice := once.call (.pulse id report)
        SamePlacement once twice ∧ twice.nodes = once.nodes) := by
  obtain ⟨report, hlatest, hrecord⟩ := stay.exists_latest_now
  refine ⟨⟨report, _, hlatest, hrecord, NodeRecord.holds_ofReport _ _ _, rfl, rfl⟩,
    ?_, ?_, ?_, ?_, ?_⟩
  · have hcoherent : stay.now.Coherent := (stay.reachable.run stay.calls).coherent
    rw [hcoherent.weighed]
    exact congrArg (Option.map NodeRecord.priority) hrecord
  · intro calls hcalls before after hbefore hafter
    exact stay.lastUpdate_not_lt hcalls hbefore hafter
  · intro calls report hcalls before after
    obtain ⟨_, -, hknown⟩ := stay.exists_latest ((List.prefix_append calls _).trans hcalls)
    exact ⟨samePlacement_pulse stay.named hknown report,
      fun other hother => get?_pulse_of_ne hother⟩
  · intro other shared mine others hmine hothers hsame hequal
    obtain ⟨report', hlatest', hrecord'⟩ := other.exists_latest_now
    rw [hmine] at hlatest
    rw [hothers] at hlatest'
    rw [← hlatest.eq_of_same_reports hlatest' hsame hequal] at hrecord'
    exact ⟨_, hrecord, hrecord'⟩
  · intro calls report hmade once twice
    have hcoherent : (stay.start.run calls).Coherent := (stay.reachable.run calls).coherent
    have honce : once = ((stay.start.run calls).pulse id report).1 := run_concat _ _ _
    have hmember : once.contains id = true := stay.contains_of_prefix hmade (by simp)
    rw [honce] at hmember
    have hagain := pulse_again hcoherent stay.named hmember
    rw [← honce] at hagain
    exact hagain

/-- A registry that another node with four bytes has joined. -/
def besideNode : Registry :=
  (create { ring := { entriesPerWeight := 1 } }).run [.pulse ⟨"b"⟩ (reportAt 0 4)]

/-- Three pulses of a node in the order in which they were sent. -/
def pulsesInOrder : Stay ⟨"a"⟩ where
  start := besideNode
  first := ⟨1, 1, 7, ⟨5, 0⟩⟩
  weight := 0.25
  later := [.pulse ⟨"a"⟩ ⟨2, 1, 8, ⟨6, 0⟩⟩, .pulse ⟨"b"⟩ (reportAt 6 4),
    .pulse ⟨"a"⟩ ⟨3, 2, 9, ⟨7, 0⟩⟩]
  reachable := ⟨_, _, rfl⟩
  joined := joined_of_listed rfl (by decide +kernel) (by decide +kernel) (by decide +kernel)
  stays := by
    intro calls hcalls
    rw [← List.mem_inits] at hcalls
    revert calls
    decide +kernel

/-- The same three pulses with the last one first and once more at the end. -/
def pulsesOutOfOrder : Stay ⟨"a"⟩ where
  start := besideNode
  first := ⟨3, 2, 9, ⟨7, 0⟩⟩
  weight := 0.75
  later := [.pulse ⟨"a"⟩ ⟨1, 1, 7, ⟨5, 0⟩⟩, .pulse ⟨"a"⟩ ⟨2, 1, 8, ⟨6, 0⟩⟩,
    .pulse ⟨"a"⟩ ⟨3, 2, 9, ⟨7, 0⟩⟩]
  reachable := ⟨_, _, rfl⟩
  joined := joined_of_listed rfl (by decide +kernel) (by decide +kernel) (by decide +kernel)
  stays := by
    intro calls hcalls
    rw [← List.mem_inits] at hcalls
    revert calls
    decide +kernel

/-- Both leave what the third report says, with the weight of the one that came first. -/
theorem orders_of_pulses_leave_newest :
    (∃ record, pulsesInOrder.now.get? ⟨"a"⟩ = some record ∧
        record.totalBytes = 3 ∧ record.usedBytes = 2 ∧ record.fileCount = 9 ∧
        record.lastUpdate = ⟨7, 0⟩ ∧ record.priority = 0.25) ∧
      ∃ record, pulsesOutOfOrder.now.get? ⟨"a"⟩ = some record ∧
        record.totalBytes = 3 ∧ record.usedBytes = 2 ∧ record.fileCount = 9 ∧
        record.lastUpdate = ⟨7, 0⟩ ∧ record.priority = 0.75 := by
  have hmem (x y z r : CapacityReport) : r ∈ [x, y, z] ↔ r ∈ [z, x, y, z] := by
    simp only [List.mem_cons]
    tauto
  obtain ⟨⟨report, record, hlatest, hrecord, hholds, -, hweight⟩, -, -, -, hsettles, -⟩ :=
    stay_keeps_latest_report pulsesInOrder
  have hnewest : CapacityReport.Latest pulsesInOrder.reports ⟨3, 2, 9, ⟨7, 0⟩⟩ := by
    decide +kernel
  obtain rfl : report = ⟨3, 2, 9, ⟨7, 0⟩⟩ := hlatest.unique hnewest
  have hsame : ∀ r, r ∈ pulsesInOrder.reports ↔ r ∈ pulsesOutOfOrder.reports :=
    hmem ⟨1, 1, 7, ⟨5, 0⟩⟩ ⟨2, 1, 8, ⟨6, 0⟩⟩ ⟨3, 2, 9, ⟨7, 0⟩⟩
  obtain ⟨record', hrecord', hother⟩ :=
    hsettles pulsesOutOfOrder [] _ _ rfl rfl hsame (by decide +kernel)
  obtain rfl : record' = record := Option.some.inj (hrecord'.symm.trans hrecord)
  exact ⟨⟨_, hrecord, hholds.totalBytes, hholds.usedBytes, hholds.fileCount, hholds.lastUpdate,
      hweight⟩,
    _, hother, hholds.totalBytes, hholds.usedBytes, hholds.fileCount, hholds.lastUpdate, rfl⟩

end Registry
end CacheTier
