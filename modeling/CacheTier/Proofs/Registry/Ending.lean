import CacheTier.Registry
import Mathlib.Tactic.SplitIfs

/-!
# How a pulse ends

A pulse is refused, panics, joins its node, renews the node's capacity or is ignored as stale.
What is known of pulses elsewhere is read off these five cases.
-/

namespace CacheTier
namespace Registry

/-- What a pulse comes to. -/
inductive Pulsed (registry : Registry) (id : NodeId) (report : CapacityReport) :
    Registry × PulseEnding → Prop
  /-- A pulse that names no node is refused. -/
  | refused (hname : id.isEmpty = true) :
      Pulsed registry id report
        (registry, .error (.refused (.invalidArgument "node id must not be empty")))
  /-- An unknown node cannot join, because its positions cannot be listed. -/
  | panics (hname : id.isEmpty = false) (hnew : registry.get? id = none)
      (hpanics : registry.joinPanics id report = true) :
      Pulsed registry id report (registry.countPulse.anchored report, .error .panicked)
  /-- An unknown node joins. -/
  | joins (hname : id.isEmpty = false) (hnew : registry.get? id = none)
      (hlisted : registry.joinPanics id report = false) :
      Pulsed registry id report
        (registry.countPulse.join id report, .ok (.joined (registry.joinWeight report)))
  /-- A known node renews its capacity. -/
  | renews {record : NodeRecord} (hname : id.isEmpty = false)
      (hknown : registry.get? id = some record)
      (hcurrent : ¬report.reportedAt < record.lastUpdate) :
      Pulsed registry id report (registry.countPulse.renew record id report, .ok .updated)
  /-- A pulse older than the record is ignored. -/
  | ignores {record : NodeRecord} (hname : id.isEmpty = false)
      (hknown : registry.get? id = some record) (hstale : report.reportedAt < record.lastUpdate) :
      Pulsed registry id report (registry.countPulse.ignoreStale record id report, .ok .stale)

theorem pulsed (registry : Registry) (id : NodeId) (report : CapacityReport) :
    Pulsed registry id report (registry.pulse id report) := by
  rw [Registry.pulse]
  split_ifs with hempty
  · exact .refused hempty
  have hname : id.isEmpty = false := by simpa using hempty
  cases hget : registry.countPulse.get? id with
  | none =>
      simp only [hget]
      split_ifs with hpanics
      · exact .panics hname hget hpanics
      · exact .joins hname hget (Bool.eq_false_iff.mpr hpanics)
  | some record =>
      simp only [hget]
      split_ifs with hstale
      · exact .ignores hname hget hstale
      · exact .renews hname hget hstale

end Registry
end CacheTier
