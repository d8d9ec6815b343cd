import CacheTier.Proofs.Registry.Anchor
import Mathlib

/-!
# How many positions a join asks for

A node joins with a weight relative to the first capacity that a node was to join with, and asks
the ring for virtual nodes in proportion.  This file reckons the weights exactly.  A small first
capacity makes the weight of a later node so large that its positions cannot be listed, and the
join ends in a panic; from a first capacity of 2401 bytes on that cannot happen, whatever is
reported.
-/

namespace CacheTier

/-- Exact weights: nothing is rounded but the number of virtual nodes. -/
instance : Weighing ℚ where
  ofWord n := n.toNat
  isPositive weight := 0 < weight
  toWord number := UInt64.ofNat (min ⌊number⌋₊ (UInt64.size - 1))

namespace Ring

/-- A whole quotient as the weight, reckoned exactly. -/
theorem virtualNodes_div {entriesPerWeight capacity anchor : Nat} (hanchor : 0 < anchor)
    (hentries : entriesPerWeight < UInt64.size) :
    virtualNodes entriesPerWeight (capacity / anchor : ℚ) =
      max (min (entriesPerWeight * (anchor + capacity) / anchor) (UInt64.size - 1)) 1 := by
  have hpositive : (0 : ℚ) < anchor := by exact_mod_cast hanchor
  have hweight : effectiveWeight (capacity / anchor : ℚ) = capacity / anchor := by
    rw [effectiveWeight]
    split_ifs with hcounts
    · rfl
    · have hle : (capacity / anchor : ℚ) ≤ 0 := by simpa [Weighing.isPositive] using hcounts
      have hge : (0 : ℚ) ≤ capacity / anchor := by positivity
      exact (le_antisymm hle hge).symm
  have hcount : (entriesPerWeight : ℚ) * (1 + capacity / anchor) =
      (entriesPerWeight * (anchor + capacity) : ℕ) / (anchor : ℚ) := by
    push_cast
    field_simp
  have hfloor : ⌊(entriesPerWeight : ℚ) * (1 + capacity / anchor)⌋₊ =
      entriesPerWeight * (anchor + capacity) / anchor := by
    rw [hcount, Nat.floor_div_eq_div]
  have hword : Weighing.ofWord (UInt64.ofNat entriesPerWeight) = (entriesPerWeight : ℚ) :=
    congrArg Nat.cast (UInt64.toNat_ofNat_of_lt' hentries)
  have hone : Weighing.ofWord (1 : UInt64) = (1 : ℚ) := Nat.cast_one
  have hsaturated : min (entriesPerWeight * (anchor + capacity) / anchor) (UInt64.size - 1) <
      UInt64.size :=
    Nat.lt_of_le_of_lt (Nat.min_le_right _ _) (by decide)
  rw [virtualNodes, hweight, hword, hone]
  simp only [Weighing.toWord]
  rw [hfloor, UInt64.toNat_ofNat_of_lt' hsaturated]

theorem isListable_iff {count : Nat} : isListable count = true ↔ count < 2 ^ 60 := by
  have hlimit : Nat.pow 2 63 = 9223372036854775808 := by norm_num
  rw [isListable, decide_eq_true_iff, hlimit]
  omega

end Ring

namespace Registry

variable {registry : Registry}

/-- How many virtual nodes a node would join with, if weights are reckoned exactly and are not
adjusted. -/
def joinQuota (registry : Registry) (report : CapacityReport) : Nat :=
  Ring.virtualNodes registry.ring.entriesPerWeight
    (weightOf (registry.anchorWith report.totalBytes) report.totalBytes (0 : ℚ))

theorem joinQuota_of_none {report : CapacityReport}
    (hnone : registry.anchorWith report.totalBytes = none)
    (hentries : registry.ring.entriesPerWeight = 150) : registry.joinQuota report = 150 := by
  have hzero : (0 : ℚ) = (0 : ℕ) / (1 : ℕ) := by norm_num
  rw [joinQuota, hnone, weightOf, hentries, hzero,
    Ring.virtualNodes_div Nat.zero_lt_one (by decide)]
  rfl

theorem joinQuota_of_some {report : CapacityReport} {a : UInt64} (ha : 0 < a.toNat)
    (hsome : registry.anchorWith report.totalBytes = some a)
    (hentries : registry.ring.entriesPerWeight = 150) :
    registry.joinQuota report =
      min (150 * (a.toNat + report.totalBytes.toNat) / a.toNat) (UInt64.size - 1) := by
  have hweight : (Weighing.ofWord report.totalBytes / Weighing.ofWord a + 0 : ℚ) =
      report.totalBytes.toNat / a.toNat := add_zero _
  have hleast : 150 ≤ 150 * (a.toNat + report.totalBytes.toNat) / a.toNat := by
    rw [Nat.le_div_iff_mul_le ha]
    exact Nat.mul_le_mul_left _ (Nat.le_add_right _ _)
  rw [joinQuota, hsome, weightOf, hentries, hweight, Ring.virtualNodes_div ha (by decide)]
  refine max_eq_left (le_min (by omega) (by decide))

/-- With an anchor, what keeps the positions listable is a bound on the capacity reported. -/
theorem isListable_joinQuota_iff {report : CapacityReport}
    (hpositive : ∀ a, registry.anchorWith report.totalBytes = some a → 0 < a.toNat)
    (hentries : registry.ring.entriesPerWeight = 150) :
    Ring.isListable (registry.joinQuota report) = true ↔
      ∀ a, registry.anchorWith report.totalBytes = some a →
        150 * (a.toNat + report.totalBytes.toNat) < 2 ^ 60 * a.toNat := by
  rw [Ring.isListable_iff]
  cases hanchor : registry.anchorWith report.totalBytes with
  | none => simp [joinQuota_of_none hanchor hentries]
  | some a =>
      have ha : 0 < a.toNat := hpositive a hanchor
      have hsize : ¬UInt64.size - 1 < 2 ^ 60 := by decide
      simp only [joinQuota_of_some ha hanchor hentries, Option.some.injEq, forall_eq', min_lt_iff,
        hsize, or_false, Nat.div_lt_iff_lt_mul ha]

/-! ## The runs of a registry -/

theorem anchorWith_run (config : RegistryConfig) (calls : List Call) (totalBytes : UInt64) :
    ((create config).run calls).anchorWith totalBytes =
      ((create config).firstCapacity? isJoining calls).or
        ((some totalBytes).filter (0 < ·)) := by
  rw [anchorWith_eq, anchor_run]

theorem pos_of_anchorWith_run {config : RegistryConfig} {calls : List Call}
    {totalBytes a : UInt64}
    (hanchor : ((create config).run calls).anchorWith totalBytes = some a) : 0 < a.toNat := by
  rw [anchorWith_run, Option.or_eq_some_iff, Option.filter_eq_some_iff] at hanchor
  obtain hfirst | ⟨-, -, hpositive⟩ := hanchor
  · rw [firstCapacity?] at hfirst
    have hpositive : 0 < a := by simpa using List.find?_some hfirst
    exact UInt64.lt_iff_toNat_lt.mp hpositive
  · exact UInt64.lt_iff_toNat_lt.mp (of_decide_eq_true hpositive)

theorem entriesPerWeight_run (config : RegistryConfig) (calls : List Call) :
    ((create config).run calls).ring.entriesPerWeight = max config.ring.entriesPerWeight 1 := by
  rw [((coherent_create config).run calls).shaped, config_run]
  rfl

/-- Reckoned exactly, a node that joins after some calls asks for 150 positions while no node
was to join with capacity, and otherwise for 150 times the sum of its capacity and the anchor,
divided by the anchor.  They can be listed as long as the quotient stays below `2 ^ 60`.  No
capacity that can be reported breaks this exactly if the first capacity that a node was to join
with is over 2400 bytes, or none was to join with capacity yet. -/
theorem join_quota_listable_iff (calls : List Call) :
    (∀ report, ((create {}).run calls).joinQuota report =
      match ((create {}).run calls).anchorWith report.totalBytes with
      | some a => min (150 * (a.toNat + report.totalBytes.toNat) / a.toNat) (UInt64.size - 1)
      | none => 150) ∧
    (∀ report, Ring.isListable (((create {}).run calls).joinQuota report) = true ↔
      ∀ a, ((create {}).run calls).anchorWith report.totalBytes = some a →
        150 * (a.toNat + report.totalBytes.toNat) < 2 ^ 60 * a.toNat) ∧
    ((∀ report, Ring.isListable (((create {}).run calls).joinQuota report) = true) ↔
      ∀ a, (create {}).firstCapacity? isJoining calls = some a → 2400 < a.toNat) := by
  have hentries : ((create {}).run calls).ring.entriesPerWeight = 150 :=
    entriesPerWeight_run {} calls
  have hlistable (report : CapacityReport) :
      Ring.isListable (((create {}).run calls).joinQuota report) = true ↔
        ∀ a, ((create {}).run calls).anchorWith report.totalBytes = some a →
          150 * (a.toNat + report.totalBytes.toNat) < 2 ^ 60 * a.toNat :=
    isListable_joinQuota_iff (fun _ => pos_of_anchorWith_run) hentries
  refine ⟨fun report => ?_, hlistable, ?_⟩
  · cases hanchor : ((create {}).run calls).anchorWith report.totalBytes with
    | none => exact joinQuota_of_none hanchor hentries
    | some a => exact joinQuota_of_some (pos_of_anchorWith_run hanchor) hanchor hentries
  · simp only [hlistable, anchorWith_run]
    cases hfirst : (create {}).firstCapacity? isJoining calls with
    | none =>
        -- The node would be the first with capacity, so its weight is one.
        simp only [Option.none_or, reduceCtorEq, false_imp_iff, implies_true, iff_true]
        intro report a hself
        obtain ⟨rfl, hpositive⟩ : report.totalBytes = a ∧ 0 < a := by
          simpa [Option.filter_eq_some_iff] using hself
        have hpositive : 0 < report.totalBytes.toNat := UInt64.lt_iff_toNat_lt.mp hpositive
        omega
    | some a =>
        simp only [Option.some_or, Option.some.injEq, forall_eq']
        constructor
        · intro hall
          have hmost : 150 * (a.toNat + 18446744073709551615) < 2 ^ 60 * a.toNat :=
            hall (reportAt 0 18446744073709551615)
          omega
        · intro hover report
          have hreport : report.totalBytes.toNat < 2 ^ 64 := report.totalBytes.toNat_lt
          omega

/-- Once a node has joined with 4096 bytes, every later join can list its positions. -/
theorem listable_after_page (report : CapacityReport) :
    Ring.isListable
      (((create {}).run [.pulse ⟨"a"⟩ (reportAt 0 4096)]).joinQuota report) = true := by
  have hfirst : (create {}).firstCapacity? isJoining
      [.pulse ⟨"a"⟩ (reportAt 0 4096)] = some 4096 := by decide +kernel
  refine (join_quota_listable_iff _).2.2.mpr (fun a ha => ?_) report
  rw [hfirst, Option.some.injEq] at ha
  subst ha
  decide

/-- A node with one byte. -/
def oneByte : List Call := [.pulse ⟨"a"⟩ (reportAt 0 1)]

/-- A report of the largest capacity there is. -/
def largestReport : CapacityReport := reportAt 0 18446744073709551615

/-- After a node with one byte, a pulse with the largest capacity is one of an unknown node with
a name, so it is to join.  Its positions cannot be listed, in exact arithmetic as well as in
that of the program, and the pulse ends in a panic. -/
theorem join_panics_after_one_byte :
    ((create {}).run oneByte).contains ⟨"b"⟩ = false ∧
    ((create {}).run oneByte).joinQuota largestReport = 18446744073709551615 ∧
    Ring.isListable (((create {}).run oneByte).joinQuota largestReport) = false ∧
    (((create {}).run oneByte).pulse ⟨"b"⟩ largestReport).2 = .error .panicked := by
  have hanchor : ((create {}).run oneByte).anchorWith largestReport.totalBytes = some 1 := by
    decide +kernel
  have hnew : ((create {}).run oneByte).contains ⟨"b"⟩ = false := by decide +kernel
  have hquota : ((create {}).run oneByte).joinQuota largestReport = 18446744073709551615 := by
    rw [joinQuota_of_some (by decide) hanchor (entriesPerWeight_run {} oneByte)]
    decide
  refine ⟨hnew, hquota, ?_, panicked_of_not_listed rfl hnew (by decide +kernel)⟩
  rw [hquota]
  decide

end Registry
end CacheTier
