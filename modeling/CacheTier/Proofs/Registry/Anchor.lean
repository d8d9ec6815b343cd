import CacheTier.Proofs.Registry.Steps
import Mathlib.Data.List.Infix

/-!
# The capacity that weights are relative to

The weight of a node is its capacity relative to an anchor.  The anchor is the first
capacity other than zero that a node reports when it is to join, and it is never given up, also
when that node leaves or its join ends in a panic.  What a known node reports later does not
become the anchor, so the anchor is the first such capacity that was accepted at all only as
long as no node that joined without capacity renews it, and no join panics, before the anchor
is set.
-/

namespace CacheTier

namespace Registry

/-! ## Capacities that a run takes in -/

/-- The node was to join, and did or ended in a panic. -/
def isJoining : PulseEnding → Bool
  | .ok (.joined _) => true
  | .ok .updated => false
  | .ok .stale => false
  | .error (.refused _) => false
  | .error .panicked => true

/-- The report was taken in, by a node that joined or by one that was known. -/
def isAccepted : PulseEnding → Bool
  | .ok (.joined _) => true
  | .ok .updated => true
  | .ok .stale => false
  | .error _ => false

/-- The capacity that a call reports, if it is a pulse with an ending of a kind. -/
def capacity? (kind : PulseEnding → Bool) (registry : Registry) : Call → Option UInt64
  | .pulse id report =>
    if kind (registry.pulse id report).2 then some report.totalBytes else none
  | .sweep .. => none
  | .remove _ => none

/-- The capacities that some calls report with an ending of a kind, in order. -/
def capacities (kind : PulseEnding → Bool) (registry : Registry) : List Call → List UInt64
  | [] => []
  | call :: rest =>
    (registry.capacity? kind call).toList ++ capacities kind (registry.call call) rest

/-- The first of these capacities that is not zero. -/
def firstCapacity? (kind : PulseEnding → Bool) (registry : Registry) (calls : List Call) :
    Option UInt64 :=
  (registry.capacities kind calls).find? (0 < ·)

variable {registry : Registry} {kind : PulseEnding → Bool}

theorem capacities_concat (kind : PulseEnding → Bool) (registry : Registry)
    (calls : List Call) (call : Call) :
    registry.capacities kind (calls ++ [call]) =
      registry.capacities kind calls ++ ((registry.run calls).capacity? kind call).toList := by
  induction calls generalizing registry with
  | nil => simp [capacities, run]
  | cons first rest ih =>
      rw [List.cons_append, capacities, ih, capacities, List.append_assoc]
      rfl

theorem firstCapacity?_concat (kind : PulseEnding → Bool) (registry : Registry)
    (calls : List Call) (call : Call) :
    registry.firstCapacity? kind (calls ++ [call]) =
      (registry.firstCapacity? kind calls).or
        (((registry.run calls).capacity? kind call).filter (0 < ·)) := by
  rw [firstCapacity?, capacities_concat, List.find?_append, ← firstCapacity?]
  cases (registry.run calls).capacity? kind call with
  | none => rfl
  | some capacity => simp [List.find?_singleton, Option.filter]

/-! ## The anchor after a call -/

theorem anchorWith_eq (registry : Registry) (totalBytes : UInt64) :
    registry.anchorWith totalBytes =
      registry.anchor.or ((some totalBytes).filter (0 < ·)) := by
  rw [anchorWith]
  cases registry.anchor with
  | none => simp [Option.filter]
  | some a => rfl

/-- A call sets the anchor only if a node is to join by it, and only where there is none. -/
theorem anchor_call (registry : Registry) (call : Call) :
    (registry.call call).anchor =
      registry.anchor.or ((registry.capacity? isJoining call).filter (0 < ·)) := by
  cases call with
  | pulse id report =>
      have hpulsed := registry.pulsed id report
      rw [Registry.call, capacity?]
      generalize registry.pulse id report = answer at hpulsed ⊢
      cases hpulsed with
      | refused _ => exact (Option.or_none).symm
      | panics _ _ _ => exact registry.anchorWith_eq report.totalBytes
      | joins _ _ _ => exact registry.anchorWith_eq report.totalBytes
      | renews _ _ _ => exact (Option.or_none).symm
      | ignores _ _ _ => exact (Option.or_none).symm
  | sweep now timeout =>
      rw [Registry.call, anchor_sweep]
      exact (Option.or_none).symm
  | remove id =>
      rw [Registry.call, anchor_remove]
      exact (Option.or_none).symm

/-- The anchor is the first capacity other than zero of a node that is to join. -/
theorem anchor_run (config : RegistryConfig) (calls : List Call) :
    ((create config).run calls).anchor =
      (create config).firstCapacity? isJoining calls := by
  induction calls using List.reverseRecOn with
  | nil => rfl
  | append_singleton calls call ih =>
      rw [run_concat, anchor_call, ih, ← firstCapacity?_concat]

theorem anchor_run_of_some {a : UInt64} (hset : registry.anchor = some a)
    (calls : List Call) : (registry.run calls).anchor = some a := by
  induction calls generalizing registry with
  | nil => exact hset
  | cons call rest ih =>
      apply ih
      rw [anchor_call, hset, Option.some_or]

/-! ## What is accepted and what is to join -/

/-- The call is a pulse with a capacity other than zero by which a known node renews it, so that
it is accepted and not to be the anchor, or over which a join panics, so that it may be the
anchor and is not accepted. -/
def SkewsAnchor (registry : Registry) : Call → Prop
  | .pulse id report =>
    ((registry.pulse id report).2 = .ok .updated ∨
        (registry.pulse id report).2 = .error .panicked) ∧ 0 < report.totalBytes
  | .sweep .. => False
  | .remove _ => False

/-- Such calls are all that sets accepted capacities apart from those of joining nodes. -/
theorem filter_capacity?_ne_iff (registry : Registry) (call : Call) :
    (registry.capacity? isJoining call).filter (0 < ·) ≠
        (registry.capacity? isAccepted call).filter (0 < ·) ↔
      registry.SkewsAnchor call := by
  cases call with
  | pulse id report =>
      have hpulsed := registry.pulsed id report
      simp only [capacity?, SkewsAnchor]
      generalize registry.pulse id report = answer at hpulsed ⊢
      cases hpulsed with
      | refused _ => simp [isJoining, isAccepted]
      | panics _ _ _ => simp [isJoining, isAccepted, Option.filter, UInt64.pos_iff_ne_zero]
      | joins _ _ _ => simp [isJoining, isAccepted]
      | renews _ _ _ => simp [isJoining, isAccepted, Option.filter, UInt64.pos_iff_ne_zero]
      | ignores _ _ _ => simp [isJoining, isAccepted]
  | sweep now timeout => simp [capacity?, SkewsAnchor]
  | remove id => simp [capacity?, SkewsAnchor]

/-- The anchor is at every moment the first capacity that was accepted, of whatever node,
exactly if there is an anchor already whenever a known node renews its capacity and whenever a
join panics. -/
theorem anchor_run_eq_accepted_iff (config : RegistryConfig) (calls : List Call) :
    (∀ earlier, earlier <+: calls →
      ((create config).run earlier).anchor =
        (create config).firstCapacity? isAccepted earlier) ↔
    ∀ earlier call, earlier ++ [call] <+: calls →
      ((create config).run earlier).SkewsAnchor call →
        ((create config).run earlier).anchor ≠ none := by
  constructor
  · intro haccepted earlier call hmade hskews hnone
    have hbefore := haccepted earlier ((List.prefix_append _ _).trans hmade)
    have hafter := haccepted (earlier ++ [call]) hmade
    rw [run_concat, anchor_call, firstCapacity?_concat, ← hbefore, hnone, Option.none_or,
      Option.none_or] at hafter
    exact (filter_capacity?_ne_iff _ call).mpr hskews hafter
  · intro hskews earlier
    -- The induction is on the part of the run that has been made.
    induction earlier using List.reverseRecOn with
    | nil => exact fun _ => rfl
    | append_singleton earlier call ih =>
        intro hmade
        have hbefore := ih ((List.prefix_append _ _).trans hmade)
        rw [run_concat, anchor_call, firstCapacity?_concat, ← hbefore]
        by_cases hskew : ((create config).run earlier).SkewsAnchor call
        · obtain ⟨a, hset⟩ := Option.ne_none_iff_exists'.mp (hskews earlier call hmade hskew)
          rw [hset, Option.some_or, Option.some_or]
        · have hsame := not_not.mp (mt (filter_capacity?_ne_iff _ call).mp hskew)
          rw [hsame]

/-! ## The scale of the weights -/

/-- The anchor is the first capacity other than zero that a node was to join with.  It is never
given up, and the weight of a node that joins is relative to it.  It is the first capacity
that was accepted at all exactly in the runs in which no known node renews its capacity, and no
join panics over one, while there is no anchor. -/
theorem weights_relative_to_first_joined (config : RegistryConfig) (calls : List Call) :
    ((create config).run calls).anchor =
        (create config).firstCapacity? isJoining calls ∧
    (∀ later a, ((create config).run calls).anchor = some a →
      ((create config).run (calls ++ later)).anchor = some a) ∧
    (∀ id report weight,
      (((create config).run calls).pulse id report).2 = .ok (.joined weight) →
      weight =
        match (create config).firstCapacity? isJoining
          (calls ++ [.pulse id report]) with
        | some a => report.totalBytes.toFloat / a.toFloat + config.priorityAdjust
        | none => config.priorityAdjust) ∧
    ((∀ earlier, earlier <+: calls →
        ((create config).run earlier).anchor =
          (create config).firstCapacity? isAccepted earlier) ↔
      ∀ earlier call, earlier ++ [call] <+: calls →
        ((create config).run earlier).SkewsAnchor call →
          ((create config).run earlier).anchor ≠ none) := by
  refine ⟨anchor_run config calls, ?_, ?_, anchor_run_eq_accepted_iff config calls⟩
  · intro later a hset
    rw [run_append]
    exact anchor_run_of_some hset later
  · intro id report weight hjoined
    obtain ⟨-, -, rfl, hafter⟩ := eq_join_of_joined hjoined
    have hanchor := anchor_run config (calls ++ [.pulse id report])
    rw [run_concat, Registry.call, hafter] at hanchor
    rw [← hanchor, joinWeight, config_run]
    rfl

/-- A registry that places one entry for a weight of one. -/
def sparse : RegistryConfig := { ring := { entriesPerWeight := 1 } }

/-- A node without capacity and one with ten bytes join, and both expire. -/
def anchorExpires : List Call :=
  [.pulse ⟨"a"⟩ (reportAt 0 0), .pulse ⟨"b"⟩ (reportAt 1 10), .sweep ⟨100, 0⟩ (.ofSeconds 30)]

/-- The ten bytes stay the scale for a node that joins the empty fleet, and before they were the
anchor no capacity was renewed and no join panicked. -/
theorem anchor_outlives_its_node :
    ((create sparse).run anchorExpires).nodeIds = [] ∧
    ((create sparse).run (anchorExpires ++ [.pulse ⟨"a"⟩ (reportAt 101 5)])).anchor = some 10 ∧
    (((create sparse).run anchorExpires).pulse ⟨"a"⟩ (reportAt 101 5)).2 =
      .ok (.joined ((5 : UInt64).toFloat / (10 : UInt64).toFloat + 0)) ∧
    ∀ earlier call, earlier ++ [call] <+: anchorExpires →
      ((create sparse).run earlier).SkewsAnchor call →
        ((create sparse).run earlier).anchor ≠ none := by
  obtain ⟨hfirst, hkept, hweight, hexact⟩ :=
    weights_relative_to_first_joined sparse anchorExpires
  have hten : (create sparse).firstCapacity? isJoining anchorExpires = some 10 := by
    decide +kernel
  have hlater : (create sparse).firstCapacity? isJoining
      (anchorExpires ++ [.pulse ⟨"a"⟩ (reportAt 101 5)]) = some 10 := by decide +kernel
  refine ⟨by decide +kernel, hkept _ 10 (hfirst.trans hten), ?_, hexact.mp ?_⟩
  · have hjoined : (((create sparse).run anchorExpires).pulse ⟨"a"⟩ (reportAt 101 5)).2 =
        .ok (.joined (((create sparse).run anchorExpires).joinWeight (reportAt 101 5))) :=
      joined_of_listed rfl (by decide +kernel) (by decide +kernel) rfl
    rw [hjoined, hweight _ _ _ hjoined, hlater]
    rfl
  · intro earlier hmade
    rw [← List.mem_inits] at hmade
    revert earlier
    decide +kernel

/-- A node joins without capacity and renews it to ten bytes before one with twenty joins. -/
def renewedFirst : List Call :=
  [.pulse ⟨"a"⟩ (reportAt 0 0), .pulse ⟨"a"⟩ (reportAt 1 10), .pulse ⟨"b"⟩ (reportAt 2 20)]

/-- The ten bytes that were accepted first do not become the anchor: the twenty do, and their
node joins with the weight one, which is not twenty over ten. -/
theorem renewal_does_not_anchor :
    ((create sparse).run (renewedFirst.take 2)).anchor = none ∧
    (create sparse).firstCapacity? isAccepted (renewedFirst.take 2) = some 10 ∧
    ((create sparse).run renewedFirst).anchor = some 20 ∧
    (create sparse).firstCapacity? isAccepted renewedFirst = some 10 ∧
    (((create sparse).run (renewedFirst.take 2)).pulse ⟨"b"⟩ (reportAt 2 20)).2 =
      .ok (.joined 1) ∧
    (1 : Float) ≠ (20 : UInt64).toFloat / (10 : UInt64).toFloat + sparse.priorityAdjust := by
  exact ⟨by decide +kernel, by decide +kernel, by decide +kernel, by decide +kernel,
    joined_of_listed rfl (by decide +kernel) (by decide +kernel) (by decide +kernel),
    by decide +kernel⟩

end Registry
end CacheTier
