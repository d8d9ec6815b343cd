import CacheTier.Proofs.Digest.Lines
import CacheTier.Proofs.Registry.Coherence

/-!
# Which memberships a registry tells apart

A client that sends the checksum of an earlier state is told that nothing has changed
exactly when the present members have the same lines.  For identifiers of one line
these are the same members.  A registry also takes in identifiers with line breaks,
and then two different memberships can have the same lines.
-/

namespace CacheTier
namespace Registry

/-- Two registries have the same members. -/
def SameMembers (earlier later : Registry) : Prop :=
  ∀ id, earlier.contains id = later.contains id

theorem Coherent.sameMembers_iff_nodeIds_eq
    {earlier later : Registry} (h : earlier.Coherent) (h' : later.Coherent) :
    SameMembers earlier later ↔ earlier.nodeIds = later.nodeIds := by
  constructor
  · intro hsame
    apply Table.keys_eq_of_contains_iff h.ascending h'.ascending
    intro id
    exact Bool.eq_iff_iff.mp (hsame id)
  · intro hids id
    have hkeys : earlier.nodes.keys = later.nodes.keys := hids
    rw [Bool.eq_iff_iff, contains, contains, Table.contains_iff_mem_keys,
      Table.contains_iff_mem_keys, hkeys]

/-- Members of one line are determined by their lines. -/
theorem Coherent.sameMembers_of_lines_eq
    {earlier later : Registry} (h : earlier.Coherent) (h' : later.Coherent)
    (hline : ∀ id, earlier.contains id = true ∨ later.contains id = true → id.OneLine)
    (hlines : Digest.lines earlier.nodeIds = Digest.lines later.nodeIds) :
    SameMembers earlier later := by
  apply (h.sameMembers_iff_nodeIds_eq h').mpr
  apply Digest.eq_of_lines_eq
  · intro id hid
    exact hline id (Or.inl (Table.contains_iff_mem_keys.mpr hid))
  · intro id hid
    exact hline id (Or.inr (Table.contains_iff_mem_keys.mpr hid))
  · exact hlines

/-- A request is answered without the members exactly when it names the checksum. -/
theorem snapshot_isUnchanged_iff {registry : Registry} {known : Option String} :
    (registry.snapshot known).isUnchanged = true ↔ known = some registry.checksum := by
  rw [snapshot]
  split_ifs with h
  · simpa [SnapshotReply.isUnchanged] using h
  · simpa [SnapshotReply.isUnchanged] using h

/-- Checksums of reachable states agree exactly when the members have the same lines,
so a checksum identifies the members exactly where their lines do, and always where
every identifier is one line. -/
theorem checksum_identifies_lines
    {earlier later : Registry} (h : earlier.Reachable) (h' : later.Reachable)
    (hdigest : Digest.Distinguished earlier.nodeIds later.nodeIds) :
    (earlier.checksum = later.checksum ↔
        Digest.lines earlier.nodeIds = Digest.lines later.nodeIds) ∧
      ((later.snapshot (some earlier.checksum)).isUnchanged = true ↔
        Digest.lines earlier.nodeIds = Digest.lines later.nodeIds) ∧
      ((earlier.checksum = later.checksum ↔ SameMembers earlier later) ↔
        (Digest.lines earlier.nodeIds = Digest.lines later.nodeIds →
          SameMembers earlier later)) ∧
      ((∀ id, earlier.contains id = true ∨ later.contains id = true → id.OneLine) →
        (earlier.checksum = later.checksum ↔ SameMembers earlier later) ∧
        ((later.snapshot (some earlier.checksum)).isUnchanged = true ↔
          SameMembers earlier later)) := by
  have hsum : earlier.checksum = later.checksum ↔
      Digest.lines earlier.nodeIds = Digest.lines later.nodeIds := by
    rw [h.coherent.checked, h'.coherent.checked]
    exact hdigest.checksum_eq_iff
  have hreply : (later.snapshot (some earlier.checksum)).isUnchanged = true ↔
      earlier.checksum = later.checksum := by
    rw [snapshot_isUnchanged_iff, Option.some_inj]
  have hlines : SameMembers earlier later →
      Digest.lines earlier.nodeIds = Digest.lines later.nodeIds := by
    intro hsame
    rw [(h.coherent.sameMembers_iff_nodeIds_eq h'.coherent).mp hsame]
  refine ⟨hsum, hreply.trans hsum, ?_, ?_⟩
  · rw [hsum]
    constructor
    · exact Iff.mp
    · intro hsame
      exact ⟨hsame, hlines⟩
  · intro hline
    have hsame : earlier.checksum = later.checksum ↔ SameMembers earlier later :=
      hsum.trans ⟨h.coherent.sameMembers_of_lines_eq h'.coherent hline, hlines⟩
    exact ⟨hsame, hreply.trans hsame⟩

/-- A registry that nodes with these identifiers have joined. -/
def joinedBy (ids : List NodeId) : Registry :=
  (create { ring := { entriesPerWeight := 1 } }).run
    (ids.map fun id => .pulse id ⟨1, 0, 0, ⟨0, 0⟩⟩)

theorem reachable_joinedBy (ids : List NodeId) : (joinedBy ids).Reachable :=
  ⟨_, _, rfl⟩

/-- A second node with an identifier of one line changes the checksum. -/
theorem checksum_identifies_two_nodes :
    let earlier := joinedBy [⟨"a"⟩]
    let later := joinedBy [⟨"a"⟩, ⟨"b"⟩]
    earlier.Reachable ∧ later.Reachable ∧
      Digest.Distinguished earlier.nodeIds later.nodeIds ∧
      (earlier.checksum = later.checksum ↔
        Digest.lines earlier.nodeIds = Digest.lines later.nodeIds) := by
  have hdigest : Digest.Distinguished
      (joinedBy [⟨"a"⟩]).nodeIds (joinedBy [⟨"a"⟩, ⟨"b"⟩]).nodeIds := by
    unfold Digest.Distinguished
    decide +kernel
  exact ⟨reachable_joinedBy _, reachable_joinedBy _, hdigest,
    (checksum_identifies_lines (reachable_joinedBy _) (reachable_joinedBy _) hdigest).1⟩

/-- One node with a line break in its identifier has the checksum of the two nodes
that its lines name. -/
theorem line_break_hides_change :
    let earlier := joinedBy [⟨"a\nb"⟩]
    let later := joinedBy [⟨"a"⟩, ⟨"b"⟩]
    earlier.Reachable ∧ later.Reachable ∧
      Digest.Distinguished earlier.nodeIds later.nodeIds ∧
      earlier.checksum = later.checksum ∧
      (later.snapshot (some earlier.checksum)).isUnchanged = true ∧
      ¬SameMembers earlier later := by
  intro earlier later
  have hbytes : Digest.memberLines earlier.nodeIds = Digest.memberLines later.nodeIds := by
    decide +kernel
  have hsum : earlier.checksum = later.checksum := by decide +kernel
  have hdiffer : earlier.contains ⟨"a"⟩ ≠ later.contains ⟨"a"⟩ := by decide +kernel
  refine ⟨reachable_joinedBy _, reachable_joinedBy _, fun _ => hbytes, hsum, ?_, ?_⟩
  · exact snapshot_isUnchanged_iff.mpr (congrArg some hsum)
  · intro hsame
    exact hdiffer (hsame ⟨"a"⟩)

end Registry
end CacheTier
