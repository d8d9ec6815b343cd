import CacheTier.Digest.Placement
import CacheTier.Proofs.NodeId
import Mathlib.Data.List.Basic

/-!
# What a checksum tells apart

The checksum of a membership is taken over its identifiers, each followed by a line
break.  An identifier may hold line breaks itself, so what the checksummed bytes
determine is not the list of identifiers but the list of their lines.  The two are
the same for identifiers of one line.

Nothing is assumed of the digest as a whole: where a result needs that it tells two
memberships apart, this is a hypothesis about these two.
-/

namespace CacheTier

/-! ## Hexadecimal text -/

namespace Hex

theorem value?_digit {n : ℕ} (h : n < 16) : value? (digit n) = some n := by
  have hall : ∀ n < 16, value? (digit n) = some n := by decide
  exact hall n h

/-- Bytes are read back from their digits. -/
theorem toBytes?_ofBytes (bytes : List UInt8) : toBytes? (ofBytes bytes) = some bytes := by
  induction bytes with
  | nil => rfl
  | cons b rest ih =>
      have hdigits : ofBytes (b :: rest) =
          digit (b.toNat / 16 % 16) :: digit (b.toNat % 16) :: ofBytes rest := by
        simp [ofBytes, ofNat]
      have hhigh : value? (digit (b.toNat / 16 % 16)) = some (b.toNat / 16 % 16) :=
        value?_digit (Nat.mod_lt _ (by decide))
      have hlow : value? (digit (b.toNat % 16)) = some (b.toNat % 16) :=
        value?_digit (Nat.mod_lt _ (by decide))
      have hsum : b.toNat / 16 % 16 * 16 + b.toNat % 16 = b.toNat := by
        have hbound : b.toNat < 256 := b.toNat_lt
        omega
      rw [hdigits, toBytes?, hhigh, hlow, ih]
      simp only [Option.bind_eq_bind, Option.bind_some, hsum, UInt8.ofNat_toNat]
      rfl

theorem ofBytes_injective : Function.Injective ofBytes := by
  intro bytes bytes' h
  have hread : some bytes = some bytes' := by
    rw [← toBytes?_ofBytes bytes, h, toBytes?_ofBytes]
  exact Option.some.inj hread

end Hex

/-! ## The lines of a membership -/

/-- An identifier without a line break. -/
def NodeId.OneLine (id : NodeId) : Prop := '\n' ∉ id.text.toList

namespace Digest

/-- The text that the checksum of a membership is taken over. -/
def memberText (ids : List NodeId) : List Char :=
  ids.flatMap fun id => id.text.toList ++ ['\n']

/-- The lines of the identifiers of a membership. -/
def lines (ids : List NodeId) : List (List Char) :=
  ids.flatMap fun id => id.text.toList.splitOn '\n'

theorem memberLines_eq_encodeChars (ids : List NodeId) :
    memberLines ids = encodeChars (memberText ids) := by
  induction ids with
  | nil => rfl
  | cons id rest ih =>
      rw [memberLines, memberText, List.flatMap_cons, List.flatMap_cons, ← memberLines,
        ← memberText, encodeChars_append, encodeChars_append, ih, NodeId.bytes_eq]
      rfl

/-- The text is cut at line breaks into the lines, and an empty rest. -/
theorem splitOn_memberText (ids : List NodeId) :
    (memberText ids).splitOn '\n' = lines ids ++ [[]] := by
  induction ids with
  | nil => rfl
  | cons id rest ih =>
      have htext : memberText (id :: rest) = id.text.toList ++ '\n' :: memberText rest := by
        simp [memberText]
      rw [htext, List.splitOn_append_cons_self, ih, lines, lines, List.flatMap_cons,
        List.append_assoc]

/-- Two memberships have the same checksummed bytes exactly when they have the same
lines. -/
theorem memberLines_eq_iff {ids ids' : List NodeId} :
    memberLines ids = memberLines ids' ↔ lines ids = lines ids' := by
  rw [memberLines_eq_encodeChars, memberLines_eq_encodeChars, encodeChars_injective.eq_iff]
  constructor
  · intro htext
    have hsplit : lines ids ++ [[]] = lines ids' ++ [[]] := by
      rw [← splitOn_memberText, ← splitOn_memberText, htext]
    exact List.append_cancel_right hsplit
  · intro hlines
    have hsplit : (memberText ids).splitOn '\n' = (memberText ids').splitOn '\n' := by
      rw [splitOn_memberText, splitOn_memberText, hlines]
    calc
      memberText ids = ['\n'].intercalate ((memberText ids).splitOn '\n') :=
        (List.intercalate_splitOn '\n').symm
      _ = ['\n'].intercalate ((memberText ids').splitOn '\n') := by rw [hsplit]
      _ = memberText ids' := List.intercalate_splitOn '\n'

theorem lines_eq_nil_iff {ids : List NodeId} : lines ids = [] ↔ ids = [] := by
  cases ids with
  | nil => simp [lines]
  | cons id rest => simp [lines]

theorem lines_of_oneLine {ids : List NodeId} (h : ∀ id ∈ ids, id.OneLine) :
    lines ids = ids.map fun id => id.text.toList := by
  induction ids with
  | nil => rfl
  | cons id rest ih =>
      have hid : id.text.toList.splitOn '\n' = [id.text.toList] :=
        List.splitOn_eq_singleton (h id List.mem_cons_self)
      have hrest : lines rest = rest.map fun id => id.text.toList :=
        ih fun id hmem => h id (List.mem_cons_of_mem _ hmem)
      rw [lines, List.flatMap_cons, hid, ← lines, hrest]
      rfl

/-- Identifiers of one line are determined by their lines. -/
theorem eq_of_lines_eq {ids ids' : List NodeId}
    (h : ∀ id ∈ ids, id.OneLine) (h' : ∀ id ∈ ids', id.OneLine)
    (hlines : lines ids = lines ids') : ids = ids' := by
  have hinjective : Function.Injective fun id : NodeId => id.text.toList := by
    intro a b hab
    exact NodeId.ext_text (String.toList_inj.mp hab)
  rw [lines_of_oneLine h, lines_of_oneLine h'] at hlines
  exact List.map_injective_iff.mpr hinjective hlines

/-! ## Checksums -/

/-- The digest tells two memberships apart whose checksummed bytes differ. -/
def Distinguished (ids ids' : List NodeId) : Prop :=
  Sha1.digest (memberLines ids) = Sha1.digest (memberLines ids') →
    memberLines ids = memberLines ids'

theorem checksum_eq_iff_digest_eq {ids ids' : List NodeId} :
    checksum ids = checksum ids' ↔
      Sha1.digest (memberLines ids) = Sha1.digest (memberLines ids') := by
  rw [checksum, checksum, String.ofList_inj, Hex.ofBytes_injective.eq_iff]

theorem Distinguished.checksum_eq_iff {ids ids' : List NodeId} (h : Distinguished ids ids') :
    checksum ids = checksum ids' ↔ lines ids = lines ids' := by
  rw [checksum_eq_iff_digest_eq, ← memberLines_eq_iff]
  constructor
  · exact h
  · intro hbytes
    rw [hbytes]

end Digest
end CacheTier
