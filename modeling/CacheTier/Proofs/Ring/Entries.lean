import CacheTier.Ring
import CacheTier.Proofs.NodeId
import Mathlib.Data.List.Nodup
import Mathlib.Data.Set.Basic
import Mathlib.Order.RelClasses

/-!
# Ascending entries

The entries of a ring are a set kept as a list in ascending order, by position
and then by the bytes of the owner.  Inserting and erasing the positions of a
node act on that set as union and difference, and looking up a position finds
the least entry that is not below it, or the least entry of all.
-/

namespace CacheTier
namespace Ring

/-! ## The order of entries -/

/-- One entry stands below another: by position, and by the bytes of the owner
where positions agree. -/
def Entry.Precedes (a b : Entry) : Prop :=
  a.position < b.position ∨ a.position = b.position ∧ a.owner.bytes < b.owner.bytes

theorem Entry.before_iff_precedes {a b : Entry} :
    a.before b = true ↔ a.Precedes b := by
  simp [Entry.before, Entry.Precedes, NodeId.lt_iff_bytes_lt]

instance : IsStrictTotalOrder Entry Entry.Precedes where
  irrefl a h := by
    rcases h with h | ⟨-, h⟩
    · exact UInt64.lt_irrefl _ h
    · exact List.lt_irrefl _ h
  trans a b c hab hbc := by
    rcases hab with hab | ⟨hab, hab'⟩
    · rcases hbc with hbc | ⟨hbc, -⟩
      · exact Or.inl (UInt64.lt_trans hab hbc)
      · exact Or.inl (hbc ▸ hab)
    · rcases hbc with hbc | ⟨hbc, hbc'⟩
      · exact Or.inl (hab ▸ hbc)
      · exact Or.inr ⟨hab.trans hbc, List.lt_trans hab' hbc'⟩
  trichotomous a b hab hba := by
    have hposition : a.position = b.position := by
      apply UInt64.le_antisymm
      · exact UInt64.not_lt.mp fun h => hba (Or.inl h)
      · exact UInt64.not_lt.mp fun h => hab (Or.inl h)
    have howner : a.owner = b.owner := by
      apply Std.Trichotomous.trichotomous (r := (· < ·))
      · exact fun h => hab (Or.inr ⟨hposition, NodeId.lt_iff_bytes_lt.mp h⟩)
      · exact fun h => hba (Or.inr ⟨hposition.symm, NodeId.lt_iff_bytes_lt.mp h⟩)
    cases a
    cases b
    simp_all

/-- The entries stand in strictly ascending order. -/
def Ascending (entries : List Entry) : Prop := entries.Pairwise Entry.Precedes

theorem Entry.Precedes.ne {a b : Entry} (h : a.Precedes b) : a ≠ b := by
  rintro rfl
  exact Std.Irrefl.irrefl (r := Entry.Precedes) a h

theorem Ascending.nodup {entries : List Entry} (h : Ascending entries) : entries.Nodup :=
  List.Pairwise.imp Entry.Precedes.ne h

/-! ## Inserting and erasing -/

theorem mem_insertEntry {e x : Entry} {entries : List Entry} :
    x ∈ insertEntry e entries ↔ x = e ∨ x ∈ entries := by
  induction entries with
  | nil => simp [insertEntry]
  | cons y ys ih =>
      rw [insertEntry]
      split_ifs with hlt hgt
      · simp
      · rw [List.mem_cons, ih, List.mem_cons]
        tauto
      · rw [Entry.before_iff_precedes] at hlt hgt
        have heq : e = y := Std.Trichotomous.trichotomous (r := Entry.Precedes) _ _ hlt hgt
        simp [heq]

theorem Ascending.insertEntry {entries : List Entry} (h : Ascending entries) (e : Entry) :
    Ascending (insertEntry e entries) := by
  induction entries with
  | nil => simp [Ascending, Ring.insertEntry]
  | cons y ys ih =>
      obtain ⟨hhead, hrest⟩ := List.pairwise_cons.mp h
      rw [Ring.insertEntry]
      split_ifs with hlt hgt
      · rw [Entry.before_iff_precedes] at hlt
        refine List.pairwise_cons.mpr ⟨?_, h⟩
        intro x hx
        rcases List.mem_cons.mp hx with rfl | hx
        · exact hlt
        · exact IsTrans.trans _ _ _ hlt (hhead x hx)
      · rw [Entry.before_iff_precedes] at hgt
        refine List.pairwise_cons.mpr ⟨?_, ih hrest⟩
        intro x hx
        rcases mem_insertEntry.mp hx with rfl | hx
        · exact hgt
        · exact hhead x hx
      · exact h

/-- Entries with the positions of a node put in. -/
def insertAll (id : NodeId) (given : List UInt64) (entries : List Entry) : List Entry :=
  given.foldl (fun entries p => insertEntry ⟨p, id⟩ entries) entries

/-- Entries with the positions of a node taken out. -/
def eraseAll (id : NodeId) (given : List UInt64) (entries : List Entry) : List Entry :=
  given.foldl (fun entries p => entries.erase ⟨p, id⟩) entries

theorem mem_insertAll {id : NodeId} {given : List UInt64} {entries : List Entry} {x : Entry} :
    x ∈ insertAll id given entries ↔ x ∈ entries ∨ x.owner = id ∧ x.position ∈ given := by
  induction given generalizing entries with
  | nil => simp [insertAll]
  | cons p ps ih =>
      have hx : x = ⟨p, id⟩ ↔ x.owner = id ∧ x.position = p := by
        cases x
        simp [and_comm]
      rw [insertAll, List.foldl_cons, ← insertAll, ih, mem_insertEntry, hx, List.mem_cons]
      tauto

theorem Ascending.insertAll {entries : List Entry} (h : Ascending entries)
    (id : NodeId) (given : List UInt64) : Ascending (insertAll id given entries) := by
  induction given generalizing entries with
  | nil => exact h
  | cons p ps ih => exact ih (h.insertEntry ⟨p, id⟩)

theorem Ascending.erase {entries : List Entry} (h : Ascending entries) (e : Entry) :
    Ascending (entries.erase e) :=
  h.sublist List.erase_sublist

theorem Ascending.eraseAll {entries : List Entry} (h : Ascending entries)
    (id : NodeId) (given : List UInt64) : Ascending (eraseAll id given entries) := by
  induction given generalizing entries with
  | nil => exact h
  | cons p ps ih => exact ih (h.erase ⟨p, id⟩)

/-- A position that is listed twice is taken out once and missed the second time. -/
theorem mem_eraseAll {id : NodeId} {given : List UInt64} {entries : List Entry} {x : Entry}
    (h : Ascending entries) :
    x ∈ eraseAll id given entries ↔ x ∈ entries ∧ ¬(x.owner = id ∧ x.position ∈ given) := by
  induction given generalizing entries with
  | nil => simp [eraseAll]
  | cons p ps ih =>
      have hx : x ≠ ⟨p, id⟩ ↔ ¬(x.owner = id ∧ x.position = p) := by
        cases x
        simp [and_comm]
      rw [eraseAll, List.foldl_cons, ← eraseAll, ih (h.erase _), h.nodup.mem_erase_iff, hx,
        List.mem_cons]
      tauto

/-! ## Looking up a position -/

/-- The least element of a set of entries. -/
def Least (entries : Set Entry) (e : Entry) : Prop :=
  e ∈ entries ∧ ∀ x ∈ entries, x ≠ e → e.Precedes x

/-- The entry that serves a position: the least one at or after it, or the least one
of all when every entry stands before the position. -/
def Serves (entries : Set Entry) (position : UInt64) (e : Entry) : Prop :=
  Least {x ∈ entries | position ≤ x.position} e ∨
    (∀ x ∈ entries, x.position < position) ∧ Least entries e

theorem Ascending.least_head {e : Entry} {rest : List Entry} (h : Ascending (e :: rest)) :
    Least {x | x ∈ e :: rest} e := by
  refine ⟨List.mem_cons_self, ?_⟩
  intro x hx hne
  rcases List.mem_cons.mp hx with rfl | hx
  · exact absurd rfl hne
  · exact (List.pairwise_cons.mp h).1 x hx

/-- The least elements of two sets are the same if each is in the other set. -/
theorem Least.eq_of_mem {entries entries' : Set Entry} {a b : Entry}
    (ha : Least entries a) (hb : Least entries' b)
    (hab : a ∈ entries') (hba : b ∈ entries) : a = b := by
  by_contra hne
  have hlt : a.Precedes b := ha.2 b hba (Ne.symm hne)
  have hgt : b.Precedes a := hb.2 a hab hne
  have haa : a.Precedes a := IsTrans.trans _ _ _ hlt hgt
  exact haa.ne rfl

theorem Serves.mem {entries : Set Entry} {position : UInt64} {e : Entry}
    (h : Serves entries position e) : e ∈ entries := by
  rcases h with h | ⟨-, h⟩
  · exact h.1.1
  · exact h.1

/-- Two sets serve a position by the same entry if each has the entry of the other. -/
theorem Serves.eq_of_mem {entries entries' : Set Entry} {position : UInt64} {a b : Entry}
    (ha : Serves entries position a) (hb : Serves entries' position b)
    (hab : a ∈ entries') (hba : b ∈ entries) : a = b := by
  rcases ha with ha | ⟨hall, ha⟩
  · rcases hb with hb | ⟨hall, -⟩
    · exact ha.eq_of_mem hb ⟨hab, ha.1.2⟩ ⟨hba, hb.1.2⟩
    · exact absurd ha.1.2 (UInt64.not_le.mpr (hall a hab))
  · rcases hb with hb | ⟨-, hb⟩
    · exact absurd hb.1.2 (UInt64.not_le.mpr (hall b hba))
    · exact ha.eq_of_mem hb hab hba

/-- The first entry of an ascending list that is not below a position is the least
such entry. -/
theorem Ascending.find?_least {entries : List Entry} (h : Ascending entries)
    {position : UInt64} {e : Entry}
    (hfind : entries.find? (fun x => position ≤ x.position) = some e) :
    Least {x ∈ {x | x ∈ entries} | position ≤ x.position} e := by
  obtain ⟨hpos, before, after, rfl, hbefore⟩ := List.find?_eq_some_iff_append.mp hfind
  refine ⟨⟨by simp, by simpa using hpos⟩, ?_⟩
  rintro x ⟨hx, hge⟩ hne
  rcases List.mem_append.mp hx with hx | hx
  · exact absurd hge (by simpa using hbefore x hx)
  · have hsuffix : Ascending (e :: after) := h.sublist (List.sublist_append_right before _)
    exact hsuffix.least_head.2 x hx hne

variable {hash : RingHash}

theorem successor?_eq_none_iff {ring : Ring hash} {position : UInt64} :
    ring.successor? position = none ↔ ring.entries = [] := by
  cases hentries : ring.entries with
  | nil => simp [successor?, hentries]
  | cons e rest =>
      cases hfind : (e :: rest).find? (fun x => decide (position ≤ x.position)) with
      | none => simp [successor?, hentries, hfind]
      | some x => simp [successor?, hentries, hfind]

theorem serves_of_successor? {ring : Ring hash} (h : Ascending ring.entries)
    {position : UInt64} {e : Entry} (hsucc : ring.successor? position = some e) :
    Serves {x | x ∈ ring.entries} position e := by
  cases hfind : ring.entries.find? (fun x => decide (position ≤ x.position)) with
  | some x =>
      have heq : x = e := by simpa [successor?, hfind] using hsucc
      exact Or.inl (heq ▸ h.find?_least hfind)
  | none =>
      refine Or.inr ⟨?_, ?_⟩
      · intro x hx
        have hlt := List.find?_eq_none.mp hfind x hx
        simpa using hlt
      · cases hentries : ring.entries with
        | nil => simp [successor?, hentries] at hsucc
        | cons y ys =>
            have heq : y = e := by simpa [successor?, hentries, hentries ▸ hfind] using hsucc
            rw [hentries] at h
            exact heq ▸ h.least_head

/-- A look-up gives exactly the entry that serves the position. -/
theorem successor?_eq_some_iff {ring : Ring hash} (h : Ascending ring.entries)
    {position : UInt64} {e : Entry} :
    ring.successor? position = some e ↔ Serves {x | x ∈ ring.entries} position e := by
  constructor
  · exact serves_of_successor? h
  · intro hserves
    cases hsucc : ring.successor? position with
    | none =>
        have hempty := successor?_eq_none_iff.mp hsucc
        rcases hserves with hleast | ⟨-, hleast⟩
        · simpa [hempty] using hleast.1
        · simpa [hempty] using hleast.1
    | some x =>
        have hx : Serves {x | x ∈ ring.entries} position x := serves_of_successor? h hsucc
        rw [hx.eq_of_mem hserves hx.mem hserves.mem]

end Ring
end CacheTier
