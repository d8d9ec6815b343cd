import CacheTier.Table
import Mathlib.Data.List.Nodup
import Mathlib.Data.List.Sort
import Mathlib.Order.RelClasses

/-!
# Ascending tables

A table is ascending when its keys are in strictly ascending order.  Storing
and erasing keep a table ascending, and each has one law for look-ups.  Two
ascending tables with the same keys list them alike.
-/

namespace CacheTier
namespace Table

variable {κ α : Type}

/-- The keys stand in strictly ascending order. -/
def Ascending [LT κ] (t : Table κ α) : Prop := t.keys.Pairwise (· < ·)

@[simp] theorem ascending_empty [LT κ] : Ascending (empty : Table κ α) :=
  List.Pairwise.nil

theorem length_keys (t : Table κ α) : t.keys.length = t.size := by
  rw [keys, List.length_map, size]

/-! ## Look-ups -/

section Lookup

variable [DecidableEq κ]

@[simp] theorem get?_empty (k : κ) : (empty : Table κ α).get? k = none := rfl

theorem lookup_cons_eq_ite (pair : κ × α) (rest : List (κ × α)) (k : κ) :
    (pair :: rest).lookup k = if k = pair.1 then some pair.2 else rest.lookup k := by
  obtain ⟨key, value⟩ := pair
  by_cases h : k = key
  · simp [h]
  · have hbeq : (k == key) = false := beq_false_of_ne h
    simp [List.lookup_cons, hbeq, h]

/-- Where no two elements share a key, the first with a key is the only one. -/
theorem find?_eq_some_iff_of_nodup_map {f : α → κ} {xs : List α} (h : (xs.map f).Nodup)
    {k : κ} {x : α} : xs.find? (f · == k) = some x ↔ x ∈ xs ∧ f x = k := by
  constructor
  · intro hfind
    exact ⟨List.mem_of_find?_eq_some hfind, by simpa using List.find?_some hfind⟩
  · rintro ⟨hx, hkey⟩
    cases hfind : xs.find? (f · == k) with
    | none =>
        have hnot := List.find?_eq_none.mp hfind x hx
        exact absurd hkey (by simpa using hnot)
    | some y =>
        have hy : f y = k := by simpa using List.find?_some hfind
        have hsame : y = x :=
          List.inj_on_of_nodup_map h (List.mem_of_find?_eq_some hfind) hx (hy.trans hkey.symm)
        rw [hsame]

theorem contains_iff_mem_keys {t : Table κ α} {k : κ} :
    t.contains k = true ↔ k ∈ t.keys := by
  simp [contains, get?, keys]

theorem get?_erase (t : Table κ α) (k k' : κ) :
    (t.erase k).get? k' = if k' = k then none else t.get? k' := by
  obtain ⟨entries⟩ := t
  simp only [erase, get?]
  induction entries with
  | nil => simp
  | cons pair rest ih =>
      by_cases hpair : pair.1 = k
      · rw [List.filter_cons_of_neg (by simp [hpair]), ih, lookup_cons_eq_ite, hpair]
        split_ifs with hk
        · rfl
        · rfl
      · rw [List.filter_cons_of_pos (by simp [hpair]), lookup_cons_eq_ite, ih,
          lookup_cons_eq_ite]
        split_ifs with hk hk'
        · exact absurd (hk.symm.trans hk') hpair
        · rfl
        · rfl
        · rfl

theorem contains_erase_iff {t : Table κ α} {k k' : κ} :
    (t.erase k).contains k' = true ↔ k' ≠ k ∧ t.contains k' = true := by
  rw [contains, get?_erase]
  split_ifs with hk
  · simp [hk]
  · simp [hk, contains]

theorem forall_get?_erase {P : κ → α → Prop} {t : Table κ α}
    (h : ∀ k v, t.get? k = some v → P k v) (k : κ) :
    ∀ k' v, (t.erase k).get? k' = some v → P k' v := by
  intro k' v hget
  rw [get?_erase] at hget
  split_ifs at hget with hk
  exact h k' v hget

/-- What is stored under a key has a property. -/
def Holds (t : Table κ α) (P : α → Prop) (k : κ) : Prop := ∃ v, t.get? k = some v ∧ P v

theorem holds_iff_of_get? {t : Table κ α} {P : α → Prop} {k : κ} {v : α}
    (hget : t.get? k = some v) : t.Holds P k ↔ P v := by
  simp [Holds, hget]

theorem not_holds_of_get?_eq_none {t : Table κ α} {P : α → Prop} {k : κ}
    (hget : t.get? k = none) : ¬ t.Holds P k := by
  simp [Holds, hget]

theorem holds_erase_iff {t : Table κ α} {P : α → Prop} {k k' : κ} :
    (t.erase k).Holds P k' ↔ k' ≠ k ∧ t.Holds P k' := by
  rw [Holds, get?_erase]
  split_ifs with hk
  · simp [hk]
  · simp [hk, Holds]

theorem erase_of_get?_eq_none {t : Table κ α} {k : κ} (hget : t.get? k = none) :
    t.erase k = t := by
  have hentries : t.entries.filter (fun pair => pair.1 != k) = t.entries := by
    rw [List.filter_eq_self]
    intro pair hpair
    have hne : k ≠ pair.1 := by simpa using List.lookup_eq_none_iff.mp hget pair hpair
    simpa using hne.symm
  rw [erase, hentries]

theorem erase_comm (t : Table κ α) (k k' : κ) : (t.erase k).erase k' = (t.erase k').erase k := by
  simp only [erase, List.filter_comm]

theorem keys_erase (t : Table κ α) (k : κ) :
    (t.erase k).keys = t.keys.filter (· != k) := by
  simp [keys, erase, List.filter_map, Function.comp_def]

theorem ascending_erase [LT κ] {t : Table κ α} (h : t.Ascending) (k : κ) :
    (t.erase k).Ascending := by
  rw [Ascending, keys_erase]
  exact h.filter _

end Lookup

/-! ## Storing -/

section Order

variable [LT κ] [DecidableLT κ] [IsStrictTotalOrder κ (· < ·)]

theorem mem_keys_insertPair {k k' : κ} {v : α} {entries : List (κ × α)} :
    k' ∈ (insertPair k v entries).map Prod.fst ↔ k' = k ∨ k' ∈ entries.map Prod.fst := by
  induction entries with
  | nil => simp [insertPair]
  | cons pair rest ih =>
      rw [insertPair]
      split_ifs with hlt hgt
      · simp
      · rw [List.map_cons, List.mem_cons, ih, List.map_cons, List.mem_cons]
        tauto
      · have heq : k = pair.1 := Std.Trichotomous.trichotomous _ _ hlt hgt
        simp [heq]

theorem ascending_insert {t : Table κ α} (h : t.Ascending) (k : κ) (v : α) :
    (t.insert k v).Ascending := by
  obtain ⟨entries⟩ := t
  simp only [Ascending, keys, insert] at h ⊢
  induction entries with
  | nil => simp [insertPair]
  | cons pair rest ih =>
      rw [List.map_cons, List.pairwise_cons] at h
      obtain ⟨hhead, hrest⟩ := h
      rw [insertPair]
      split_ifs with hlt hgt
      · rw [List.map_cons, List.pairwise_cons]
        refine ⟨?_, List.pairwise_cons.mpr ⟨hhead, hrest⟩⟩
        intro x hx
        rcases List.mem_cons.mp hx with rfl | hx
        · exact hlt
        · exact IsTrans.trans _ _ _ hlt (hhead x hx)
      · rw [List.map_cons, List.pairwise_cons]
        refine ⟨?_, ih hrest⟩
        intro x hx
        rcases mem_keys_insertPair.mp hx with rfl | hx
        · exact hgt
        · exact hhead x hx
      · have heq : k = pair.1 := Std.Trichotomous.trichotomous _ _ hlt hgt
        rw [List.map_cons, List.pairwise_cons, heq]
        exact ⟨hhead, hrest⟩

theorem get?_insert [DecidableEq κ] (t : Table κ α) (k k' : κ) (v : α) :
    (t.insert k v).get? k' = if k' = k then some v else t.get? k' := by
  obtain ⟨entries⟩ := t
  simp only [insert, get?]
  induction entries with
  | nil => simp [insertPair, lookup_cons_eq_ite]
  | cons pair rest ih =>
      rw [insertPair]
      by_cases hlt : k < pair.1
      · rw [if_pos hlt, lookup_cons_eq_ite]
      · rw [if_neg hlt]
        by_cases hgt : pair.1 < k
        · rw [if_pos hgt, lookup_cons_eq_ite, ih, lookup_cons_eq_ite]
          split_ifs with hk' hk
          · exact absurd (hk'.symm.trans hk ▸ hgt) (Std.Irrefl.irrefl k)
          · rfl
          · rfl
          · rfl
        · have heq : k = pair.1 := Std.Trichotomous.trichotomous _ _ hlt hgt
          rw [if_neg hgt, lookup_cons_eq_ite, lookup_cons_eq_ite, heq]
          split_ifs with hk
          · rfl
          · rfl

theorem get?_insert_self [DecidableEq κ] (t : Table κ α) (k : κ) (v : α) :
    (t.insert k v).get? k = some v := by
  rw [get?_insert, if_pos rfl]

theorem get?_insert_of_ne [DecidableEq κ] (t : Table κ α) {k k' : κ} (h : k' ≠ k) (v : α) :
    (t.insert k v).get? k' = t.get? k' := by
  rw [get?_insert, if_neg h]

theorem contains_insert_iff [DecidableEq κ] {t : Table κ α} {k k' : κ} {v : α} :
    (t.insert k v).contains k' = true ↔ k' = k ∨ t.contains k' = true := by
  rw [contains, get?_insert]
  split_ifs with hk
  · simp [hk]
  · simp [hk, contains]

theorem holds_insert_iff [DecidableEq κ] {t : Table κ α} {P : α → Prop} {k k' : κ} {v : α} :
    (t.insert k v).Holds P k' ↔ if k' = k then P v else t.Holds P k' := by
  rw [Holds, get?_insert]
  split_ifs
  · simp
  · exact Iff.rfl

/-- Erasing a key does away with what was stored under it. -/
theorem erase_insert [DecidableEq κ] (t : Table κ α) (k : κ) (v : α) :
    (t.insert k v).erase k = t.erase k := by
  obtain ⟨entries⟩ := t
  simp only [insert, erase, Table.mk.injEq]
  induction entries with
  | nil => simp [insertPair]
  | cons pair rest ih =>
      rw [insertPair]
      split_ifs with hlt hgt
      · simp
      · rw [List.filter_cons, ih, List.filter_cons]
      · have heq : k = pair.1 := Std.Trichotomous.trichotomous _ _ hlt hgt
        simp [heq]

theorem forall_get?_insert [DecidableEq κ] {P : κ → α → Prop} {t : Table κ α}
    (h : ∀ k v, t.get? k = some v → P k v) {k : κ} {v : α} (hnew : P k v) :
    ∀ k' v', (t.insert k v).get? k' = some v' → P k' v' := by
  intro k' v' hget
  rw [get?_insert] at hget
  split_ifs at hget with hk
  · rw [hk, ← Option.some.inj hget]
    exact hnew
  · exact h k' v' hget

end Order

/-! ## Ascending tables as maps -/

section Ascending

variable [LT κ] [IsStrictTotalOrder κ (· < ·)]

theorem Ascending.nodup {t : Table κ α} (h : t.Ascending) : t.keys.Nodup := by
  apply List.Pairwise.imp _ h
  rintro a b hlt rfl
  exact Std.Irrefl.irrefl (r := (· < ·)) a hlt

theorem Ascending.nodup_entries {t : Table κ α} (h : t.Ascending) : t.entries.Nodup :=
  List.Nodup.of_map Prod.fst h.nodup

variable [DecidableEq κ]

/-- An ascending table has no second pair that a look-up could miss. -/
theorem Ascending.get?_eq_some_iff {t : Table κ α} (h : t.Ascending) {k : κ} {v : α} :
    t.get? k = some v ↔ (k, v) ∈ t.entries := by
  rw [get?, List.lookup_eq_some_iff]
  constructor
  · rintro ⟨before, after, hsplit, -⟩
    rw [hsplit]
    exact List.mem_append_right before List.mem_cons_self
  · intro hmem
    obtain ⟨before, after, hsplit⟩ := List.append_of_mem hmem
    refine ⟨before, after, hsplit, ?_⟩
    intro pair hpair
    rw [Ascending, keys, hsplit, List.map_append, List.pairwise_append] at h
    have hlt : pair.1 < k :=
      h.2.2 pair.1 (List.mem_map_of_mem hpair) k (by simp)
    have hne : k ≠ pair.1 := by
      rintro rfl
      exact Std.Irrefl.irrefl (r := (· < ·)) pair.1 hlt
    simpa using hne

/-- An ascending table lists those pairs of another that a look-up in it gives. -/
theorem Ascending.entries_eq_filter {t u : Table κ α} (ht : t.Ascending) (hu : u.Ascending)
    {p : κ → Bool} (h : ∀ k, u.get? k = if p k = true then t.get? k else none) :
    u.entries = t.entries.filter fun pair => p pair.1 := by
  have hirrefl : Std.Irrefl fun a b : κ × α => a.1 < b.1 := ⟨fun a => Std.Irrefl.irrefl a.1⟩
  have hantisymm : Std.Antisymm fun a b : κ × α => a.1 < b.1 :=
    ⟨fun a b hab hba => absurd (IsTrans.trans _ _ _ hab hba) (Std.Irrefl.irrefl a.1)⟩
  apply List.Pairwise.eq_of_mem_iff (List.pairwise_map.mp hu) ((List.pairwise_map.mp ht).filter _)
  rintro ⟨k, v⟩
  rw [← hu.get?_eq_some_iff, h, List.mem_filter, ← ht.get?_eq_some_iff]
  split_ifs with hk
  · simp [hk]
  · simp [hk]

/-- Ascending tables with the same look-ups are equal. -/
theorem Ascending.eq_of_get? {t u : Table κ α} (ht : t.Ascending) (hu : u.Ascending)
    (h : ∀ k, u.get? k = t.get? k) : u = t := by
  have hentries := ht.entries_eq_filter hu (p := fun _ => true) fun k => by rw [h, if_pos rfl]
  rw [List.filter_true] at hentries
  cases t
  cases u
  simpa using hentries

/-- The pairs of a table are one of them and those without its key. -/
theorem Ascending.perm_erase {t : Table κ α} (h : t.Ascending) {k : κ} {v : α}
    (hget : t.get? k = some v) : t.entries.Perm ((k, v) :: (t.erase k).entries) := by
  have herase := ascending_erase h k
  have hnew : (k, v) ∉ (t.erase k).entries := by
    rw [← herase.get?_eq_some_iff, get?_erase, if_pos rfl]
    simp
  rw [List.perm_ext_iff_of_nodup h.nodup_entries
    (List.nodup_cons.mpr ⟨hnew, herase.nodup_entries⟩)]
  rintro ⟨k', v'⟩
  rw [List.mem_cons, ← h.get?_eq_some_iff, ← herase.get?_eq_some_iff, get?_erase]
  split_ifs with hk
  · simp [hk, hget, eq_comm]
  · simp [hk]

/-- Storing a pair puts it beside the pairs without its key. -/
theorem Ascending.perm_insert [DecidableLT κ] {t : Table κ α} (h : t.Ascending) (k : κ) (v : α) :
    (t.insert k v).entries.Perm ((k, v) :: (t.erase k).entries) := by
  have hget : (t.insert k v).get? k = some v := get?_insert_self t k v
  rw [← erase_insert t k v]
  exact (ascending_insert h k v).perm_erase hget

/-- Storing what is stored already changes nothing. -/
theorem Ascending.insert_of_get? [DecidableLT κ] {t : Table κ α} (h : t.Ascending) {k : κ} {v : α}
    (hget : t.get? k = some v) : t.insert k v = t := by
  rw [h.get?_eq_some_iff] at hget
  obtain ⟨entries⟩ := t
  simp only [Ascending, keys, insert, Table.mk.injEq] at h hget ⊢
  induction entries with
  | nil => simp at hget
  | cons pair rest ih =>
      obtain ⟨hhead, hrest⟩ := List.pairwise_cons.mp h
      have hbehind : (k, v) ∈ rest → pair.1 < k := fun hin =>
        hhead k (List.mem_map_of_mem (f := Prod.fst) hin)
      rw [insertPair]
      rcases List.mem_cons.mp hget with rfl | hin
      · rw [if_neg (Std.Irrefl.irrefl k), if_neg (Std.Irrefl.irrefl k)]
      · have hlt := hbehind hin
        have hnot : ¬k < pair.1 := fun hgt =>
          Std.Irrefl.irrefl (r := (· < ·)) k (IsTrans.trans _ _ _ hgt hlt)
        rw [if_neg hnot, if_pos hlt, ih hrest hin]

/-- Two ascending tables with the same keys list them alike. -/
theorem keys_eq_of_contains_iff
    {β : Type} {t : Table κ α} {u : Table κ β}
    (ht : t.Ascending) (hu : u.Ascending)
    (h : ∀ k, t.contains k = true ↔ u.contains k = true) : t.keys = u.keys := by
  apply List.Pairwise.eq_of_mem_iff ht hu
  intro k
  rw [← contains_iff_mem_keys, ← contains_iff_mem_keys]
  exact h k

theorem keys_insert_of_contains [DecidableLT κ] {t : Table κ α} (h : t.Ascending)
    {k : κ} (hk : t.contains k = true) (v : α) : (t.insert k v).keys = t.keys := by
  apply keys_eq_of_contains_iff (ascending_insert h k v) h
  intro k'
  rw [contains, get?_insert]
  split_ifs with heq
  · simp [heq, hk]
  · exact Iff.rfl

end Ascending

end Table
end CacheTier
