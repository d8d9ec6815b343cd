import CacheTier.Cache.Policy.Lfu
import CacheTier.Proofs.Cache.KeyIndex

/-!
# Frequency buckets

The least frequently used policy keeps the nodes of equal frequency in one bucket, the
latest placed first, and drops a bucket that becomes empty.  All buckets share an
arena.  Entering a bucket and leaving it change the nodes of one frequency alone.
-/

namespace CacheTier
namespace Lfu

/-! ## Shelves -/

section Shelves

variable {α : Type}

/-- Puts an element in front of those of a frequency. -/
def place (shelf : Nat → List α) (f : Nat) (x : α) (g : Nat) : List α :=
  if g = f then x :: shelf g else shelf g

/-- Takes an element away, whatever its frequency. -/
def without [DecidableEq α] (shelf : Nat → List α) (x : α) (g : Nat) : List α :=
  (shelf g).erase x

theorem mem_place_iff {shelf : Nat → List α} {f g : Nat} {x y : α} :
    y ∈ place shelf f x g ↔ g = f ∧ y = x ∨ y ∈ shelf g := by
  rw [place]
  split_ifs with hg
  · simp [hg]
  · simp [hg]

theorem exists_mem_place_iff {shelf : Nat → List α} {f : Nat} {x y : α} :
    (∃ g, y ∈ place shelf f x g) ↔ y = x ∨ ∃ g, y ∈ shelf g := by
  simp only [mem_place_iff, exists_or, exists_eq_left]

theorem place_ne_nil_iff {shelf : Nat → List α} {f g : Nat} {x : α} :
    place shelf f x g ≠ [] ↔ g = f ∨ shelf g ≠ [] := by
  rw [place]
  split_ifs with hg
  · simp [hg]
  · simp [hg]

theorem map_place {β : Type} (h : α → β) (shelf : Nat → List α) (f : Nat) (x : α) (g : Nat) :
    (place shelf f x g).map h = place (fun g => (shelf g).map h) f (h x) g := by
  rw [place, place]
  split_ifs
  · rfl
  · rfl

end Shelves

variable {arena : Arena} {buckets : Table Nat ArenaList} {nodes : Nat → List Nat}
  {lfu : Lfu} {i f : Nat} {key : String}

/-! ## Buckets of nodes -/

/-- The nodes of each frequency are those of its bucket, and there is a bucket exactly
where there are nodes. -/
structure Filed (arena : Arena) (buckets : Table Nat ArenaList) (nodes : Nat → List Nat) :
    Prop where
  wellFormed : arena.WellFormed
  ascending : buckets.Ascending
  lists : ∀ f bucket, buckets.get? f = some bucket → arena.Lists bucket (nodes f)
  isSome_iff : ∀ f, (buckets.get? f).isSome = true ↔ nodes f ≠ []
  inUse : ∀ f, ∀ i ∈ nodes f, arena.InUse i
  frequency : ∀ f, ∀ i ∈ nodes f, arena.frequency i = f

namespace Filed

theorem eq_of_mem (h : Filed arena buckets nodes) {g : Nat} (hf : i ∈ nodes f)
    (hg : i ∈ nodes g) : f = g :=
  (h.frequency f i hf).symm.trans (h.frequency g i hg)

/-- A bucket that is not there stands for no nodes. -/
theorem lists_getD (h : Filed arena buckets nodes) (f : Nat) :
    arena.Lists ((buckets.get? f).getD .empty) (nodes f) := by
  cases hget : buckets.get? f with
  | none =>
      have hnone : nodes f = [] := by
        by_contra hne
        simpa [hget] using (h.isSome_iff f).mpr hne
      rw [hnone]
      exact Arena.lists_empty arena
  | some bucket => exact h.lists f bucket hget

theorem nodup (h : Filed arena buckets nodes) (f : Nat) : (nodes f).Nodup :=
  (h.lists_getD f).nodup

theorem mem_keys_iff (h : Filed arena buckets nodes) : f ∈ buckets.keys ↔ nodes f ≠ [] := by
  rw [← Table.contains_iff_mem_keys, ← h.isSome_iff]
  exact Iff.rfl

theorem mem_without_iff (h : Filed arena buckets nodes) {j : Nat} :
    j ∈ without nodes i f ↔ j ≠ i ∧ j ∈ nodes f :=
  (h.nodup f).mem_erase_iff

/-- Nothing changes for nodes whose slots stay as they are. -/
theorem congr (h : Filed arena buckets nodes) {other : Arena} (hother : other.WellFormed)
    (hsize : arena.slots.size ≤ other.slots.size)
    (hslots : ∀ f, ∀ i ∈ nodes f, other.slot i = arena.slot i ∧ other.InUse i) :
    Filed other buckets nodes where
  wellFormed := hother
  ascending := h.ascending
  lists := by
    intro f bucket hget
    apply (h.lists f bucket hget).congr hsize
    intro i hi
    rw [(hslots f i hi).1]
    exact ⟨rfl, rfl⟩
  isSome_iff := h.isSome_iff
  inUse f i hi := (hslots f i hi).2
  frequency := by
    intro f i hi
    rw [Arena.frequency, (hslots f i hi).1]
    exact h.frequency f i hi

/-- The nodes of one frequency are replaced, and the bucket goes if there are none. -/
theorem replace (h : Filed arena buckets nodes) {other : Arena} {table : Table Nat ArenaList}
    {replaced : Nat → List Nat} {bucket : ArenaList}
    (hother : arena.Relinked other) (hascending : table.Ascending)
    (hget : ∀ g, table.get? g =
      if g = f then if replaced f = [] then none else some bucket else buckets.get? g)
    (hbucket : other.Lists bucket (replaced f))
    (hnodes : ∀ i ∈ replaced f, arena.InUse i ∧ arena.frequency i = f)
    (hrest : ∀ g ≠ f, replaced g = nodes g)
    (hlists : ∀ g ≠ f, ∀ list, arena.Lists list (nodes g) → other.Lists list (nodes g)) :
    Filed other table replaced := by
  refine ⟨hother.wellFormed h.wellFormed, hascending, ?_, ?_, ?_, ?_⟩
  · intro g list hlist
    rw [hget] at hlist
    by_cases hg : g = f
    · subst hg
      rw [if_pos rfl] at hlist
      split_ifs at hlist
      exact Option.some.inj hlist ▸ hbucket
    · rw [if_neg hg] at hlist
      rw [hrest g hg]
      exact hlists g hg list (h.lists g list hlist)
  · intro g
    rw [hget]
    by_cases hg : g = f
    · subst hg
      by_cases hempty : replaced g = []
      · simp [hempty]
      · simp [hempty]
    · rw [if_neg hg, hrest g hg]
      exact h.isSome_iff g
  · intro g i hi
    rw [hother.inUse_iff]
    by_cases hg : g = f
    · subst hg
      exact (hnodes i hi).1
    · exact h.inUse g i (hrest g hg ▸ hi)
  · intro g i hi
    rw [hother.frequency]
    by_cases hg : g = f
    · subst hg
      exact (hnodes i hi).2
    · exact h.frequency g i (hrest g hg ▸ hi)

/-- A node that is in no bucket enters that of its frequency. -/
theorem enter (h : Filed lfu.arena lfu.buckets nodes) (hi : lfu.arena.InUse i)
    (hf : lfu.arena.frequency i = f) (hnew : ∀ g, i ∉ nodes g) :
    Filed (lfu.enter i f).arena (lfu.enter i f).buckets (place nodes f i) ∧
      lfu.arena.Relinked (lfu.enter i f).arena := by
  have hrelinked := Arena.relinked_pushFront lfu.arena ((lfu.buckets.get? f).getD .empty) i
  have hplaced : place nodes f i f = i :: nodes f := if_pos rfl
  have hlists := (h.lists_getD f).pushFront hi.1 (hnew f)
  rw [← hplaced] at hlists
  refine ⟨h.replace hrelinked (Table.ascending_insert h.ascending f _) ?_ hlists ?_ ?_ ?_,
    hrelinked⟩
  · intro g
    rw [hplaced, if_neg (List.cons_ne_nil i _)]
    exact Table.get?_insert lfu.buckets f g _
  · intro j hj
    rw [hplaced] at hj
    rcases List.mem_cons.mp hj with rfl | hj
    · exact ⟨hi, hf⟩
    · exact ⟨h.inUse f j hj, h.frequency f j hj⟩
  · exact fun g hg => if_neg hg
  · intro g hg list hlist
    apply hlist.of_pushFront (h.lists_getD f) (hnew g)
    intro j hj hjf
    exact hg (h.eq_of_mem hj hjf)

/-- A node leaves its bucket. -/
theorem leave (h : Filed lfu.arena lfu.buckets nodes) (hi : i ∈ nodes f) :
    Filed (lfu.leave i).1.arena (lfu.leave i).1.buckets (without nodes i) ∧
      lfu.arena.Relinked (lfu.leave i).1.arena ∧
      (lfu.leave i).2 = decide (without nodes i f = []) := by
  obtain ⟨bucket, hbucket⟩ : ∃ bucket, lfu.buckets.get? f = some bucket :=
    Option.isSome_iff_exists.mp ((h.isSome_iff f).mpr (List.ne_nil_of_mem hi))
  have hrelinked := Arena.relinked_unlink lfu.arena bucket i
  have hlists : (lfu.arena.unlink bucket i).1.Lists (lfu.arena.unlink bucket i).2
      (without nodes i f) := (h.lists f bucket hbucket).unlink hi
  have hnodes : ∀ j ∈ without nodes i f, lfu.arena.InUse j ∧ lfu.arena.frequency j = f := by
    intro j hj
    obtain ⟨-, hj⟩ := h.mem_without_iff.mp hj
    exact ⟨h.inUse f j hj, h.frequency f j hj⟩
  have hrest : ∀ g ≠ f, without nodes i g = nodes g := fun g hg =>
    List.erase_of_not_mem fun hmem => hg (h.eq_of_mem hmem hi)
  have hothers : ∀ g ≠ f, ∀ list, lfu.arena.Lists list (nodes g) →
      (lfu.arena.unlink bucket i).1.Lists list (nodes g) := by
    intro g hg list hlist
    apply hlist.of_unlink (h.lists f bucket hbucket) hi
    intro j hj hjf
    exact hg (h.eq_of_mem hj hjf)
  simp only [Lfu.leave, h.frequency f i hi, hbucket]
  by_cases hempty : without nodes i f = []
  · rw [if_pos (hlists.isEmpty_iff.mpr hempty)]
    refine ⟨h.replace hrelinked (Table.ascending_erase h.ascending f) ?_ hlists hnodes hrest
      hothers, hrelinked, by simp [hempty]⟩
    intro g
    rw [if_pos hempty]
    exact Table.get?_erase lfu.buckets f g
  · rw [if_neg (mt hlists.isEmpty_iff.mp hempty)]
    refine ⟨h.replace hrelinked (Table.ascending_insert h.ascending f _) ?_ hlists hnodes hrest
      hothers, hrelinked, by simp [hempty]⟩
    intro g
    rw [if_neg hempty]
    exact Table.get?_insert lfu.buckets f g _

end Filed

@[simp] theorem index_leave (lfu : Lfu) (i : Nat) : (lfu.leave i).1.index = lfu.index := by
  rw [leave]
  split
  · rfl
  · dsimp only
    split_ifs
    · rfl
    · rfl

@[simp] theorem lowest_leave (lfu : Lfu) (i : Nat) : (lfu.leave i).1.lowest = lfu.lowest := by
  rw [leave]
  split
  · rfl
  · dsimp only
    split_ifs
    · rfl
    · rfl

/-! ## Tracked nodes -/

/-- The filed nodes are those in use, and the index is theirs. -/
structure Arranged (lfu : Lfu) (nodes : Nat → List Nat) : Prop where
  filed : Filed lfu.arena lfu.buckets nodes
  inUse_iff : ∀ i, lfu.arena.InUse i ↔ ∃ f, i ∈ nodes f
  indexed : lfu.arena.Indexed lfu.index fun i => ∃ f, i ∈ nodes f

theorem arranged_empty : empty.Arranged fun _ => [] where
  filed :=
    { wellFormed := Arena.wellFormed_empty
      ascending := Table.ascending_empty
      lists := by simp [empty]
      isSome_iff := by simp [empty]
      inUse := by simp
      frequency := by simp }
  inUse_iff := by simp [Arena.InUse, empty, Arena.empty]
  indexed := ⟨Table.ascending_empty, by simp [empty]⟩

/-- A node of the index is filed under its frequency. -/
theorem Arranged.get?_eq_some_iff (h : lfu.Arranged nodes) :
    lfu.index.get? key = some i ↔ i ∈ nodes (lfu.arena.frequency i) ∧ lfu.arena.key i = key := by
  rw [h.indexed.get?_iff]
  refine and_congr_left' ⟨?_, fun hi => ⟨_, hi⟩⟩
  rintro ⟨f, hi⟩
  rwa [h.filed.frequency f i hi]

/-- Takes a node to another frequency. -/
def refile (lfu : Lfu) (i f : Nat) : Lfu :=
  let left := (lfu.leave i).1
  { left with arena := left.arena.setFrequency i f }.enter i f

/-- Takes the node of a key out. -/
def drop (lfu : Lfu) (i : Nat) (key : String) : Lfu :=
  let left := (lfu.leave i).1
  { left with arena := (left.arena.release i).1, index := lfu.index.erase key }

theorem Arranged.refile (h : lfu.Arranged nodes) (hi : i ∈ nodes f) (g : Nat) :
    (lfu.refile i g).Arranged (place (without nodes i) g i) ∧
      ∀ j, (lfu.refile i g).arena.key j = lfu.arena.key j := by
  obtain ⟨hleft, hrelinked, -⟩ := h.filed.leave hi
  -- the node between its two buckets
  obtain ⟨free, hfree⟩ : ∃ free : Lfu, free = { (lfu.leave i).1 with
      arena := (lfu.leave i).1.arena.setFrequency i g } := ⟨_, rfl⟩
  have hnew : ∀ f, i ∉ without nodes i f := fun f hmem => (h.filed.mem_without_iff.mp hmem).1 rfl
  have hinUse : ∀ j, free.arena.InUse j ↔ lfu.arena.InUse j := by
    intro j
    rw [hfree, Arena.inUse_setFrequency_iff, hrelinked.inUse_iff]
  have hfiled : Filed free.arena free.buckets (without nodes i) := by
    rw [hfree]
    refine hleft.congr (hleft.wellFormed.setFrequency i g) ?_ ?_
    · simp [Arena.setFrequency]
    · intro f' j hj
      have hne : j ≠ i := (h.filed.mem_without_iff.mp hj).1
      rw [Arena.inUse_setFrequency_iff]
      exact ⟨Arena.slot_setFrequency_of_ne hne _ g, hleft.inUse f' j hj⟩
  have hfrequency : free.arena.frequency i = g := by
    rw [hfree]
    apply Arena.frequency_setFrequency
    rw [hrelinked.size]
    exact (h.filed.inUse f i hi).1
  obtain ⟨hplaced, hentered⟩ :=
    hfiled.enter ((hinUse i).mpr (h.filed.inUse f i hi)) hfrequency hnew
  have hrefile : lfu.refile i g = free.enter i g := by
    rw [hfree]
    rfl
  have hkeys : ∀ j, (lfu.refile i g).arena.key j = lfu.arena.key j := by
    intro j
    rw [hrefile, hentered.key, hfree, Arena.key_setFrequency, hrelinked.key]
  have hmem : ∀ j, (∃ f, j ∈ place (without nodes i) g i f) ↔ ∃ f, j ∈ nodes f := by
    intro j
    rw [exists_mem_place_iff]
    by_cases hj : j = i
    · exact iff_of_true (Or.inl hj) ⟨f, hj ▸ hi⟩
    · simp [h.filed.mem_without_iff, hj]
  refine ⟨⟨hrefile ▸ hplaced, ?_, ?_⟩, hkeys⟩
  · intro j
    rw [hrefile, hentered.inUse_iff, hinUse, hmem, h.inUse_iff]
  · have hindex : (lfu.refile i g).index = lfu.index := index_leave lfu i
    rw [hindex]
    exact h.indexed.congr hmem (fun j _ => hkeys j)

/-- A new key gets a node of its own in the lowest bucket. -/
theorem Arranged.insert_new (h : lfu.Arranged nodes) (hnone : lfu.index.get? key = none) :
    let i := (lfu.arena.alloc key 0).2
    (lfu.insert key).Arranged (place nodes 0 i) ∧ (lfu.insert key).arena.key i = key ∧
      ∀ f, ∀ j ∈ nodes f, (lfu.insert key).arena.key j = lfu.arena.key j := by
  intro i
  have hfresh := fun j => h.filed.wellFormed.inUse_alloc_iff (j := j) key 0
  obtain ⟨fresh, hdef⟩ : ∃ fresh : Lfu, fresh =
      { lfu with arena := (lfu.arena.alloc key 0).1 } := ⟨_, rfl⟩
  have hnew : ∀ f, i ∉ nodes f := fun f hmem => (hfresh i).1 (h.filed.inUse f i hmem)
  have hfiled : Filed fresh.arena fresh.buckets nodes := by
    rw [hdef]
    refine h.filed.congr (h.filed.wellFormed.alloc key 0) (Arena.size_le_alloc _ key 0) ?_
    intro f j hj
    have hinUse := h.filed.inUse f j hj
    exact ⟨Arena.slot_alloc key 0 hinUse, (hfresh j).2.mpr (Or.inr hinUse)⟩
  have hslot : fresh.arena.slot i = ⟨key, 0, none, none⟩ := by
    rw [hdef]
    exact Arena.slot_alloc_self h.filed.wellFormed key 0
  have hinUse : fresh.arena.InUse i := by
    rw [hdef]
    exact (hfresh i).2.mpr (Or.inl rfl)
  have hfrequency : fresh.arena.frequency i = 0 := congrArg Slot.frequency hslot
  obtain ⟨hplaced, hentered⟩ := hfiled.enter hinUse hfrequency hnew
  have hinsert : lfu.insert key =
      { fresh.enter i 0 with index := lfu.index.insert key i, lowest := 0 } := by
    rw [Lfu.insert, hnone, hdef]
    rfl
  have hnode : (fresh.enter i 0).arena.key i = key := by
    rw [hentered.key]
    exact congrArg Slot.key hslot
  have hkeys : ∀ f, ∀ j ∈ nodes f, (fresh.enter i 0).arena.key j = lfu.arena.key j := by
    intro f j hj
    rw [hentered.key, hdef, Arena.key, Arena.slot_alloc key 0 (h.filed.inUse f j hj), Arena.key]
  rw [hinsert]
  refine ⟨⟨hplaced, ?_, ?_⟩, hnode, hkeys⟩
  · intro j
    rw [hentered.inUse_iff, hdef, (hfresh j).2, h.inUse_iff, exists_mem_place_iff]
  · refine h.indexed.insert hnone hnode ?_ (fun j => exists_mem_place_iff)
    rintro j ⟨f, hj⟩
    exact hkeys f j hj

/-- The node of a key goes out, and its slot is free. -/
theorem Arranged.drop (h : lfu.Arranged nodes) (hget : lfu.index.get? key = some i) :
    (lfu.drop i key).Arranged (without nodes i) ∧
      ∀ f, ∀ j ∈ without nodes i f, (lfu.drop i key).arena.key j = lfu.arena.key j := by
  obtain ⟨⟨f, hi⟩, -⟩ := (h.indexed.get?_iff key i).mp hget
  obtain ⟨hleft, hrelinked, -⟩ := h.filed.leave hi
  have hinUse : (lfu.leave i).1.arena.InUse i := hrelinked.inUse_iff.mpr (h.filed.inUse f i hi)
  have hkeys : ∀ j ≠ i, (lfu.drop i key).arena.key j = lfu.arena.key j := by
    intro j hj
    rw [Lfu.drop, Arena.key, Arena.slot_release hj]
    exact hrelinked.key j
  have hmem : ∀ j, (∃ f, j ∈ without nodes i f) ↔ j ≠ i ∧ ∃ f, j ∈ nodes f := by
    intro j
    simp only [h.filed.mem_without_iff, exists_and_left]
  refine ⟨⟨?_, ?_, ?_⟩, ?_⟩
  · refine hleft.congr (hleft.wellFormed.release hinUse)
      (Nat.le_of_eq (Arena.size_release _ i).symm) ?_
    intro f' j hj
    have hne : j ≠ i := (h.filed.mem_without_iff.mp hj).1
    exact ⟨Arena.slot_release hne, Arena.inUse_release_iff.mpr ⟨hne, hleft.inUse f' j hj⟩⟩
  · intro j
    rw [Lfu.drop, Arena.inUse_release_iff, hrelinked.inUse_iff, h.inUse_iff, hmem]
  · exact h.indexed.erase hget (fun j _ hj => hkeys j hj) hmem
  · intro f' j hj
    exact hkeys j (h.filed.mem_without_iff.mp hj).1

end Lfu
end CacheTier
