import CacheTier.Proofs.Cache.Arena
import Mathlib.Data.Fintype.Basic
import Mathlib.Data.Set.Card

/-!
# Lists that share an arena

Any number of lists are threaded through one arena.  Beside them stand the same lists kept
plainly, a list of nodes for every name, and for every node that was handed out and not given
back its key and its frequency.  A node may be given back or linked while it is on no list, and
may be unlinked from the list that it is on.  As long as every call is made so, arena and plain
lists agree: the links of each list lead through its nodes in both directions, no list touches
the nodes of another one, and a slot is free unless its node was handed out.
-/

namespace CacheTier

variable {ι : Type}

/-! ## Calls -/

/-- A call on an arena or on a list in it.  An allocation comes with the node that it returned. -/
inductive ArenaCall (ι : Type) where
  | alloc (i : Nat) (key : String) (frequency : Nat)
  | release (i : Nat)
  | pushFront (name : ι) (i : Nat)
  | unlink (name : ι) (i : Nat)
  deriving DecidableEq, Repr

/-- The list that a call is made on. -/
def ArenaCall.list? : ArenaCall ι → Option ι
  | alloc .. => none
  | release _ => none
  | pushFront name _ => some name
  | unlink name _ => some name

/-- An arena and the lists in it, by name. -/
structure SharedArena (ι : Type) where
  arena : Arena
  lists : ι → ArenaList

namespace SharedArena

/-- The arena without slots, where every list is empty. -/
def empty : SharedArena ι := ⟨.empty, fun _ => .empty⟩

variable [DecidableEq ι]

/-- Takes what an operation on a list made of the arena and of the list. -/
def update (shared : SharedArena ι) (name : ι) (result : Arena × ArenaList) : SharedArena ι :=
  ⟨result.1, Function.update shared.lists name result.2⟩

def call (shared : SharedArena ι) : ArenaCall ι → SharedArena ι
  | .alloc _ key frequency => { shared with arena := (shared.arena.alloc key frequency).1 }
  | .release i => { shared with arena := (shared.arena.release i).1 }
  | .pushFront name i => shared.update name (shared.arena.pushFront (shared.lists name) i)
  | .unlink name i => shared.update name (shared.arena.unlink (shared.lists name) i)

/-- The arena and its lists after a sequence of calls. -/
def run (shared : SharedArena ι) (calls : List (ArenaCall ι)) : SharedArena ι :=
  calls.foldl call shared

end SharedArena

/-- The key and the frequency of every node handed out, and the nodes of every list from head
to tail. -/
structure PlainLists (ι : Type) where
  labels : Nat → Option (String × Nat)
  nodes : ι → List Nat

namespace PlainLists

def empty : PlainLists ι := ⟨fun _ => none, fun _ => []⟩

/-- The keys of a list from head to tail. -/
def keys (plain : PlainLists ι) (name : ι) : List String :=
  (plain.nodes name).filterMap fun i => (plain.labels i).map Prod.fst

/-- Whether a node was handed out and is on no list. -/
def Loose (plain : PlainLists ι) (i : Nat) : Prop :=
  (plain.labels i).isSome = true ∧ ∀ name, i ∉ plain.nodes name

variable [DecidableEq ι]

def call (plain : PlainLists ι) : ArenaCall ι → PlainLists ι
  | .alloc i key frequency =>
    { plain with labels := Function.update plain.labels i (some (key, frequency)) }
  | .release i => { plain with labels := Function.update plain.labels i none }
  | .pushFront name i =>
    { plain with nodes := Function.update plain.nodes name (i :: plain.nodes name) }
  | .unlink name i =>
    { plain with nodes := Function.update plain.nodes name ((plain.nodes name).erase i) }

/-- The plain lists after a sequence of calls. -/
def run (plain : PlainLists ι) (calls : List (ArenaCall ι)) : PlainLists ι :=
  calls.foldl call plain

theorem nodes_call {call : ArenaCall ι} {name : ι} (h : call.list? ≠ some name)
    (plain : PlainLists ι) : (plain.call call).nodes name = plain.nodes name := by
  cases call with
  | alloc i key frequency => rfl
  | release i => rfl
  | pushFront other i => exact Function.update_of_ne (fun heq => h (congrArg some heq.symm)) _ _
  | unlink other i => exact Function.update_of_ne (fun heq => h (congrArg some heq.symm)) _ _

end PlainLists

namespace SharedArena

/-- Whether a call may be made: an allocation returns the node that the arena hands out, a node
on no list is given back or linked, and a node is unlinked from the list that it is on. -/
def Permits (shared : SharedArena ι) (plain : PlainLists ι) : ArenaCall ι → Prop
  | .alloc i key frequency => i = (shared.arena.alloc key frequency).2
  | .release i => plain.Loose i
  | .pushFront _ i => plain.Loose i
  | .unlink name i => i ∈ plain.nodes name

/-- Whether every call of a sequence may be made when its turn comes. -/
def PermitsAll [DecidableEq ι] (shared : SharedArena ι) (plain : PlainLists ι) :
    List (ArenaCall ι) → Prop
  | [] => True
  | first :: rest =>
    shared.Permits plain first ∧ (shared.call first).PermitsAll (plain.call first) rest

section Decidable

variable [Fintype ι] [DecidableEq ι]

instance (plain : PlainLists ι) (i : Nat) : Decidable (plain.Loose i) :=
  inferInstanceAs (Decidable (_ ∧ _))

instance (shared : SharedArena ι) (plain : PlainLists ι) :
    (call : ArenaCall ι) → Decidable (shared.Permits plain call)
  | .alloc i key frequency => inferInstanceAs (Decidable (i = (shared.arena.alloc key frequency).2))
  | .release i => inferInstanceAs (Decidable (plain.Loose i))
  | .pushFront _ i => inferInstanceAs (Decidable (plain.Loose i))
  | .unlink name i => inferInstanceAs (Decidable (i ∈ plain.nodes name))

instance decidablePermitsAll : (shared : SharedArena ι) → (plain : PlainLists ι) →
    (calls : List (ArenaCall ι)) → Decidable (shared.PermitsAll plain calls)
  | _, _, [] => isTrue trivial
  | shared, plain, first :: rest =>
    have := decidablePermitsAll (shared.call first) (plain.call first) rest
    inferInstanceAs (Decidable (_ ∧ _))

end Decidable

/-! ## Agreement -/

variable {shared : SharedArena ι} {plain : PlainLists ι} {i j : Nat} {name : ι}

/-- The nodes handed out are those in use, with their keys and frequencies, and each list has
the nodes of the plain one, no two lists the same. -/
structure Matches (shared : SharedArena ι) (plain : PlainLists ι) : Prop where
  wellFormed : shared.arena.WellFormed
  labels_iff : ∀ i label, plain.labels i = some label ↔
    shared.arena.InUse i ∧ (shared.arena.key i, shared.arena.frequency i) = label
  lists : ∀ name, shared.arena.Lists (shared.lists name) (plain.nodes name)
  inUse : ∀ name, ∀ i ∈ plain.nodes name, shared.arena.InUse i
  disjoint : ∀ name other i, i ∈ plain.nodes name → i ∈ plain.nodes other → name = other

theorem matches_empty : (empty : SharedArena ι).Matches .empty where
  wellFormed := Arena.wellFormed_empty
  labels_iff := by simp [PlainLists.empty, empty, Arena.InUse, Arena.empty]
  lists _ := Arena.lists_empty .empty
  inUse := by simp [PlainLists.empty]
  disjoint := by simp [PlainLists.empty]

namespace Matches

theorem isSome_labels_iff (h : shared.Matches plain) :
    (plain.labels i).isSome = true ↔ shared.arena.InUse i := by
  simp [Option.isSome_iff_exists, h.labels_iff]

theorem labels_eq_none_iff (h : shared.Matches plain) :
    plain.labels i = none ↔ ¬ shared.arena.InUse i := by
  rw [← h.isSome_labels_iff, Option.not_isSome_iff_eq_none]

theorem keys_eq (h : shared.Matches plain) (name : ι) :
    shared.arena.keys (shared.lists name) = plain.keys name := by
  rw [(h.lists name).keys_eq, PlainLists.keys, ← List.filterMap_eq_map]
  apply List.filterMap_congr
  intro i hi
  have hlabel := (h.labels_iff i _).mpr ⟨h.inUse name i hi, rfl⟩
  rw [hlabel]
  rfl

theorem not_mem_of_ne (h : shared.Matches plain) {other : ι} (hne : other ≠ name)
    (hj : j ∈ plain.nodes other) : j ∉ plain.nodes name :=
  fun hmem => hne (h.disjoint other name j hj hmem)

/-- Labels are told by the slots in use alone. -/
theorem labels_iff_of_slot (h : shared.Matches plain) {arena : Arena}
    (hinUse : arena.InUse j ↔ shared.arena.InUse j)
    (hslot : shared.arena.InUse j → arena.key j = shared.arena.key j ∧
      arena.frequency j = shared.arena.frequency j) (label : String × Nat) :
    plain.labels j = some label ↔
      arena.InUse j ∧ (arena.key j, arena.frequency j) = label := by
  rw [h.labels_iff, hinUse]
  refine and_congr_right fun hj => ?_
  rw [(hslot hj).1, (hslot hj).2]

variable [DecidableEq ι]

/-! ### Taking and freeing slots -/

theorem alloc (h : shared.Matches plain) (key : String) (frequency : Nat) :
    let call : ArenaCall ι := .alloc (shared.arena.alloc key frequency).2 key frequency
    (shared.call call).Matches (plain.call call) := by
  intro call
  have hfresh := fun j => h.wellFormed.inUse_alloc_iff (j := j) key frequency
  refine ⟨h.wellFormed.alloc key frequency, ?_, ?_, ?_, h.disjoint⟩
  · intro j label
    simp only [call, PlainLists.call, SharedArena.call, Function.update_apply]
    split_ifs with hj
    · subst hj
      rw [Arena.key, Arena.frequency, Arena.slot_alloc_self h.wellFormed, Option.some_inj]
      exact (and_iff_right ((hfresh _).2.mpr (Or.inl rfl))).symm
    · apply h.labels_iff_of_slot
      · rw [(hfresh j).2, or_iff_right hj]
      · intro hin
        rw [Arena.key, Arena.frequency, Arena.slot_alloc key frequency hin]
        exact ⟨rfl, rfl⟩
  · exact fun name => (h.lists name).alloc (h.inUse name) key frequency
  · exact fun name j hj => (hfresh j).2.mpr (Or.inr (h.inUse name j hj))

theorem release (h : shared.Matches plain) (hi : plain.Loose i) :
    (shared.call (.release i)).Matches (plain.call (.release i)) := by
  have hne : ∀ name, ∀ j ∈ plain.nodes name, j ≠ i := by
    rintro name j hj rfl
    exact hi.2 name hj
  refine ⟨h.wellFormed.release (h.isSome_labels_iff.mp hi.1), ?_, ?_, ?_, h.disjoint⟩
  · intro j label
    simp only [PlainLists.call, SharedArena.call, Function.update_apply]
    split_ifs with hj
    · subst hj
      simp [Arena.inUse_release_iff]
    · apply h.labels_iff_of_slot
      · rw [Arena.inUse_release_iff, and_iff_right hj]
      · intro _
        rw [Arena.key, Arena.frequency, Arena.slot_release hj]
        exact ⟨rfl, rfl⟩
  · exact fun name => (h.lists name).release (hi.2 name)
  · exact fun name j hj => Arena.inUse_release_iff.mpr ⟨hne name j hj, h.inUse name j hj⟩

/-! ### Linking and unlinking -/

/-- The nodes of one list are replaced, and every other list stays as it is. -/
theorem update (h : shared.Matches plain) {result : Arena × ArenaList}
    {nodes : List Nat} (hrelinked : shared.arena.Relinked result.1)
    (hlist : result.1.Lists result.2 nodes)
    (hothers : ∀ other ≠ name, result.1.Lists (shared.lists other) (plain.nodes other))
    (hinUse : ∀ j ∈ nodes, shared.arena.InUse j)
    (hdisjoint : ∀ other ≠ name, ∀ j ∈ nodes, j ∉ plain.nodes other) :
    (shared.update name result).Matches
      { plain with nodes := Function.update plain.nodes name nodes } := by
  refine ⟨hrelinked.wellFormed h.wellFormed, ?_, ?_, ?_, ?_⟩
  · intro j label
    exact h.labels_iff_of_slot hrelinked.inUse_iff
      (fun _ => ⟨hrelinked.key j, hrelinked.frequency j⟩) label
  · intro other
    simp only [SharedArena.update, Function.update_apply]
    split_ifs with hother
    · exact hlist
    · exact hothers other hother
  · intro other j hj
    simp only [SharedArena.update, Function.update_apply] at hj ⊢
    rw [hrelinked.inUse_iff]
    split_ifs at hj
    · exact hinUse j hj
    · exact h.inUse other j hj
  · intro a b j ha hb
    -- either of the two names may be the one whose nodes are replaced
    simp only [Function.update_apply] at ha hb
    split_ifs at ha hb with hanew hbnew hbnew
    · exact hanew.trans hbnew.symm
    · exact absurd hb (hdisjoint b hbnew j ha)
    · exact absurd ha (hdisjoint a hanew j hb)
    · exact h.disjoint a b j ha hb

theorem pushFront (h : shared.Matches plain) (name : ι) (hi : plain.Loose i) :
    (shared.call (.pushFront name i)).Matches (plain.call (.pushFront name i)) := by
  have hin : shared.arena.InUse i := h.isSome_labels_iff.mp hi.1
  apply h.update (Arena.relinked_pushFront _ _ i)
  · exact (h.lists name).pushFront hin.1 (hi.2 name)
  · intro other hne
    exact (h.lists other).of_pushFront (h.lists name) (hi.2 other)
      fun j hj => h.not_mem_of_ne hne hj
  · intro j hj
    rcases List.mem_cons.mp hj with rfl | hj
    · exact hin
    · exact h.inUse name j hj
  · intro other hne j hj hmem
    rcases List.mem_cons.mp hj with rfl | hj
    · exact hi.2 other hmem
    · exact h.not_mem_of_ne hne hmem hj

theorem unlink (h : shared.Matches plain) (hi : i ∈ plain.nodes name) :
    (shared.call (.unlink name i)).Matches (plain.call (.unlink name i)) := by
  apply h.update (Arena.relinked_unlink _ _ i)
  · exact (h.lists name).unlink hi
  · intro other hne
    exact (h.lists other).of_unlink (h.lists name) hi fun j hj => h.not_mem_of_ne hne hj
  · exact fun j hj => h.inUse name j (List.mem_of_mem_erase hj)
  · exact fun other hne j hj hmem => h.not_mem_of_ne hne hmem (List.mem_of_mem_erase hj)

/-! ### Sequences of calls -/

theorem call (h : shared.Matches plain) {call : ArenaCall ι}
    (hpermits : shared.Permits plain call) : (shared.call call).Matches (plain.call call) := by
  cases call with
  | alloc i key frequency =>
      obtain rfl : i = (shared.arena.alloc key frequency).2 := hpermits
      exact h.alloc key frequency
  | release i => exact h.release hpermits
  | pushFront name i => exact h.pushFront name hpermits
  | unlink name i => exact h.unlink hpermits

theorem run (h : shared.Matches plain) {calls : List (ArenaCall ι)}
    (hpermits : shared.PermitsAll plain calls) :
    (shared.run calls).Matches (plain.run calls) := by
  induction calls generalizing shared plain with
  | nil => exact h
  | cons first rest ih => exact ih (h.call hpermits.1) hpermits.2

/-- A call on one list changes neither the ends of another one nor the slots of its nodes. -/
theorem call_frame (h : shared.Matches plain) {call : ArenaCall ι}
    (hpermits : shared.Permits plain call) (hname : call.list? ≠ some name) :
    (shared.call call).lists name = shared.lists name ∧
      ∀ j ∈ plain.nodes name, (shared.call call).arena.slot j = shared.arena.slot j := by
  cases call with
  | alloc i key frequency =>
      exact ⟨rfl, fun j hj => Arena.slot_alloc key frequency (h.inUse name j hj)⟩
  | release i =>
      refine ⟨rfl, fun j hj => Arena.slot_release ?_⟩
      rintro rfl
      exact hpermits.2 name hj
  | pushFront other i =>
      have hne : name ≠ other := fun heq => hname (congrArg some heq.symm)
      refine ⟨Function.update_of_ne hne _ _, ?_⟩
      intro j hj
      apply (h.lists other).slot_pushFront_of_not_mem (h.inUse name j hj).1
      · rintro rfl
        exact hpermits.2 name hj
      · exact h.not_mem_of_ne hne hj
  | unlink other i =>
      have hne : name ≠ other := fun heq => hname (congrArg some heq.symm)
      refine ⟨Function.update_of_ne hne _ _, ?_⟩
      intro j hj
      apply (h.lists other).slot_unlink_of_not_mem hpermits (h.inUse name j hj).1
      exact h.not_mem_of_ne hne hj

theorem keys_call (h : shared.Matches plain) {call : ArenaCall ι}
    (hpermits : shared.Permits plain call) (hname : call.list? ≠ some name) :
    (shared.call call).arena.keys ((shared.call call).lists name) =
      shared.arena.keys (shared.lists name) := by
  have hnodes := ((h.call hpermits).lists name).keys_eq
  rw [PlainLists.nodes_call hname] at hnodes
  rw [hnodes, (h.lists name).keys_eq]
  apply List.map_congr_left
  intro j hj
  rw [Arena.key, (h.call_frame hpermits hname).2 j hj, Arena.key]

end Matches

/-! ## What the arena shows -/

/-- Every slot and every link of the arena is accounted for by the plain lists. -/
structure Accounted (shared : SharedArena ι) (plain : PlainLists ι) : Prop where
  /-- A slot is free, and is listed as such once, or holds what its node was handed out with. -/
  slots : ∀ i < shared.arena.slots.size,
    shared.arena.free.count i = 1 ∧ plain.labels i = none ∨
      i ∉ shared.arena.free ∧
        plain.labels i = some (shared.arena.key i, shared.arena.frequency i)
  beyond : ∀ i, shared.arena.slots.size ≤ i → i ∉ shared.arena.free ∧ plain.labels i = none
  /-- No slot is lost: those not free are as many as the nodes handed out. -/
  live : shared.arena.live = {i | (plain.labels i).isSome}.ncard
  linked : ∀ name, ∀ i ∈ plain.nodes name, (plain.labels i).isSome
  disjoint : ∀ name other i, i ∈ plain.nodes name → i ∈ plain.nodes other → name = other
  /-- The links lead through the nodes of each list both ways. -/
  threads : ∀ name, shared.arena.Threads (shared.lists name) (plain.nodes name)
  keys : ∀ name, shared.arena.keys (shared.lists name) = plain.keys name

theorem Matches.accounted (h : shared.Matches plain) : shared.Accounted plain where
  slots := by
    intro i hi
    by_cases hfree : i ∈ shared.arena.free
    · refine Or.inl ⟨List.count_eq_one_of_mem h.wellFormed.free_nodup hfree, ?_⟩
      exact h.labels_eq_none_iff.mpr fun hin => hin.2 hfree
    · exact Or.inr ⟨hfree, (h.labels_iff i _).mpr ⟨⟨hi, hfree⟩, rfl⟩⟩
  beyond := by
    intro i hi
    refine ⟨fun hfree => absurd (h.wellFormed.free_lt i hfree) (Nat.not_lt.mpr hi), ?_⟩
    exact h.labels_eq_none_iff.mpr fun hin => absurd hin.1 (Nat.not_lt.mpr hi)
  live := by
    have hset : {i | (plain.labels i).isSome} = (shared.arena.used.toFinset : Set Nat) := by
      ext i
      simp [h.isSome_labels_iff, Arena.mem_used_iff]
    rw [hset, Set.ncard_coe_finset, List.toFinset_card_of_nodup (Arena.nodup_used _),
      h.wellFormed.live_eq]
  linked name i hi := h.isSome_labels_iff.mpr (h.inUse name i hi)
  disjoint := h.disjoint
  threads name := (h.lists name).threads
  keys := h.keys_eq

end SharedArena
end CacheTier
