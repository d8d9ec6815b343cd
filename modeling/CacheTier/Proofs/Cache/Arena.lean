import CacheTier.Cache.Arena
import Mathlib.Data.List.Nodup
import Mathlib.Data.List.Perm.Subperm
import Mathlib.Tactic.SplitIfs

/-!
# Lists in an arena

A list in an arena has certain nodes, from head to tail, when its ends and the
links of its nodes say so.  Linking and unlinking act on the nodes as on a plain
list, and leave every list alone that has none of the touched nodes.
-/

namespace CacheTier
namespace Arena

variable {arena : Arena} {list : ArenaList} {nodes : List Nat} {i j : Nat}

/-! ## Slots -/

theorem slot_modify (h : j < arena.slots.size) (i : Nat) (change : Slot → Slot) :
    (arena.modify i change).slot j =
      if i = j then change (arena.slot j) else arena.slot j := by
  simp [slot, modify, h, Array.getElem_modify]

@[simp] theorem size_modify (arena : Arena) (i : Nat) (change : Slot → Slot) :
    (arena.modify i change).slots.size = arena.slots.size := by
  simp [modify]

theorem slot_of_size_le (h : arena.slots.size ≤ j) : arena.slot j = Slot.vacant := by
  simp [slot, Nat.not_lt.mpr h]

/-! ## Slots in use -/

/-- A slot of the arena that is not free. -/
def InUse (arena : Arena) (i : Nat) : Prop := i < arena.slots.size ∧ i ∉ arena.free

/-- The free slots are slots of the arena, each listed once. -/
structure WellFormed (arena : Arena) : Prop where
  free_lt : ∀ i ∈ arena.free, i < arena.slots.size
  free_nodup : arena.free.Nodup

theorem wellFormed_empty : empty.WellFormed where
  free_lt := by simp [empty]
  free_nodup := List.nodup_nil

/-- Two arenas that differ in the links of their nodes alone. -/
structure Relinked (before after : Arena) : Prop where
  size : after.slots.size = before.slots.size
  free : after.free = before.free
  key : ∀ j, after.key j = before.key j
  frequency : ∀ j, after.frequency j = before.frequency j

namespace Relinked

variable {a b c : Arena}

theorem refl (a : Arena) : Relinked a a := ⟨rfl, rfl, fun _ => rfl, fun _ => rfl⟩

theorem trans (h : Relinked a b) (h' : Relinked b c) : Relinked a c where
  size := h'.size.trans h.size
  free := h'.free.trans h.free
  key j := (h'.key j).trans (h.key j)
  frequency j := (h'.frequency j).trans (h.frequency j)

/-- A node is given other links. -/
theorem modify (a : Arena) (i : Nat) (prev next : Slot → Option Nat) :
    Relinked a (a.modify i fun s => { s with prev := prev s, next := next s }) := by
  have hlabels : ∀ j, let s := (a.modify i fun s => { s with prev := prev s, next := next s }).slot j
      s.key = (a.slot j).key ∧ s.frequency = (a.slot j).frequency := by
    intro j
    rcases Nat.lt_or_ge j a.slots.size with hj | hj
    · rw [slot_modify hj]
      split_ifs
      · exact ⟨rfl, rfl⟩
      · exact ⟨rfl, rfl⟩
    · rw [slot_of_size_le hj, slot_of_size_le (by simpa using hj)]
      exact ⟨rfl, rfl⟩
  exact ⟨size_modify a i _, rfl, fun j => (hlabels j).1, fun j => (hlabels j).2⟩

theorem wellFormed (h : Relinked a b) (ha : a.WellFormed) : b.WellFormed where
  free_lt := by
    rw [h.free, h.size]
    exact ha.free_lt
  free_nodup := by
    rw [h.free]
    exact ha.free_nodup

theorem inUse_iff (h : Relinked a b) : b.InUse i ↔ a.InUse i := by
  rw [InUse, InUse, h.size, h.free]

end Relinked

/-! ## Frequencies -/

theorem slot_setFrequency_of_ne (h : j ≠ i) (arena : Arena) (f : Nat) :
    (arena.setFrequency i f).slot j = arena.slot j := by
  rcases Nat.lt_or_ge j arena.slots.size with hj | hj
  · rw [setFrequency, slot_modify hj, if_neg h.symm]
  · rw [slot_of_size_le hj, slot_of_size_le (by simpa [setFrequency] using hj)]

theorem frequency_setFrequency (h : i < arena.slots.size) (f : Nat) :
    (arena.setFrequency i f).frequency i = f := by
  rw [frequency, setFrequency, slot_modify h, if_pos rfl]

theorem key_setFrequency (arena : Arena) (i f j : Nat) :
    (arena.setFrequency i f).key j = arena.key j := by
  rcases Nat.lt_or_ge j arena.slots.size with hj | hj
  · rw [key, setFrequency, slot_modify hj]
    split_ifs
    · rfl
    · rfl
  · rw [key, key, slot_of_size_le hj, slot_of_size_le (by simpa [setFrequency] using hj)]

theorem inUse_setFrequency_iff {f : Nat} : (arena.setFrequency i f).InUse j ↔ arena.InUse j := by
  rw [InUse, InUse, setFrequency, size_modify]
  exact Iff.rfl

theorem WellFormed.setFrequency (h : arena.WellFormed) (i f : Nat) :
    (arena.setFrequency i f).WellFormed where
  free_lt := by
    rw [Arena.setFrequency, size_modify]
    exact h.free_lt
  free_nodup := h.free_nodup

/-- Setting the frequency that a node has changes nothing. -/
theorem setFrequency_frequency (arena : Arena) (i : Nat) :
    arena.setFrequency i (arena.frequency i) = arena := by
  obtain ⟨slots, free⟩ := arena
  simp only [setFrequency, modify, Arena.mk.injEq, and_true]
  apply Array.ext
  · exact Array.size_modify
  · intro j hj _
    have hsize : j < slots.size := by simpa using hj
    rw [Array.getElem_modify]
    split_ifs with hij
    · subst hij
      simp [frequency, slot, hsize]
    · rfl

/-! ## Links -/

/-- Makes a node, if there is one, point forward at another. -/
def linkNext (arena : Arena) (node next : Option Nat) : Arena :=
  match node with
  | some p => arena.modify p fun s => { s with next }
  | none => arena

/-- Makes a node, if there is one, point back at another. -/
def linkPrev (arena : Arena) (node prev : Option Nat) : Arena :=
  match node with
  | some n => arena.modify n fun s => { s with prev }
  | none => arena

theorem relinked_linkNext (arena : Arena) (node next : Option Nat) :
    Relinked arena (arena.linkNext node next) := by
  cases node with
  | none => exact .refl arena
  | some p => exact .modify arena p Slot.prev (fun _ => next)

theorem relinked_linkPrev (arena : Arena) (node prev : Option Nat) :
    Relinked arena (arena.linkPrev node prev) := by
  cases node with
  | none => exact .refl arena
  | some n => exact .modify arena n (fun _ => prev) Slot.next

theorem slot_linkNext (h : j < arena.slots.size) (node next : Option Nat) :
    (arena.linkNext node next).slot j =
      if node = some j then { arena.slot j with next } else arena.slot j := by
  cases node with
  | none => rfl
  | some p => simp only [linkNext, slot_modify h, Option.some_inj]

theorem slot_linkPrev (h : j < arena.slots.size) (node prev : Option Nat) :
    (arena.linkPrev node prev).slot j =
      if node = some j then { arena.slot j with prev } else arena.slot j := by
  cases node with
  | none => rfl
  | some p => simp only [linkPrev, slot_modify h, Option.some_inj]

theorem pushFront_eq (arena : Arena) (list : ArenaList) (i : Nat) :
    arena.pushFront list i =
      ((arena.modify i fun s => { s with prev := none, next := list.head }).linkPrev
          list.head (some i),
        ⟨some i, if list.head = none then some i else list.tail, list.length + 1⟩) := by
  obtain ⟨head, tail, length⟩ := list
  cases head with
  | none => rfl
  | some h => rfl

theorem unlink_eq (arena : Arena) (list : ArenaList) (i : Nat) :
    let prev := (arena.slot i).prev
    let next := (arena.slot i).next
    arena.unlink list i =
      (((arena.linkNext prev next).linkPrev next prev).modify i
          fun s => { s with prev := none, next := none },
        ⟨if prev = none then next else list.head, if next = none then prev else list.tail,
          list.length - 1⟩) := by
  intro prev next
  simp only [unlink, prev, next]
  cases (arena.slot i).prev with
  | none =>
      cases (arena.slot i).next with
      | none => rfl
      | some n => rfl
  | some p =>
      cases (arena.slot i).next with
      | none => rfl
      | some n => rfl

theorem relinked_pushFront (arena : Arena) (list : ArenaList) (i : Nat) :
    Relinked arena (arena.pushFront list i).1 := by
  rw [pushFront_eq]
  exact (Relinked.modify arena i (fun _ => none) (fun _ => list.head)).trans
    (relinked_linkPrev _ _ _)

theorem relinked_unlink (arena : Arena) (list : ArenaList) (i : Nat) :
    Relinked arena (arena.unlink list i).1 := by
  rw [unlink_eq]
  exact ((relinked_linkNext arena _ _).trans (relinked_linkPrev _ _ _)).trans
    (.modify _ i (fun _ => none) (fun _ => none))

theorem slot_pushFront (h : j < arena.slots.size) (hne : j ≠ i) :
    (arena.pushFront list i).1.slot j =
      if list.head = some j then { arena.slot j with prev := some i } else arena.slot j := by
  rw [pushFront_eq, slot_linkPrev (by simpa using h), slot_modify h, if_neg hne.symm]

theorem slot_pushFront_self (h : i < arena.slots.size) (hhead : list.head ≠ some i) :
    (arena.pushFront list i).1.slot i =
      { arena.slot i with prev := none, next := list.head } := by
  rw [pushFront_eq, slot_linkPrev (by simpa using h), slot_modify h, if_pos rfl,
    if_neg hhead]

/-- The node before an unlinked node points past it, and so does the node after it. -/
theorem slot_unlink (h : j < arena.slots.size) (hne : j ≠ i) :
    (arena.unlink list i).1.slot j =
      { arena.slot j with
        prev := if (arena.slot i).next = some j then (arena.slot i).prev else (arena.slot j).prev
        next := if (arena.slot i).prev = some j then (arena.slot i).next
          else (arena.slot j).next } := by
  have hnext : j < (arena.linkNext (arena.slot i).prev (arena.slot i).next).slots.size :=
    (relinked_linkNext arena _ _).size ▸ h
  have hprev := (relinked_linkPrev _ (arena.slot i).next (arena.slot i).prev).size ▸ hnext
  rw [unlink_eq, slot_modify hprev, if_neg hne.symm, slot_linkPrev hnext, slot_linkNext h]
  split_ifs
  · rfl
  · rfl
  · rfl
  · rfl

/-! ## The nodes of a list -/

/-- The list has these nodes from head to tail: its ends, its length and the links of
each node say so. -/
structure Lists (arena : Arena) (list : ArenaList) (nodes : List Nat) : Prop where
  head : list.head = nodes.head?
  tail : list.tail = nodes.getLast?
  length : list.length = nodes.length
  nodup : nodes.Nodup
  lt_size : ∀ i ∈ nodes, i < arena.slots.size
  links : ∀ before i after, nodes = before ++ i :: after →
    (arena.slot i).prev = before.getLast? ∧ (arena.slot i).next = after.head?

theorem lists_empty (arena : Arena) : arena.Lists .empty [] where
  head := rfl
  tail := rfl
  length := rfl
  nodup := List.nodup_nil
  lt_size := by simp
  links := by simp

/-- A list depends on the links of its nodes alone. -/
theorem Lists.congr (h : arena.Lists list nodes) {other : Arena}
    (hsize : arena.slots.size ≤ other.slots.size)
    (hslot : ∀ j ∈ nodes, (other.slot j).prev = (arena.slot j).prev ∧
      (other.slot j).next = (arena.slot j).next) : other.Lists list nodes where
  head := h.head
  tail := h.tail
  length := h.length
  nodup := h.nodup
  lt_size j hj := Nat.lt_of_lt_of_le (h.lt_size j hj) hsize
  links := by
    intro before j after hsplit
    obtain ⟨hprev, hnext⟩ := hslot j (by simp [hsplit])
    rw [hprev, hnext]
    exact h.links before j after hsplit

theorem Lists.isEmpty_iff (h : arena.Lists list nodes) : list.isEmpty = true ↔ nodes = [] := by
  rw [ArenaList.isEmpty, beq_iff_eq, h.length, List.length_eq_zero_iff]

theorem Lists.pushFront (h : arena.Lists list nodes) (hi : i < arena.slots.size)
    (hnew : i ∉ nodes) :
    (arena.pushFront list i).1.Lists (arena.pushFront list i).2 (i :: nodes) := by
  have hhead : list.head ≠ some i := by
    rw [h.head]
    intro heq
    exact hnew (List.mem_of_head? heq)
  have hrelinked := relinked_pushFront arena list i
  refine ⟨?_, ?_, ?_, List.nodup_cons.mpr ⟨hnew, h.nodup⟩, ?_, ?_⟩
  · rw [pushFront_eq]
    rfl
  · rw [pushFront_eq, h.head, h.tail]
    cases nodes with
    | nil => rfl
    | cons first rest => rfl
  · rw [pushFront_eq, h.length]
    rfl
  · intro j hj
    rw [hrelinked.size]
    rcases List.mem_cons.mp hj with rfl | hj
    · exact hi
    · exact h.lt_size j hj
  · intro before j after hsplit
    cases before with
    | nil =>
        obtain ⟨rfl, rfl⟩ := List.cons.inj hsplit
        rw [slot_pushFront_self hi hhead, h.head]
        exact ⟨rfl, rfl⟩
    | cons first before =>
        obtain ⟨rfl, rfl⟩ := List.cons.inj hsplit
        have hj : j ≠ i := by
          rintro rfl
          exact hnew (by simp)
        obtain ⟨hprev, hnext⟩ := h.links before j after rfl
        rw [slot_pushFront (h.lt_size j (by simp)) hj, h.head]
        cases before with
        | nil => simpa using hnext
        | cons second before =>
            have hsecond : second ≠ j := by
              rintro rfl
              have := h.nodup
              simp at this
            simp [hsecond, hprev, hnext]

/-- Linking a node in front of a list changes the slots of this node and of the list alone. -/
theorem Lists.slot_pushFront_of_not_mem (h : arena.Lists list nodes) (hj : j < arena.slots.size)
    (hne : j ≠ i) (hnot : j ∉ nodes) : (arena.pushFront list i).1.slot j = arena.slot j := by
  have hhead : list.head ≠ some j := by
    rw [h.head]
    intro heq
    exact hnot (List.mem_of_head? heq)
  rw [slot_pushFront hj hne, if_neg hhead]

/-- Another list is not touched by linking a node in front of this one. -/
theorem Lists.of_pushFront {other : ArenaList} {others : List Nat}
    (h : arena.Lists other others) (hlist : arena.Lists list nodes) (hi : i ∉ others)
    (hdisjoint : ∀ j ∈ others, j ∉ nodes) :
    (arena.pushFront list i).1.Lists other others := by
  apply h.congr (Nat.le_of_eq (relinked_pushFront arena list i).size.symm)
  intro j hj
  have hne : j ≠ i := by
    rintro rfl
    exact hi hj
  rw [hlist.slot_pushFront_of_not_mem (h.lt_size j hj) hne (hdisjoint j hj)]
  exact ⟨rfl, rfl⟩

/-- A node in front of an unlinked one keeps the node before it. -/
theorem Lists.links_unlink_of_before {front mid after : List Nat}
    (h : arena.Lists list (front ++ j :: (mid ++ i :: after))) :
    ((arena.unlink list i).1.slot j).prev = front.getLast? ∧
      ((arena.unlink list i).1.slot j).next = (mid ++ after).head? := by
  obtain ⟨hprev, hnext⟩ := h.links (front ++ j :: mid) i after (by simp)
  obtain ⟨hjprev, hjnext⟩ := h.links front j (mid ++ i :: after) rfl
  have hnodup := (List.nodup_append.mp h.nodup).2.1
  have hmem : j ∉ mid ++ i :: after := (List.nodup_cons.mp hnodup).1
  have hne : j ≠ i := by
    rintro rfl
    exact hmem (by simp)
  have hafter : after.head? ≠ some j := by
    intro heq
    exact hmem (by simp [List.mem_of_head? heq])
  rw [slot_unlink (h.lt_size j (by simp)) hne, hprev, hnext, if_neg hafter, hjprev, hjnext]
  refine ⟨rfl, ?_⟩
  cases mid with
  | nil => simp
  | cons first rest =>
      have hlast : (front ++ j :: first :: rest).getLast? ≠ some j := by
        rw [List.getLast?_append, List.getLast?_cons_cons, List.getLast?_cons, Option.some_or]
        intro heq
        exact hmem (List.mem_append_left _ (List.mem_of_getLast? (List.getLast?_cons.trans heq)))
      simp only [if_neg hlast, List.cons_append, List.head?_cons]

/-- A node behind an unlinked one keeps the node after it. -/
theorem Lists.links_unlink_of_after {before mid back : List Nat}
    (h : arena.Lists list (before ++ i :: (mid ++ j :: back))) :
    ((arena.unlink list i).1.slot j).prev = (before ++ mid).getLast? ∧
      ((arena.unlink list i).1.slot j).next = back.head? := by
  obtain ⟨hprev, hnext⟩ := h.links before i (mid ++ j :: back) rfl
  obtain ⟨hjprev, hjnext⟩ := h.links (before ++ i :: mid) j back (by simp)
  obtain ⟨-, hnodup, hdisjoint⟩ := List.nodup_append.mp h.nodup
  have hne : j ≠ i := by
    rintro rfl
    exact (List.nodup_cons.mp hnodup).1 (by simp)
  have hbefore : before.getLast? ≠ some j := by
    intro heq
    exact hdisjoint j (List.mem_of_getLast? heq) j (by simp) rfl
  rw [slot_unlink (h.lt_size j (by simp)) hne, hprev, hnext, if_neg hbefore, hjprev, hjnext]
  refine ⟨?_, rfl⟩
  cases mid with
  | nil => simp
  | cons first rest =>
      have hfirst : first ≠ j := by
        rintro rfl
        simp at hnodup
      simp [hfirst, List.getLast?_append]

theorem Lists.unlink (h : arena.Lists list nodes) (hi : i ∈ nodes) :
    (arena.unlink list i).1.Lists (arena.unlink list i).2 (nodes.erase i) := by
  obtain ⟨before, after, rfl, hbefore⟩ := List.eq_append_cons_of_mem hi
  have herase : (before ++ i :: after).erase i = before ++ after := by
    rw [List.erase_append_right _ hbefore, List.erase_cons_head]
  obtain ⟨hprev, hnext⟩ := h.links before i after rfl
  rw [herase]
  refine ⟨?_, ?_, ?_, ?_, ?_, ?_⟩
  · rw [unlink_eq, hprev, hnext, h.head]
    cases before with
    | nil => rfl
    | cons first rest => simp
  · rw [unlink_eq, hprev, hnext, h.tail]
    cases after with
    | nil => simp
    | cons first rest => simp [List.getLast?_append]
  · rw [unlink_eq, h.length]
    simp
  · rw [← herase]
    exact h.nodup.erase i
  · intro j hj
    rw [(relinked_unlink arena list i).size]
    exact h.lt_size j (List.mem_of_mem_erase (herase ▸ hj))
  · intro front j back hsplit
    rcases List.append_eq_append_iff.mp hsplit with ⟨mid, rfl, rfl⟩ | ⟨mid, rfl, hmid⟩
    · exact h.links_unlink_of_after
    · cases mid with
      | nil =>
          obtain rfl : after = j :: back := hmid.symm
          have hlist : arena.Lists list (front ++ i :: ([] ++ j :: back)) := by simpa using h
          simpa using hlist.links_unlink_of_after
      | cons first rest =>
          obtain ⟨rfl, rfl⟩ := List.cons.inj hmid
          rw [List.append_assoc] at h
          exact h.links_unlink_of_before

/-- Unlinking a node of a list changes the slots of the list alone. -/
theorem Lists.slot_unlink_of_not_mem (h : arena.Lists list nodes) (hi : i ∈ nodes)
    (hj : j < arena.slots.size) (hnot : j ∉ nodes) :
    (arena.unlink list i).1.slot j = arena.slot j := by
  obtain ⟨before, after, hnodes⟩ := List.append_of_mem hi
  obtain ⟨hprev, hnext⟩ := h.links before i after hnodes
  have hne : j ≠ i := by
    rintro rfl
    exact hnot hi
  have hlast : before.getLast? ≠ some j := by
    intro heq
    exact hnot (by simp [hnodes, List.mem_of_getLast? heq])
  have hhead : after.head? ≠ some j := by
    intro heq
    exact hnot (by simp [hnodes, List.mem_of_head? heq])
  rw [slot_unlink hj hne, hprev, hnext, if_neg hlast, if_neg hhead]

/-- Another list is not touched by unlinking a node of this one. -/
theorem Lists.of_unlink {other : ArenaList} {others : List Nat}
    (h : arena.Lists other others) (hlist : arena.Lists list nodes) (hi : i ∈ nodes)
    (hdisjoint : ∀ j ∈ others, j ∉ nodes) :
    (arena.unlink list i).1.Lists other others := by
  apply h.congr (Nat.le_of_eq (relinked_unlink arena list i).size.symm)
  intro j hj
  rw [hlist.slot_unlink_of_not_mem hi (h.lt_size j hj) (hdisjoint j hj)]
  exact ⟨rfl, rfl⟩

/-! ## Walking a list -/

/-- Following the links from a node, if there is one, meets these nodes one by one and comes
to an end. -/
def Leads (link : Nat → Option Nat) : Option Nat → List Nat → Prop
  | start, [] => start = none
  | start, i :: rest => start = some i ∧ Leads link (link i) rest

theorem leads_head? {link : Nat → Option Nat} {nodes : List Nat}
    (hlinks : ∀ before i after, nodes = before ++ i :: after → link i = after.head?) :
    Leads link nodes.head? nodes := by
  induction nodes with
  | nil => rfl
  | cons i rest ih =>
      refine ⟨rfl, ?_⟩
      rw [hlinks [] i rest rfl]
      apply ih
      intro before j after hsplit
      exact hlinks (i :: before) j after (by rw [hsplit]; rfl)

theorem Leads.walk_eq {start : Option Nat} (h : Leads (fun i => (arena.slot i).next) start nodes)
    {fuel : Nat} (hfuel : nodes.length ≤ fuel) : arena.walk fuel start = nodes := by
  induction nodes generalizing start fuel with
  | nil =>
      rw [show start = none from h]
      cases fuel with
      | zero => rfl
      | succ fuel => rfl
  | cons i rest ih =>
      obtain ⟨rfl, hrest⟩ := h
      cases fuel with
      | zero => exact absurd hfuel (by simp)
      | succ fuel => rw [walk, ih hrest (Nat.le_of_succ_le_succ hfuel)]

/-- Forward from the head and backward from the tail, the links of the list lead through the
same nodes, each of them once, and the length counts them. -/
structure Threads (arena : Arena) (list : ArenaList) (nodes : List Nat) : Prop where
  forward : Leads (fun i => (arena.slot i).next) list.head nodes
  backward : Leads (fun i => (arena.slot i).prev) list.tail nodes.reverse
  length : list.length = nodes.length
  nodup : nodes.Nodup

theorem Lists.threads (h : arena.Lists list nodes) : arena.Threads list nodes where
  forward := by
    rw [h.head]
    exact leads_head? fun before i after hsplit => (h.links before i after hsplit).2
  backward := by
    rw [h.tail, ← List.head?_reverse]
    apply leads_head?
    intro before i after hsplit
    have hforward : nodes = after.reverse ++ i :: before.reverse := by
      rw [← List.reverse_reverse nodes, hsplit]
      simp
    rw [(h.links _ i _ hforward).1, List.getLast?_reverse]
  length := h.length
  nodup := h.nodup

/-- Walking a list from its head meets its nodes. -/
theorem Lists.nodes_eq (h : arena.Lists list nodes) : arena.nodes list = nodes := by
  have hlength : nodes.length ≤ arena.slots.size := by
    have hsubset : nodes ⊆ List.range arena.slots.size := fun i hi =>
      List.mem_range.mpr (h.lt_size i hi)
    simpa using (List.subperm_of_subset h.nodup hsubset).length_le
  exact h.threads.forward.walk_eq hlength

theorem Lists.keys_eq (h : arena.Lists list nodes) : arena.keys list = nodes.map arena.key := by
  rw [keys, h.nodes_eq]

/-! ## Taking and freeing slots -/

theorem slot_alloc_self (h : arena.WellFormed) (key : String) (frequency : Nat) :
    (arena.alloc key frequency).1.slot (arena.alloc key frequency).2 =
      ⟨key, frequency, none, none⟩ := by
  rw [alloc]
  split
  · rename_i i free hfree
    have hi : i < arena.slots.size := h.free_lt i (by simp [hfree])
    simp [slot, hi]
  · simp [slot]

theorem slot_alloc (key : String) (frequency : Nat) (hj : arena.InUse j) :
    (arena.alloc key frequency).1.slot j = arena.slot j := by
  rw [alloc]
  split
  · rename_i i free hfree
    have hne : i ≠ j := by
      rintro rfl
      exact hj.2 (by simp [hfree])
    simp [slot, hne]
  · have hne : j ≠ arena.slots.size := Nat.ne_of_lt hj.1
    simp [slot, hne, Array.getElem?_push]

theorem size_le_alloc (arena : Arena) (key : String) (frequency : Nat) :
    arena.slots.size ≤ (arena.alloc key frequency).1.slots.size := by
  rw [alloc]
  split
  · simp
  · simp

theorem WellFormed.alloc (h : arena.WellFormed) (key : String) (frequency : Nat) :
    (arena.alloc key frequency).1.WellFormed := by
  rw [Arena.alloc]
  split
  · rename_i i free hfree
    have hnodup := h.free_nodup
    rw [hfree, List.nodup_cons] at hnodup
    refine ⟨?_, hnodup.2⟩
    intro j hj
    simpa using h.free_lt j (by simp [hfree, hj])
  · exact ⟨by simp, List.nodup_nil⟩

/-- A taken slot was not in use, and is now; the others are as they were. -/
theorem WellFormed.inUse_alloc_iff (h : arena.WellFormed) (key : String) (frequency : Nat) :
    ¬ arena.InUse (arena.alloc key frequency).2 ∧
      ((arena.alloc key frequency).1.InUse j ↔
        j = (arena.alloc key frequency).2 ∨ arena.InUse j) := by
  rw [Arena.alloc]
  split
  · rename_i i free hfree
    have hnodup := h.free_nodup
    have hi : i < arena.slots.size := h.free_lt i (by simp [hfree])
    rw [hfree, List.nodup_cons] at hnodup
    refine ⟨fun hin => hin.2 (by simp [hfree]), ?_⟩
    by_cases hj : j = i
    · simp [InUse, hj, hi, hnodup.1]
    · simp [InUse, hj, hfree]
  · rename_i hfree
    refine ⟨fun hin => absurd hin.1 (by simp), ?_⟩
    simp only [InUse, Array.size_push, hfree]
    simp
    omega

/-- The node in a taken slot is on no list. -/
theorem Lists.alloc (h : arena.Lists list nodes) (hused : ∀ j ∈ nodes, arena.InUse j)
    (key : String) (frequency : Nat) : (arena.alloc key frequency).1.Lists list nodes := by
  apply h.congr (size_le_alloc arena key frequency)
  intro j hj
  rw [slot_alloc key frequency (hused j hj)]
  exact ⟨rfl, rfl⟩

theorem slot_release (hne : j ≠ i) : (arena.release i).1.slot j = arena.slot j := by
  simp [release, slot, hne.symm]

theorem size_release (arena : Arena) (i : Nat) :
    (arena.release i).1.slots.size = arena.slots.size := by
  simp [release]

theorem WellFormed.release (h : arena.WellFormed) (hi : arena.InUse i) :
    (arena.release i).1.WellFormed where
  free_lt := by
    intro j hj
    rw [size_release]
    rcases List.mem_cons.mp hj with rfl | hj
    · exact hi.1
    · exact h.free_lt j hj
  free_nodup := List.nodup_cons.mpr ⟨hi.2, h.free_nodup⟩

theorem inUse_release_iff : (arena.release i).1.InUse j ↔ j ≠ i ∧ arena.InUse j := by
  rw [InUse, InUse, size_release]
  simp only [release, List.mem_cons, not_or]
  tauto

theorem Lists.release (h : arena.Lists list nodes) (hi : i ∉ nodes) :
    (arena.release i).1.Lists list nodes := by
  apply h.congr (Nat.le_of_eq (size_release arena i).symm)
  intro j hj
  have hne : j ≠ i := by
    rintro rfl
    exact hi hj
  rw [slot_release hne]
  exact ⟨rfl, rfl⟩

/-! ## Counting slots -/

/-- The slots in use, in order. -/
def used (arena : Arena) : List Nat := (List.range arena.slots.size).filter (· ∉ arena.free)

theorem mem_used_iff : i ∈ arena.used ↔ arena.InUse i := by
  simp [used, InUse]

theorem nodup_used (arena : Arena) : arena.used.Nodup := List.nodup_range.filter _

theorem WellFormed.live_eq (h : arena.WellFormed) : arena.live = arena.used.length := by
  have hnodup : (arena.free ++ arena.used).Nodup := by
    refine List.nodup_append.mpr ⟨h.free_nodup, nodup_used arena, ?_⟩
    rintro i hi _ hused rfl
    exact (mem_used_iff.mp hused).2 hi
  have hperm : (arena.free ++ arena.used).Perm (List.range arena.slots.size) := by
    rw [List.perm_ext_iff_of_nodup hnodup List.nodup_range]
    intro i
    rw [List.mem_append, mem_used_iff, InUse, List.mem_range]
    constructor
    · rintro (hi | hi)
      · exact h.free_lt i hi
      · exact hi.1
    · intro hi
      by_cases hfree : i ∈ arena.free
      · exact Or.inl hfree
      · exact Or.inr ⟨hi, hfree⟩
  have hlength := hperm.length_eq
  rw [List.length_append, List.length_range] at hlength
  rw [live]
  omega

end Arena
end CacheTier
