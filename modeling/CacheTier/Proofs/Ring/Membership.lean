import CacheTier.Proofs.Ring.Entries
import CacheTier.Proofs.Table
import Mathlib.Data.List.Sort

/-!
# A ring is a function of its membership

Nodes join and leave a ring in any order and any number of times.  Whatever the
history, the entries are exactly those of the present members, each with the
weight it joined with: a node that left keeps no entry, and takes none of another
node with it, also where positions collide.  Routing is a function of the entries,
so two histories that end in the same members and weights route every key alike.

The hash function is arbitrary throughout.
-/

namespace CacheTier
namespace Ring

variable {hash : RingHash}

/-! ## Members after one operation -/

theorem contains_iff_weight? {ring : Ring hash} {id : NodeId} :
    ring.contains id = true ↔ ∃ w, ring.weight? id = some w := by
  rw [contains, weight?, Option.isSome_iff_exists]
  simp

theorem member?_eq_none_iff {ring : Ring hash} {id : NodeId} :
    ring.member? id = none ↔ ∀ m ∈ ring.members, m.id ≠ id := by
  simp [member?]

theorem weight?_add (ring : Ring hash) (id : NodeId) (w : Float) (k : NodeId) :
    (ring.add id w).1.weight? k =
      if k = id then some ((ring.weight? id).getD w) else ring.weight? k := by
  by_cases hin : ring.contains id = true
  · obtain ⟨v, hv⟩ := contains_iff_weight?.mp hin
    rw [add, if_pos hin]
    split_ifs with hk
    · rw [hk, hv, Option.getD_some]
    · rfl
  · have hnone : ring.member? id = none := by simpa [contains] using hin
    have hweight : ring.weight? id = none := by simp [weight?, hnone]
    rw [add, if_neg hin, hweight, Option.getD_none]
    split_ifs with hk
    · subst hk
      simp only [weight?, member?, List.find?_append] at hnone ⊢
      simp [hnone]
    · have hne : ¬id = k := fun h => hk h.symm
      simp [weight?, member?, List.find?_append, hne]

theorem weight?_remove (ring : Ring hash) (id k : NodeId) :
    (ring.remove id).1.weight? k = if k = id then none else ring.weight? k := by
  cases hmember : ring.member? id with
  | none =>
      simp only [remove, hmember]
      split_ifs with hk
      · simp [weight?, hk, hmember]
      · rfl
  | some m =>
      have hmembers : (ring.remove id).1.members = ring.members.filter (·.id != id) := by
        simp only [remove, hmember]
      simp only [weight?, member?, hmembers, List.find?_filter]
      split_ifs with hk
      · simp [hk]
      · congr 2
        funext x
        by_cases hx : x.id = k
        · simp [hx, hk]
        · simp [hx]

@[simp] theorem entriesPerWeight_add (ring : Ring hash) (id : NodeId) (w : Float) :
    (ring.add id w).1.entriesPerWeight = ring.entriesPerWeight := by
  rw [add]
  split_ifs
  · rfl
  · rfl

@[simp] theorem entriesPerWeight_remove (ring : Ring hash) (id : NodeId) :
    (ring.remove id).1.entriesPerWeight = ring.entriesPerWeight := by
  rw [remove]
  split
  · rfl
  · rfl

theorem quota_congr {ring ring' : Ring hash}
    (h : ring.entriesPerWeight = ring'.entriesPerWeight) (w : Float) :
    ring.quota w = ring'.quota w := by
  rw [quota, quota, h]

theorem quota_pos (ring : Ring hash) (w : Float) : 0 < ring.quota w := by
  rw [quota, virtualNodes]
  exact Nat.lt_of_lt_of_le Nat.zero_lt_one (Nat.le_max_right _ 1)

/-! ## The placement invariant -/

/-- No node is a member twice, each member has the positions of its labels, and the
entries are those of the members, in ascending order. -/
structure Placed (ring : Ring hash) : Prop where
  distinct : (ring.members.map Member.id).Nodup
  given : ∀ m ∈ ring.members, m.positions = positions hash m.id (ring.quota m.weight)
  ascending : Ascending ring.entries
  owned : ∀ e, e ∈ ring.entries ↔
    ∃ m ∈ ring.members, m.id = e.owner ∧ e.position ∈ m.positions

theorem placed_ofConfig (hash : RingHash) (config : RingConfig) :
    (ofConfig hash config).Placed where
  distinct := List.nodup_nil
  given := by simp [ofConfig]
  ascending := List.Pairwise.nil
  owned := by simp [ofConfig]

theorem Placed.clear {ring : Ring hash} : ring.clear.Placed where
  distinct := List.nodup_nil
  given := by simp [Ring.clear]
  ascending := List.Pairwise.nil
  owned := by simp [Ring.clear]

theorem Placed.add {ring : Ring hash} (h : ring.Placed) (id : NodeId) (w : Float) :
    (ring.add id w).1.Placed := by
  by_cases hin : ring.contains id = true
  · rwa [Ring.add, if_pos hin]
  have hnew : ∀ m ∈ ring.members, m.id ≠ id := by
    apply member?_eq_none_iff.mp
    simpa [contains] using hin
  rw [Ring.add, if_neg hin]
  constructor
  · rw [List.map_append, List.map_singleton, List.nodup_append]
    refine ⟨h.distinct, List.nodup_singleton id, ?_⟩
    intro a ha b hb
    obtain ⟨m, hm, rfl⟩ := List.mem_map.mp ha
    rw [List.mem_singleton.mp hb]
    exact hnew m hm
  · intro m hm
    rcases List.mem_append.mp hm with hm | hm
    · exact h.given m hm
    · rw [List.mem_singleton.mp hm]
      rfl
  · exact h.ascending.insertAll id _
  · intro e
    change e ∈ insertAll id _ ring.entries ↔ _
    rw [mem_insertAll, h.owned]
    simp only [List.mem_append, List.mem_singleton]
    constructor
    · rintro (⟨m, hm, hid, hpos⟩ | ⟨hid, hpos⟩)
      · exact ⟨m, Or.inl hm, hid, hpos⟩
      · exact ⟨_, Or.inr rfl, hid.symm, hpos⟩
    · rintro ⟨m, hm | rfl, hid, hpos⟩
      · exact Or.inl ⟨m, hm, hid, hpos⟩
      · exact Or.inr ⟨hid.symm, hpos⟩

theorem Placed.member?_eq_some_iff {ring : Ring hash} (h : ring.Placed)
    {id : NodeId} {m : Member} : ring.member? id = some m ↔ m ∈ ring.members ∧ m.id = id :=
  Table.find?_eq_some_iff_of_nodup_map h.distinct

theorem Placed.remove {ring : Ring hash} (h : ring.Placed) (id : NodeId) :
    (ring.remove id).1.Placed := by
  cases hmember : ring.member? id with
  | none => simpa only [Ring.remove, hmember] using h
  | some left =>
      obtain ⟨hleft, hid⟩ := h.member?_eq_some_iff.mp hmember
      have hunique : ∀ m ∈ ring.members, m.id = id → m = left := by
        intro m hm hmid
        exact List.inj_on_of_nodup_map h.distinct hm hleft (hmid.trans hid.symm)
      simp only [Ring.remove, hmember]
      constructor
      · exact h.distinct.sublist (List.filter_sublist.map _)
      · intro m hm
        exact h.given m (List.mem_of_mem_filter hm)
      · exact h.ascending.eraseAll id _
      · intro e
        change e ∈ eraseAll id left.positions ring.entries ↔ _
        rw [mem_eraseAll h.ascending, h.owned]
        simp only [List.mem_filter, bne_iff_ne]
        constructor
        · rintro ⟨⟨m, hm, howner, hpos⟩, hnot⟩
          refine ⟨m, ⟨hm, ?_⟩, howner, hpos⟩
          intro hmid
          apply hnot
          exact ⟨howner.symm.trans hmid, hunique m hm hmid ▸ hpos⟩
        · rintro ⟨m, ⟨hm, hne⟩, howner, hpos⟩
          refine ⟨⟨m, hm, howner, hpos⟩, ?_⟩
          rintro ⟨hgone, -⟩
          exact hne (howner.trans hgone)

/-! ## Entries and weights -/

theorem Placed.weight?_eq_some_iff {ring : Ring hash} (h : ring.Placed)
    {id : NodeId} {w : Float} :
    ring.weight? id = some w ↔ ∃ m ∈ ring.members, m.id = id ∧ m.weight = w := by
  simp only [weight?, Option.map_eq_some_iff, h.member?_eq_some_iff, and_assoc]

/-- How many virtual nodes a member has. -/
def share? (ring : Ring hash) (id : NodeId) : Option Nat :=
  (ring.weight? id).map ring.quota

/-- The entries are the hashes of the labels of the members' virtual nodes. -/
theorem Placed.mem_entries_iff {ring : Ring hash} (h : ring.Placed) {e : Entry} :
    e ∈ ring.entries ↔
      ∃ w i, ring.weight? e.owner = some w ∧ i < ring.quota w ∧
        e.position = hash (label e.owner i) := by
  rw [h.owned]
  constructor
  · rintro ⟨m, hm, hid, hpos⟩
    rw [h.given m hm, positions] at hpos
    obtain ⟨i, hi, hhash⟩ := List.mem_map.mp hpos
    refine ⟨m.weight, i, ?_, List.mem_range.mp hi, ?_⟩
    · exact h.weight?_eq_some_iff.mpr ⟨m, hm, hid, rfl⟩
    · rw [← hhash, hid]
  · rintro ⟨w, i, hw, hi, hhash⟩
    obtain ⟨m, hm, hid, rfl⟩ := h.weight?_eq_some_iff.mp hw
    refine ⟨m, hm, hid, ?_⟩
    rw [h.given m hm, positions, hid, hhash]
    exact List.mem_map.mpr ⟨i, List.mem_range.mpr hi, rfl⟩

/-- A node with equally many virtual nodes in two rings has the same entries in both. -/
theorem Placed.mem_entries_iff_of_share? {ring ring' : Ring hash}
    (h : ring.Placed) (h' : ring'.Placed) {e : Entry}
    (hshare : ring.share? e.owner = ring'.share? e.owner) :
    e ∈ ring.entries ↔ e ∈ ring'.entries := by
  have hmem : ∀ {ring : Ring hash}, ring.Placed → (e ∈ ring.entries ↔
      ∃ n i, ring.share? e.owner = some n ∧ i < n ∧ e.position = hash (label e.owner i)) := by
    intro ring h
    rw [h.mem_entries_iff]
    simp [share?]
  rw [hmem h, hmem h', hshare]

theorem Placed.entries_eq_of_weight? {ring ring' : Ring hash}
    (h : ring.Placed) (h' : ring'.Placed)
    (hshape : ring.entriesPerWeight = ring'.entriesPerWeight)
    (hweight : ∀ id, ring.weight? id = ring'.weight? id) : ring.entries = ring'.entries := by
  apply List.Pairwise.eq_of_mem_iff h.ascending h'.ascending
  intro e
  apply h.mem_entries_iff_of_share? h'
  have hquota : ring.quota = ring'.quota := funext (quota_congr hshape)
  rw [share?, share?, hweight, hquota]

theorem route?_congr {ring ring' : Ring hash} (h : ring.entries = ring'.entries)
    (key : String) : ring.route? key = ring'.route? key := by
  simp [route?, successor?, h]

theorem isEmpty_iff_weight? {ring : Ring hash} :
    ring.isEmpty = true ↔ ∀ id, ring.weight? id = none := by
  simp only [isEmpty, List.isEmpty_iff, weight?, Option.map_eq_none_iff,
    member?_eq_none_iff]
  constructor
  · intro h
    simp [h]
  · intro h
    apply List.eq_nil_iff_forall_not_mem.mpr
    intro m hm
    exact h m.id m hm rfl

/-- Every member has an entry, so a ring has entries exactly when it has members. -/
theorem Placed.entries_eq_nil_iff {ring : Ring hash} (h : ring.Placed) :
    ring.entries = [] ↔ ring.isEmpty = true := by
  rw [isEmpty_iff_weight?]
  constructor
  · intro hempty id
    by_contra hid
    obtain ⟨w, hw⟩ := Option.ne_none_iff_exists'.mp hid
    have hentry : (⟨hash (label id 0), id⟩ : Entry) ∈ ring.entries :=
      h.mem_entries_iff.mpr ⟨w, 0, hw, ring.quota_pos w, rfl⟩
    simp [hempty] at hentry
  · intro hnone
    apply List.eq_nil_iff_forall_not_mem.mpr
    intro e he
    obtain ⟨w, i, hw, -⟩ := h.mem_entries_iff.mp he
    simp [hnone] at hw

theorem Placed.route?_eq_none_iff {ring : Ring hash} (h : ring.Placed) {key : String} :
    ring.route? key = none ↔ ring.isEmpty = true := by
  rw [route?, Option.map_eq_none_iff, successor?_eq_none_iff, h.entries_eq_nil_iff]

theorem Placed.route?_eq_some_iff {ring : Ring hash} (h : ring.Placed)
    {key : String} {id : NodeId} :
    ring.route? key = some id ↔
      ∃ e, Serves {x | x ∈ ring.entries} (hash key) e ∧ e.owner = id := by
  simp only [route?, Option.map_eq_some_iff, successor?_eq_some_iff h.ascending]

theorem Placed.share?_eq_none_of_route? {ring : Ring hash} (h : ring.Placed)
    {key : String} (hroute : ring.route? key = none) (id : NodeId) :
    ring.share? id = none := by
  have hweight : ring.weight? id = none :=
    isEmpty_iff_weight?.mp (h.route?_eq_none_iff.mp hroute) id
  rw [share?, hweight, Option.map_none]

theorem Placed.share?_ne_none_of_route? {ring : Ring hash} (h : ring.Placed)
    {key : String} {id : NodeId} (hroute : ring.route? key = some id) :
    ring.share? id ≠ none := by
  obtain ⟨e, he, rfl⟩ := h.route?_eq_some_iff.mp hroute
  obtain ⟨w, i, hweight, -⟩ := h.mem_entries_iff.mp he.mem
  simp [share?, hweight]

/-- Two rings route a key alike, unless one of them routes it to a node that does not
have equally many virtual nodes in both. -/
theorem Placed.route?_eq_or_share?_ne {ring ring' : Ring hash}
    (h : ring.Placed) (h' : ring'.Placed) (key : String) :
    ring.route? key = ring'.route? key ∨
      ∃ id, (ring.route? key = some id ∨ ring'.route? key = some id) ∧
        ring.share? id ≠ ring'.share? id := by
  cases hroute : ring.route? key with
  | none =>
      cases hroute' : ring'.route? key with
      | none => exact Or.inl rfl
      | some id =>
          refine Or.inr ⟨id, Or.inr rfl, ?_⟩
          rw [h.share?_eq_none_of_route? hroute]
          exact (h'.share?_ne_none_of_route? hroute').symm
  | some id =>
      cases hroute' : ring'.route? key with
      | none =>
          refine Or.inr ⟨id, Or.inl rfl, ?_⟩
          rw [h'.share?_eq_none_of_route? hroute']
          exact h.share?_ne_none_of_route? hroute
      | some id' =>
          by_cases hid : ring.share? id = ring'.share? id
          · by_cases hid' : ring.share? id' = ring'.share? id'
            · obtain ⟨e, he, rfl⟩ := h.route?_eq_some_iff.mp hroute
              obtain ⟨e', he', rfl⟩ := h'.route?_eq_some_iff.mp hroute'
              have hmem : e ∈ ring'.entries := (h.mem_entries_iff_of_share? h' hid).mp he.mem
              have hmem' : e' ∈ ring.entries :=
                (h.mem_entries_iff_of_share? h' hid').mpr he'.mem
              exact Or.inl (by rw [he.eq_of_mem he' hmem hmem'])
            · exact Or.inr ⟨id', Or.inr rfl, hid'⟩
          · exact Or.inr ⟨id, Or.inl rfl, hid⟩

/-! ## Histories -/

/-- A change to the members of a ring. -/
inductive Change where
  | add (id : NodeId) (weight : Float)
  | remove (id : NodeId)
  | clear

/-- The ring after a change. -/
def apply (ring : Ring hash) : Change → Ring hash
  | .add id weight => (ring.add id weight).1
  | .remove id => (ring.remove id).1
  | .clear => ring.clear

/-- The ring after a history of changes. -/
def run (ring : Ring hash) (changes : List Change) : Ring hash :=
  changes.foldl apply ring

/-- The weights of the members after a change, where a member keeps its weight. -/
def recordChange (weights : NodeId → Option Float) : Change → NodeId → Option Float
  | .add id weight =>
    if (weights id).isSome then weights else Function.update weights id (some weight)
  | .remove id => Function.update weights id none
  | .clear => fun _ => none

/-- The members that a history leaves and the weights they joined with, told without
a ring. -/
def joinWeights (changes : List Change) : NodeId → Option Float :=
  changes.foldl recordChange fun _ => none

theorem Placed.apply {ring : Ring hash} (h : ring.Placed) (change : Change) :
    (ring.apply change).Placed := by
  cases change with
  | add id weight => exact h.add id weight
  | remove id => exact h.remove id
  | clear => exact Placed.clear

theorem Placed.run {ring : Ring hash} (h : ring.Placed) (changes : List Change) :
    (ring.run changes).Placed := by
  induction changes generalizing ring with
  | nil => exact h
  | cons change rest ih => exact ih (h.apply change)

theorem entriesPerWeight_apply (ring : Ring hash) (change : Change) :
    (ring.apply change).entriesPerWeight = ring.entriesPerWeight := by
  cases change with
  | add id weight => exact entriesPerWeight_add ring id weight
  | remove id => exact entriesPerWeight_remove ring id
  | clear => rfl

theorem entriesPerWeight_run (ring : Ring hash) (changes : List Change) :
    (ring.run changes).entriesPerWeight = ring.entriesPerWeight := by
  induction changes generalizing ring with
  | nil => rfl
  | cons change rest ih => exact (ih _).trans (entriesPerWeight_apply ring change)

theorem weight?_apply (ring : Ring hash) (change : Change) :
    (ring.apply change).weight? = recordChange ring.weight? change := by
  funext k
  cases change with
  | add id weight =>
      rw [apply, weight?_add, recordChange]
      cases hweight : ring.weight? id with
      | none => simp [Function.update_apply]
      | some v =>
          rw [if_pos Option.isSome_some, Option.getD_some]
          split_ifs with hk
          · rw [hk, hweight]
          · rfl
  | remove id =>
      rw [apply, weight?_remove, recordChange, Function.update_apply]
  | clear => rfl

theorem weight?_run (ring : Ring hash) (changes : List Change) :
    (ring.run changes).weight? = changes.foldl recordChange ring.weight? := by
  induction changes generalizing ring with
  | nil => rfl
  | cons change rest ih =>
      rw [List.foldl_cons, ← weight?_apply]
      exact ih (ring.apply change)

theorem weight?_run_ofConfig (config : RingConfig) (changes : List Change) :
    ((ofConfig hash config).run changes).weight? = joinWeights changes := by
  rw [weight?_run, joinWeights]
  rfl

/-- After any history the entries are the hashed labels of the members' virtual nodes,
a key goes to the least entry at or after its hash or else to the least of all, and
histories that leave the same weights route every key alike. -/
theorem run_determined_by_membership
    (hash : RingHash) (config : RingConfig) (changes : List Change) :
    let ring := (ofConfig hash config).run changes
    Ascending ring.entries ∧
      (∀ id, ring.weight? id = joinWeights changes id) ∧
      {e | e ∈ ring.entries} =
        {e | ∃ w i, joinWeights changes e.owner = some w ∧ i < ring.quota w ∧
          e.position = hash (label e.owner i)} ∧
      (∀ key id, ring.route? key = some id ↔
        ∃ e, Serves {x | x ∈ ring.entries} (hash key) e ∧ e.owner = id) ∧
      (∀ key, ring.route? key = none ↔ ∀ id, joinWeights changes id = none) ∧
      ∀ changes', joinWeights changes' = joinWeights changes →
        ∀ key, ((ofConfig hash config).run changes').route? key = ring.route? key := by
  intro ring
  have hplaced : ring.Placed := (placed_ofConfig hash config).run changes
  have hweight : ring.weight? = joinWeights changes := weight?_run_ofConfig config changes
  refine ⟨hplaced.ascending, congrFun hweight, ?_, ?_, ?_, ?_⟩
  · ext e
    rw [Set.mem_ofPred_eq, hplaced.mem_entries_iff, hweight]
    exact Iff.rfl
  · intro key id
    exact hplaced.route?_eq_some_iff
  · intro key
    rw [hplaced.route?_eq_none_iff, isEmpty_iff_weight?, hweight]
  · intro changes' hsame key
    have hplaced' : ((ofConfig hash config).run changes').Placed :=
      (placed_ofConfig hash config).run changes'
    apply route?_congr
    apply hplaced'.entries_eq_of_weight? hplaced
    · rw [entriesPerWeight_run, entriesPerWeight_run]
    · intro id
      rw [weight?_run_ofConfig, hweight, hsame]

end Ring
end CacheTier
