import CacheTier.Proofs.Ring.Occupancy
import CacheTier.Registry

/-!
# Labels of virtual nodes

The label of a virtual node is the identifier of its node, a separator and its index in decimal.
Nothing is escaped: an identifier may hold the separator, end like a label, or be another node's
label.  The index holds no separator, so the last separator of a label is the one that was put
there, and the label tells the node and the index.

A ring therefore has as many labels as virtual nodes.  If the hash tells these labels apart, every
virtual node has a position of its own, and the ring an entry for each.
-/

namespace CacheTier
namespace Ring

variable {hash : RingHash} {ring : Ring hash} {a b : NodeId} {i j : Nat}

/-! ## What a label tells -/

/-- A text is cut at its last separator in one way only. -/
theorem eq_of_append_separator {sep : Char} {front front' back back' : List Char}
    (hback : sep ∉ back) (hback' : sep ∉ back')
    (h : front ++ sep :: back = front' ++ sep :: back') : front = front' ∧ back = back' := by
  rcases List.append_eq_append_iff.mp h with ⟨mid, rfl, hmid⟩ | ⟨mid, rfl, hmid⟩
  · cases mid with
    | nil => simpa using hmid
    | cons first rest =>
        obtain ⟨-, rfl⟩ := List.cons.inj hmid
        exact absurd (by simp) hback
  · cases mid with
    | nil => simpa using hmid.symm
    | cons first rest =>
        obtain ⟨-, rfl⟩ := List.cons.inj hmid
        exact absurd (by simp) hback'

theorem separator_not_mem_toString (i : Nat) : '#' ∉ (toString i).toList := by
  intro hmem
  rw [show (toString i).toList = Nat.toDigits 10 i from Nat.toList_repr] at hmem
  exact absurd (Nat.isDigit_of_mem_toDigits (by decide) (by decide) hmem) (by decide)

theorem toList_label (id : NodeId) (i : Nat) :
    (label id i).toList = id.text.toList ++ '#' :: (toString i).toList := by
  simp [label]

theorem label_inj : label a i = label b j ↔ a = b ∧ i = j := by
  constructor
  · intro h
    have hlist := congrArg String.toList h
    rw [toList_label, toList_label] at hlist
    obtain ⟨htext, hindex⟩ := eq_of_append_separator (separator_not_mem_toString i)
      (separator_not_mem_toString j) hlist
    exact ⟨NodeId.ext_text (String.toList_inj.mp htext),
      Nat.repr_inj.mp (String.toList_inj.mp hindex)⟩
  · rintro ⟨rfl, rfl⟩
    rfl

/-! ## The virtual nodes of a ring -/

/-- One of the virtual nodes of a node. -/
structure VirtualNode where
  owner : NodeId
  index : Nat
  deriving DecidableEq, Repr

namespace VirtualNode

/-- The text that is hashed to place the virtual node. -/
def text (v : VirtualNode) : String := label v.owner v.index

theorem text_inj {u v : VirtualNode} : u.text = v.text ↔ u = v := by
  rw [text, text, label_inj, VirtualNode.mk.injEq]

end VirtualNode

/-- The virtual nodes of the members, as many of each as its weight stands for. -/
def virtualNodeList (ring : Ring hash) : List VirtualNode :=
  ring.members.flatMap fun m => (List.range (ring.quota m.weight)).map (VirtualNode.mk m.id)

theorem Placed.mem_virtualNodeList_iff (h : ring.Placed) {v : VirtualNode} :
    v ∈ ring.virtualNodeList ↔
      ∃ w, ring.weight? v.owner = some w ∧ v.index < ring.quota w := by
  simp only [virtualNodeList, List.mem_flatMap, List.mem_map, List.mem_range,
    h.weight?_eq_some_iff]
  constructor
  · rintro ⟨m, hm, i, hi, rfl⟩
    exact ⟨m.weight, ⟨m, hm, rfl, rfl⟩, hi⟩
  · rintro ⟨w, ⟨m, hm, howner, rfl⟩, hindex⟩
    exact ⟨m, hm, v.index, hindex, by rw [howner]⟩

/-- The hash tells the labels of the ring's virtual nodes apart. -/
def TellsApart (ring : Ring hash) : Prop :=
  ∀ u ∈ ring.virtualNodeList, ∀ v ∈ ring.virtualNodeList, u.text ≠ v.text →
    hash u.text ≠ hash v.text

theorem TellsApart.eq_of_hash (h : ring.TellsApart) {u v : VirtualNode}
    (hu : u ∈ ring.virtualNodeList) (hv : v ∈ ring.virtualNodeList)
    (hhash : hash u.text = hash v.text) : u = v := by
  by_contra hne
  exact h u hu v hv (mt VirtualNode.text_inj.mp hne) hhash

theorem Placed.mem_entries_iff_exists (h : ring.Placed) {e : Entry} :
    e ∈ ring.entries ↔ ∃ v ∈ ring.virtualNodeList, e = ⟨hash v.text, v.owner⟩ := by
  rw [h.mem_entries_iff]
  constructor
  · rintro ⟨w, i, hweight, hi, hposition⟩
    refine ⟨⟨e.owner, i⟩, h.mem_virtualNodeList_iff.mpr ⟨w, hweight, hi⟩, ?_⟩
    rw [VirtualNode.text, ← hposition]
  · rintro ⟨v, hv, rfl⟩
    obtain ⟨w, hweight, hindex⟩ := h.mem_virtualNodeList_iff.mp hv
    exact ⟨w, v.index, hweight, hindex, rfl⟩

/-- Where the hash tells the labels apart, no position is held twice. -/
theorem Placed.nodup_entries_position (h : ring.Placed) (happart : ring.TellsApart) :
    (ring.entries.map Entry.position).Nodup := by
  apply List.Nodup.map_on _ h.ascending.nodup
  intro e he e' he' hposition
  obtain ⟨v, hv, rfl⟩ := h.mem_entries_iff_exists.mp he
  obtain ⟨v', hv', rfl⟩ := h.mem_entries_iff_exists.mp he'
  rw [happart.eq_of_hash hv hv' hposition]

/-- Where the hash tells the labels apart, there is an entry for every virtual node. -/
theorem Placed.entryCount_of_tellsApart (h : ring.Placed) (happart : ring.TellsApart) :
    ring.entryCount = (ring.members.map fun m => ring.quota m.weight).sum := by
  apply h.entryCount_of_nodup
  intro m hm
  rw [nodup_positions_iff]
  intro i hi j hj hhash
  have hweight : ring.weight? m.id = some m.weight :=
    h.weight?_eq_some_iff.mpr ⟨m, hm, rfl, rfl⟩
  have hmem : ∀ i < ring.quota m.weight, ⟨m.id, i⟩ ∈ ring.virtualNodeList := fun i hi =>
    h.mem_virtualNodeList_iff.mpr ⟨m.weight, hweight, hi⟩
  exact (VirtualNode.mk.inj (happart.eq_of_hash (hmem i hi) (hmem j hj) hhash)).2

/-- A label tells its node and its index.  So after any changes of the members, if the hash tells
the labels of the ring apart, no two virtual nodes share a position, and the ring has as many
entries as its members have virtual nodes. -/
theorem virtual_nodes_stand_apart (hash : RingHash) (config : RingConfig)
    (changes : List Change) :
    (∀ (a b : NodeId) (i j : Nat), label a i = label b j → a = b ∧ i = j) ∧
      let ring := (ofConfig hash config).run changes
      (ring.TellsApart →
        (∀ u ∈ ring.virtualNodeList, ∀ v ∈ ring.virtualNodeList,
          hash u.text = hash v.text → u = v) ∧
        (ring.entries.map Entry.position).Nodup ∧
        ring.entryCount = (ring.members.map fun m => ring.quota m.weight).sum) := by
  refine ⟨fun a b i j h => label_inj.mp h, ?_⟩
  intro ring happart
  have hplaced : ring.Placed := (placed_ofConfig hash config).run changes
  exact ⟨fun u hu v hv hhash => happart.eq_of_hash hu hv hhash,
    hplaced.nodup_entries_position happart, hplaced.entryCount_of_tellsApart happart⟩

/-- A node joins whose identifier is a label of another one, which leaves and joins again with a
greater weight, beside the node without a name. -/
def lookalikes : List Change :=
  [.add ⟨"a"⟩ 0, .add ⟨"a#1"⟩ 1, .remove ⟨"a"⟩, .add ⟨"a"⟩ 2, .add ⟨""⟩ 0]

theorem lookalikes_stand_apart :
    let ring := (ofConfig Digest.ofText ⟨1⟩).run lookalikes
    ring.TellsApart ∧ label ⟨"a"⟩ 1 = "a#1" ∧ label ⟨"a#1"⟩ 0 ≠ label ⟨"a"⟩ 1 ∧
      (ring.entries.map Entry.position).Nodup ∧ ring.entryCount = 6 := by
  intro ring
  have hhashes : (ring.virtualNodeList.map fun v => Digest.ofText v.text).Nodup := by
    decide +kernel
  have happart : ring.TellsApart := by
    intro u hu v hv hne hhash
    exact hne (congrArg VirtualNode.text (List.inj_on_of_nodup_map hhashes hu hv hhash))
  have hsix : (ring.members.map fun m => ring.quota m.weight).sum = 6 := by
    decide +kernel
  obtain ⟨hlabel, hring⟩ := virtual_nodes_stand_apart Digest.ofText ⟨1⟩ lookalikes
  obtain ⟨-, hpositions, hcount⟩ := hring happart
  refine ⟨happart, by decide, ?_, hpositions, hcount.trans hsix⟩
  intro hsame
  exact absurd (hlabel _ _ _ _ hsame).2 (by decide)

end Ring
end CacheTier
