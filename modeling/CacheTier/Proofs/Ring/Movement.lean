import CacheTier.Proofs.Ring.Membership

/-!
# Keys that move when the membership changes

Two rings route a key differently only where one of them routes it to a node with
another number of virtual nodes in the other.  A node that joins or leaves is the only
such node, so a join takes keys only to the new node and a departure takes away only the
keys of the node that leaves.  Positions that two nodes share and the wrap past the
largest position need no case of their own: the rings are compared as sets of entries.
-/

namespace CacheTier
namespace Ring

variable {hash : RingHash} {ring : Ring hash} {id : NodeId}

theorem weight?_eq_none_of_not_contains (hnew : ring.contains id = false) :
    ring.weight? id = none := by
  by_contra hweight
  have hin : ring.contains id = true :=
    contains_iff_weight?.mpr (Option.ne_none_iff_exists'.mp hweight)
  rw [hnew] at hin
  exact Bool.noConfusion hin

theorem share?_add_of_ne (ring : Ring hash) (weight : Float) {k : NodeId} (hk : k ≠ id) :
    (ring.add id weight).1.share? k = ring.share? k := by
  have hquota : (ring.add id weight).1.quota = ring.quota :=
    funext (quota_congr (entriesPerWeight_add ring id weight))
  rw [share?, share?, weight?_add, if_neg hk, hquota]

theorem share?_remove_of_ne (ring : Ring hash) {k : NodeId} (hk : k ≠ id) :
    (ring.remove id).1.share? k = ring.share? k := by
  have hquota : (ring.remove id).1.quota = ring.quota :=
    funext (quota_congr (entriesPerWeight_remove ring id))
  rw [share?, share?, weight?_remove, if_neg hk, hquota]

theorem share?_remove_self (ring : Ring hash) (id : NodeId) :
    (ring.remove id).1.share? id = none := by
  rw [share?, weight?_remove, if_pos rfl, Option.map_none]

/-- Two rings that differ in one node only route a key alike, unless one of them routes
it to that node. -/
theorem Placed.route?_eq_or_routes_to {ring' : Ring hash}
    (h : ring.Placed) (h' : ring'.Placed)
    (hshare : ∀ k, k ≠ id → ring.share? k = ring'.share? k) (key : String) :
    ring.route? key = ring'.route? key ∨
      ring.route? key = some id ∨ ring'.route? key = some id := by
  rcases h.route?_eq_or_share?_ne h' key with heq | ⟨k, hroute, hne⟩
  · exact Or.inl heq
  · have hk : k = id := by
      by_contra hk
      exact hne (hshare k hk)
    rw [hk] at hroute
    exact Or.inr hroute

theorem Placed.contains_of_route? (h : ring.Placed) {key : String}
    (hroute : ring.route? key = some id) : ring.contains id = true := by
  obtain ⟨e, he, rfl⟩ := h.route?_eq_some_iff.mp hroute
  obtain ⟨w, _, hweight, -⟩ := h.mem_entries_iff.mp he.mem
  exact contains_iff_weight?.mpr ⟨w, hweight⟩

/-! ## Joining -/

/-- A key that moves when a node joins moves to that node. -/
theorem Placed.route?_add (h : ring.Placed) (hnew : ring.contains id = false)
    (weight : Float) (key : String) :
    (ring.add id weight).1.route? key = ring.route? key ∨
      (ring.add id weight).1.route? key = some id := by
  have hjoined := h.add id weight
  rcases hjoined.route?_eq_or_routes_to h
      (fun _ hk => share?_add_of_ne ring weight hk) key with heq | hto | hfrom
  · exact Or.inl heq
  · exact Or.inr hto
  · have hin := h.contains_of_route? hfrom
    rw [hnew] at hin
    exact Bool.noConfusion hin

/-! ## Leaving -/

theorem Placed.route?_remove_ne (h : ring.Placed) (id : NodeId) (key : String) :
    (ring.remove id).1.route? key ≠ some id := by
  intro hroute
  have hleft := h.remove id
  exact hleft.share?_ne_none_of_route? hroute (share?_remove_self ring id)

/-- A key that moves when a node leaves was routed to that node. -/
theorem Placed.route?_remove_of_ne (h : ring.Placed) {key : String}
    (hkey : ring.route? key ≠ some id) : (ring.remove id).1.route? key = ring.route? key := by
  have hleft := h.remove id
  rcases hleft.route?_eq_or_routes_to h
      (fun _ hk => share?_remove_of_ne ring hk) key with heq | hto | hfrom
  · exact heq
  · exact absurd hto (h.route?_remove_ne id key)
  · exact absurd hfrom hkey

/-! ## Joining and leaving again -/

theorem eq_of_parts {ring ring' : Ring hash}
    (hshape : ring.entriesPerWeight = ring'.entriesPerWeight)
    (hentries : ring.entries = ring'.entries) (hmembers : ring.members = ring'.members) :
    ring = ring' := by
  cases ring
  cases ring'
  simp_all

theorem filter_members_of_not_contains (hnew : ring.contains id = false) :
    ring.members.filter (·.id != id) = ring.members := by
  have hnone : ring.member? id = none := by simpa [contains] using hnew
  rw [List.filter_eq_self]
  intro m hm
  simpa using member?_eq_none_iff.mp hnone m hm

theorem members_add_of_not_contains (hnew : ring.contains id = false) (weight : Float) :
    (ring.add id weight).1.members =
      ring.members ++ [⟨id, weight, positions hash id (ring.quota weight)⟩] := by
  rw [add, hnew]
  rfl

theorem members_remove (ring : Ring hash) (id : NodeId) :
    (ring.remove id).1.members = ring.members.filter (·.id != id) := by
  cases hmember : ring.member? id with
  | none =>
      have hnew : ring.contains id = false := by simp [contains, hmember]
      rw [filter_members_of_not_contains hnew]
      simp only [remove, hmember]
  | some m => simp only [remove, hmember]

theorem snd_remove (ring : Ring hash) (id : NodeId) :
    (ring.remove id).2 = ring.contains id := by
  rw [remove, contains]
  cases ring.member? id with
  | none => rfl
  | some m => rfl

/-- A node that joins and leaves again leaves the ring as it was. -/
theorem Placed.remove_add (h : ring.Placed) (hnew : ring.contains id = false)
    (weight : Float) : (ring.add id weight).1.remove id = (ring, true) := by
  have hback : ((ring.add id weight).1.remove id).1.Placed := (h.add id weight).remove id
  have hshape : ((ring.add id weight).1.remove id).1.entriesPerWeight =
      ring.entriesPerWeight := by
    rw [entriesPerWeight_remove, entriesPerWeight_add]
  have hweight (k : NodeId) :
      ((ring.add id weight).1.remove id).1.weight? k = ring.weight? k := by
    rw [weight?_remove, weight?_add]
    split_ifs with hk
    · rw [hk, weight?_eq_none_of_not_contains hnew]
    · rfl
  have hmembers : ((ring.add id weight).1.remove id).1.members = ring.members := by
    rw [members_remove, members_add_of_not_contains hnew, List.filter_append,
      filter_members_of_not_contains hnew]
    simp
  have hthere : (ring.add id weight).1.contains id = true :=
    contains_iff_weight?.mpr ⟨_, by rw [weight?_add, if_pos rfl]⟩
  apply Prod.ext
  · exact eq_of_parts hshape (hback.entries_eq_of_weight? h hshape hweight) hmembers
  · exact (snd_remove _ id).trans hthere

/-- Whatever the history and the hash function: a join takes keys only to the new node,
and undoing it restores the ring with its entries and routes; a departure moves the keys
of the node that leaves, all of them and no others. -/
theorem changes_move_only_their_keys
    (hash : RingHash) (config : RingConfig) (changes : List Change)
    (id : NodeId) (weight : Float) :
    let ring := (ofConfig hash config).run changes
    let joined := (ring.add id weight).1
    let left := (ring.remove id).1
    (ring.contains id = false →
      (∀ key, joined.route? key = ring.route? key ∨ joined.route? key = some id) ∧
        joined.remove id = (ring, true)) ∧
      (ring.contains id = true →
        ∀ key, left.route? key ≠ some id ∧
          (ring.route? key ≠ some id → left.route? key = ring.route? key)) := by
  intro ring joined left
  have hplaced : ring.Placed := (placed_ofConfig hash config).run changes
  constructor
  · intro hnew
    exact ⟨hplaced.route?_add hnew weight, hplaced.remove_add hnew weight⟩
  · intro _ key
    exact ⟨hplaced.route?_remove_ne id key, hplaced.route?_remove_of_ne⟩

/-- Where all positions collide, a node with a smaller identifier takes over every key when
it joins and gives them all back when it leaves, and the departure of the other node moves
no key. -/
theorem colliding_join_is_undone :
    let ring := (ofConfig (fun _ => 7) { entriesPerWeight := 1 }).run [.add ⟨"b"⟩ 1]
    let joined := (ring.add ⟨"a"⟩ 1).1
    ring.contains ⟨"a"⟩ = false ∧ joined.contains ⟨"b"⟩ = true ∧
      ring.route? "k" = some ⟨"b"⟩ ∧ joined.route? "k" = some ⟨"a"⟩ ∧
      joined.remove ⟨"a"⟩ = (ring, true) ∧
      (joined.remove ⟨"b"⟩).1.route? "k" = joined.route? "k" := by
  intro ring joined
  have hnew : ring.contains ⟨"a"⟩ = false := by decide +kernel
  have hother : joined.contains ⟨"b"⟩ = true := by decide +kernel
  have hbefore : ring.route? "k" = some ⟨"b"⟩ := by decide +kernel
  have hafter : joined.route? "k" = some ⟨"a"⟩ := by decide +kernel
  have hkey : joined.route? "k" ≠ some ⟨"b"⟩ := by simp [hafter]
  have hjoin := changes_move_only_their_keys (fun _ => 7) { entriesPerWeight := 1 }
    [.add ⟨"b"⟩ 1] ⟨"a"⟩ 1
  have hleave := changes_move_only_their_keys (fun _ => 7) { entriesPerWeight := 1 }
    [.add ⟨"b"⟩ 1, .add ⟨"a"⟩ 1] ⟨"b"⟩ 1
  exact ⟨hnew, hother, hbefore, hafter, (hjoin.1 hnew).2, (hleave.2 hother "k").2 hkey⟩

end Ring
end CacheTier
