import CacheTier.Proofs.Registry.Steps
import CacheTier.Rest.RegistryService

/-!
# Which node a request to delete drops

A path names a node by the part that comes after the path of all nodes, decoded.  A request to
delete drops the node that its path names, if it is a member, and changes nothing otherwise.
-/

namespace CacheTier

/-! ## Paths of nodes -/

theorem Rest.below?_eq_some_iff {beginning : String} {path rest : List Char} :
    Rest.below? beginning path = some rest ↔ path = beginning.toList ++ rest ∧ rest ≠ [] := by
  rw [Rest.below?]
  by_cases hbegins : beginning.toList <+: path
  · obtain ⟨later, rfl⟩ := hbegins
    rw [if_pos (List.isPrefixOf_iff_prefix.mpr (List.prefix_append _ _)), ← String.length_toList,
      List.drop_left]
    cases later with
    | nil => simp
    | cons c later =>
        simp only [List.isEmpty_cons, Bool.false_eq_true, if_false, Option.some.injEq,
          List.append_cancel_left_eq]
        constructor
        · rintro rfl
          exact ⟨rfl, List.cons_ne_nil c later⟩
        · rintro ⟨rfl, -⟩
          rfl
  · rw [if_neg (mt List.isPrefixOf_iff_prefix.mp hbegins)]
    refine iff_of_false (Option.some_ne_none rest).symm ?_
    rintro ⟨rfl, -⟩
    exact hbegins (List.prefix_append _ _)

namespace RegistryService

/-- The path below which the nodes are. -/
def nodesPath : List Char := ['/', 'v', '1', '/', 'n', 'o', 'd', 'e', 's', '/']

/-- A path names a node by a part that is neither empty nor divided, and that is not the name of
another resource. -/
theorem ofPath?_eq_node_iff {path part : List Char} :
    Resource.ofPath? path = some (.node part) ↔
      path = nodesPath ++ part ∧ part ≠ [] ∧ '/' ∉ part ∧ part ≠ ['p', 'u', 'l', 's', 'e'] := by
  have hliteral {text : String} {cs : List Char} (h : String.ofList path = text)
      (hcs : text.toList = cs) : path = cs := by
    rw [← hcs, ← h, String.toList_ofList]
  rw [Resource.ofPath?]
  split
  case h_2 heq =>
    simp [hliteral heq rfl, nodesPath]
    tauto
  case h_7 hpulse _ _ _ _ =>
    have hbelow {rest : List Char} :
        Rest.below? "/v1/nodes/" path = some rest ↔ path = nodesPath ++ rest ∧ rest ≠ [] :=
      Rest.below?_eq_some_iff
    simp only [Option.or_eq_some_iff, Option.bind_eq_some_iff, Option.map_eq_some_iff, hbelow]
    constructor
    · rintro (⟨found, ⟨hpath, hne⟩, hsingle⟩ | ⟨-, found, -, hplace⟩)
      · split_ifs at hsingle with hslash
        obtain rfl : found = part := by simpa using hsingle
        refine ⟨hpath, hne, hslash, ?_⟩
        rintro rfl
        exact hpulse (by rw [hpath]; rfl)
      · cases hplace
    · rintro ⟨hpath, hne, hslash, -⟩
      exact Or.inl ⟨part, ⟨hpath, hne⟩, if_neg hslash⟩
  -- every other path that is written out in full differs from those of nodes
  all_goals
    rename_i heq
    simp [hliteral heq rfl, nodesPath]

/-- A path names a node. -/
def Names (path : List Char) (id : NodeId) : Prop :=
  ∃ part, Resource.ofPath? path = some (.node part) ∧
    Percent.decodeText? (String.ofList part) = some id.text

theorem Names.unique {path : List Char} {id other : NodeId} (h : Names path id)
    (hother : Names path other) : id = other := by
  obtain ⟨part, hresource, htext⟩ := h
  obtain ⟨part', hresource', htext'⟩ := hother
  obtain rfl : part = part' := by simpa [hresource] using hresource'
  rw [htext, Option.some.injEq] at htext'
  cases id
  cases other
  exact congrArg NodeId.mk htext'

/-! ## Requests to delete -/

/-- What a request to delete comes to: what becomes of the registry, and the status of the
response. -/
inductive Deleted (registry : Registry) (path : List Char) : Registry × Status → Prop
  /-- The node that the path names is dropped. -/
  | dropped {id : NodeId} (hnamed : Names path id) (hmember : registry.contains id = true) :
      Deleted registry path ((registry.remove id).1, .noContent)
  /-- The path names a node that is unknown. -/
  | unknown {id : NodeId} (hnamed : Names path id) (hmember : registry.contains id = false) :
      Deleted registry path (registry, .notFound)
  /-- The path names no node. -/
  | refused {status : Status} (hnamed : ∀ id, ¬Names path id)
      (hstatus : status ∈ [.notFound, .badRequest, .methodNotAllowed]) :
      Deleted registry path (registry, status)

/-- The node that a path names is the one that is dropped. -/
theorem Deleted.eq_of_names {registry : Registry} {path : List Char}
    {answer : Registry × Status} (h : Deleted registry path answer) {id : NodeId}
    (hnamed : Names path id) :
    answer = ((registry.remove id).1,
      if registry.contains id then .noContent else .notFound) := by
  cases h with
  | dropped hother hmember =>
      obtain rfl := hnamed.unique hother
      rw [if_pos hmember]
  | unknown hother hmember =>
      obtain rfl := hnamed.unique hother
      rw [if_neg (by simp [hmember]), Registry.remove_of_not_contains hmember]
  | refused hnone _ => exact absurd hnamed (hnone id)

theorem deleted_dropNode {path : List Char} {id : NodeId} (hnamed : Names path id)
    (service : RegistryService) (context : RequestContext) :
    Deleted service.registry path ((service.dropNode context id).1.registry,
      (service.dropNode context id).2.status) := by
  simp only [dropNode, service.registry.snd_remove]
  cases hmember : service.registry.contains id with
  | true => exact .dropped hnamed hmember
  | false =>
      rw [Registry.remove_of_not_contains hmember]
      exact .unknown hnamed hmember

theorem perform_delete_of_ne_node (service : RegistryService) {request : Request}
    (hmethod : request.method = .delete) (context : RequestContext) {resource : Resource}
    (hresource : ∀ part, resource ≠ .node part) :
    service.perform request context resource =
      .ok (service, some (.bare .methodNotAllowed)) := by
  cases resource with
  | node part => exact absurd rfl (hresource part)
  | _ =>
      simp only [perform, hmethod, Method.deed]
      rfl

/-- A request to delete is answered, and drops the node that its path names, or nothing. -/
theorem deleted_handle (service : RegistryService) {request : Request}
    (hmethod : request.method = .delete) :
    ∃ response, (service.handle request).2 = some response ∧
      Deleted service.registry request.path
        ((service.handle request).1.registry, response.status) := by
  have hshown (response : Response) : response.shownTo request.method = response := by
    rw [Response.shownTo, hmethod]
    rfl
  let next := { service with handled := service.handled + 1 }
  rw [handle]
  simp only [hshown, Option.map_id']
  cases hresource : Resource.ofPath? request.path with
  | none =>
      have hnamed (id : NodeId) : ¬Names request.path id := by
        rintro ⟨part, hpart, -⟩
        simp [hresource] at hpart
      exact ⟨_, rfl, .refused hnamed (by simp [Response.bare])⟩
  | some resource =>
      by_cases hnode : ∃ part, resource = .node part
      · obtain ⟨part, rfl⟩ := hnode
        simp only [perform, hmethod, Method.deed, Rest.pathText]
        cases htext : Percent.decodeText? (String.ofList part) with
        | none =>
            have hnamed (id : NodeId) : ¬Names request.path id := by
              rintro ⟨other, hother, hid⟩
              obtain rfl : part = other := by simpa [hresource] using hother
              simp [htext] at hid
            exact ⟨_, rfl, .refused hnamed (by simp [Response.rejection])⟩
        | some text => exact ⟨_, rfl, deleted_dropNode ⟨part, hresource, htext⟩ next _⟩
      · have hother : ∀ part, resource ≠ .node part := fun part heq => hnode ⟨part, heq⟩
        have hnamed (id : NodeId) : ¬Names request.path id := by
          rintro ⟨part, hpart, -⟩
          exact hother part (by simpa [hresource] using hpart)
        simp only [perform_delete_of_ne_node _ hmethod _ hother]
        exact ⟨_, rfl, .refused hnamed (by simp [Response.bare])⟩

end RegistryService
end CacheTier
