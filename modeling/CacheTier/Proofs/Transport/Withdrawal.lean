import CacheTier.Proofs.Rest.Deletion
import CacheTier.Proofs.Transport.Reports
import CacheTier.Proofs.Url.Paths

/-!
# Which node a withdrawal drops

A withdrawal writes the identifier into the path of a URL as it is.  On the way the identifier is
read as a part of a URL: characters are dropped from it, it is cut at slashes, question marks and
number signs, and its escapes are decoded.  The registry drops the node that is named in the end.
That is the node of the identifier exactly if nothing of this applies; otherwise the node stays,
and another one may be dropped in its place.
-/

namespace CacheTier

/-! ## Identifiers that arrive -/

/-- A text that is named by the path that it is written into. -/
structure Addressable (text : List Char) : Prop where
  ne_nil : text ≠ []
  plain : ∀ c ∈ text, c ∉ ['/', '\\', '?', '#', '\t', '\n', '\r']
  /-- The last character is no blank and no control character. -/
  visible : ∀ c, text.getLast? = some c → 0x20 < c.toNat
  noEscape : ¬Percent.HasEscape text
  /-- The text is no place of its own and no other resource. -/
  free : text ≠ ['.'] ∧ text ≠ ['.', '.'] ∧ text ≠ ['p', 'u', 'l', 's', 'e']

/-- The characters that neither divide a path nor end it nor are dropped from it. -/
theorem Addressable.plain_iff {c : Char} : c ∉ ['/', '\\', '?', '#', '\t', '\n', '\r'] ↔
    Url.isSlash c = false ∧ Url.isIgnored c = false ∧ c ≠ '?' ∧ c ≠ '#' := by
  simp only [Url.isSlash, Url.isIgnored, List.mem_cons, List.not_mem_nil, or_false, not_or,
    Bool.or_eq_false_iff, beq_eq_false_iff_ne]
  tauto

/-! ## The path of an identifier -/

namespace Transport

theorem path_plain {url : Url} (hpath : ∀ text ∈ url.segments, Url.IsPath text)
    (hne : url.segments ≠ []) (method : Method) (context : RequestContext) :
    (plain method context url).path = Url.pathOf url.segments := by
  have hplain : ∀ c ∈ Url.pathOf url.segments, c ≠ '#' ∧ c ≠ '?' :=
    fun c hc => Url.ne_of_isPathPlain (Url.isPathPlain_of_mem_pathOf hpath hc)
  obtain ⟨query, htarget, hquery⟩ := Url.exists_target hne
  have hlocator : (plain method context url).locator =
      Url.pathOf url.segments ++ query.takeWhile (· != '#') := by
    rw [Request.locator, plain, htarget]
    exact List.takeWhile_append_of_pos fun c hc => by simpa using (hplain c hc).1
  rw [Request.path, hlocator,
    List.takeWhile_append_of_pos fun c hc => by simpa using (hplain c hc).2]
  cases query with
  | nil => simp
  | cons c query =>
      obtain rfl := hquery c rfl
      simp

/-- The address of a resource of an endpoint; slashes at the end of the endpoint count for
nothing. -/
theorem exists_address {origin : Url.Origin} {endpoint resource : String} {slashes : Nat}
    {path : List Char} (hendpoint : endpoint.toList = origin.chars ++ List.replicate slashes '/')
    (hresource : resource.toList = '/' :: path) :
    ∃ url, address endpoint resource = some url ∧
      url.segments = Url.segmentsOf (Url.located path) := by
  have htrim : (endpoint.toList.reverse.dropWhile (· == '/')).reverse = origin.chars := by
    have hall : ∀ c ∈ List.replicate slashes '/', (c == '/') = true := by simp
    rw [hendpoint, List.reverse_append, List.reverse_replicate, List.dropWhile_append_of_pos hall,
      origin.dropWhile_slash_reverse_chars, List.reverse_reverse]
  have hchars : String.ofList (endpoint.toList.reverse.dropWhile (· == '/')).reverse ++ resource =
      String.ofList (origin.chars ++ '/' :: path) := by
    rw [htrim, ← hresource, String.ofList_append, String.ofList_toList]
  rw [address, hchars]
  exact origin.ofText?_chars path

/-- What the path of an identifier is below the host. -/
def nodePart (id : NodeId) : List Char :=
  ['v', '1', '/', 'n', 'o', 'd', 'e', 's', '/'] ++ id.text.toList

theorem segmentsOf_nodePart (id : NodeId) :
    Url.segmentsOf (Url.located (nodePart id)) =
      Url.resolve ["v1", "nodes"] (Url.pieces (Url.located id.text.toList)) := by
  have hlocated : Url.located (['v', '1', '/', 'n', 'o', 'd', 'e', 's', '/'] ++ id.text.toList) =
      ['v', '1', '/', 'n', 'o', 'd', 'e', 's', '/'] ++ Url.located id.text.toList :=
    Url.located_append (by simp [Url.isEdge]) (by simp [Url.isIgnored]) _
  have hpieces (cs : List Char) :
      Url.pieces (['v', '1', '/', 'n', 'o', 'd', 'e', 's', '/'] ++ cs) =
        ['v', '1'] :: ['n', 'o', 'd', 'e', 's'] :: Url.pieces cs := by
    have houter := Url.pieces_append (c := '/') ['v', '1'] (['n', 'o', 'd', 'e', 's'] ++ '/' :: cs)
      (by decide)
    rw [Url.pieces_append (c := '/') ['n', 'o', 'd', 'e', 's'] cs (by decide)] at houter
    exact houter
  rw [nodePart, hlocated, Url.segmentsOf_eq, hpieces,
    Url.resolve_cons _ (by decide) (List.cons_ne_nil _ _),
    Url.resolve_cons _ (by decide) (Url.pieces_ne_nil _)]
  rfl

/-- The path of a request that withdraws a node. -/
def withdrawalPath (id : NodeId) : List Char :=
  Url.pathOf (Url.segmentsOf (Url.located (nodePart id)))

theorem names_of_addressable {id : NodeId} (h : Addressable id.text.toList) :
    RegistryService.Names (withdrawalPath id) id := by
  have hplain : ∀ c ∈ id.text.toList,
      Url.isSlash c = false ∧ Url.isIgnored c = false ∧ c ≠ '?' ∧ c ≠ '#' :=
    fun c hc => Addressable.plain_iff.mp (h.plain c hc)
  have hlocated : Url.located id.text.toList = id.text.toList := by
    refine Url.located_eq_self_iff.mpr ⟨fun c hc => (hplain c hc).2, fun c hc => ?_⟩
    simpa [Url.isEdge] using h.visible c hc
  have hplace : Url.isPlace id.text.toList = false := by
    rw [Bool.eq_false_iff, ne_eq, Url.isPlace_iff_of_not_hasEscape h.noEscape]
    exact fun hdots => hdots.elim h.free.1 h.free.2.1
  have hsegments : Url.segmentsOf (Url.located (nodePart id)) =
      ["v1", "nodes", String.ofList (Percent.encode Url.isPathPlain id.text.toList)] := by
    obtain ⟨habove, hhere⟩ := Bool.or_eq_false_iff.mp hplace
    rw [segmentsOf_nodePart, hlocated, Url.pieces_of_no_slash fun c hc => (hplain c hc).1,
      Url.resolve, if_neg (by simp [habove]), if_neg (by simp [hhere])]
    rfl
  have hreread := Percent.reread_of_not_hasEscape Url.isPathPlain_percent h.noEscape
  -- the identifier is recovered from its encoded form, so this is no other text without escapes
  have hback {part : List Char} (hpart : Percent.encode Url.isPathPlain id.text.toList = part)
      (hdecode : Percent.decode (encodeChars part) = encodeChars part) : id.text.toList = part := by
    apply encodeChars_injective
    rw [← hreread, Percent.reread, hpart, hdecode]
  refine ⟨Percent.encode Url.isPathPlain id.text.toList, ?_, ?_⟩
  · rw [RegistryService.ofPath?_eq_node_iff, withdrawalPath, hsegments]
    refine ⟨?_, ?_, ?_, ?_⟩
    · simp [Url.pathOf, RegistryService.nodesPath]
    · exact fun hempty => h.ne_nil (hback hempty (by simp [Percent.decode]))
    · exact Url.slash_not_mem_encode fun c hc => (hplain c hc).1
    · exact fun hpulse => h.free.2.2 (hback hpulse (by decide +kernel))
  · rw [Percent.decodeText?_encode, hreread, Utf8.text?_encodeChars, String.ofList_toList]

theorem eq_of_append_slash {a b c d : List Char} (h : a ++ '/' :: b = c ++ '/' :: d) (hb : '/' ∉ b)
    (hd : '/' ∉ d) : b = d := by
  have hlast {front last : List Char} (hlast : '/' ∉ last) :
      (front ++ '/' :: last).reverse.takeWhile (· != '/') = last.reverse := by
    have hall : ∀ c ∈ last.reverse, (c != '/') = true := by
      intro c hc
      rw [bne_iff_ne]
      rintro rfl
      exact hlast (List.mem_reverse.mp hc)
    rw [List.reverse_append, List.reverse_cons, List.append_assoc,
      List.takeWhile_append_of_pos hall]
    simp
  rw [← List.reverse_inj, ← hlast hb, h, hlast hd]

/-- The path of an identifier ends in what is left of it: its last piece, unless this stands for a
place of its own. -/
theorem exists_last_segment (id : NodeId) : ∃ front last,
    withdrawalPath id =
      front ++ '/' :: (if Url.isPlace last then [] else Percent.encode Url.isPathPlain last) ∧
    (∀ c ∈ last, Url.isSlash c = false) ∧
    (last = Url.located id.text.toList ∨
      (encodeChars last).length < (encodeChars (Url.located id.text.toList)).length) := by
  obtain ⟨last, hlast⟩ := Url.exists_getLast?_pieces (Url.located id.text.toList)
  obtain ⟨front, hresolve⟩ := Url.exists_resolve ["v1", "nodes"] hlast
  refine ⟨Url.pathOf front, last, ?_, Url.last_piece hlast⟩
  rw [withdrawalPath, segmentsOf_nodePart, hresolve, Url.pathOf, List.flatMap_append,
    List.flatMap_singleton, Url.pathOf]
  split_ifs
  · rfl
  · rw [String.toList_ofList]

/-- An identifier is named by its path only if nothing of it was lost or decoded on the way. -/
theorem addressable_of_names {id : NodeId} (h : RegistryService.Names (withdrawalPath id) id) :
    Addressable id.text.toList := by
  obtain ⟨part, hresource, hdecoded⟩ := h
  obtain ⟨hpath, hne, hslash, hpulse⟩ := RegistryService.ofPath?_eq_node_iff.mp hresource
  obtain ⟨front, last, hlast, hwhole, hbytes⟩ := exists_last_segment id
  rw [hlast, show RegistryService.nodesPath ++ part =
    ['/', 'v', '1', '/', 'n', 'o', 'd', 'e', 's'] ++ '/' :: part from rfl] at hpath
  have hplace : Url.isPlace last = false := by
    rw [Bool.eq_false_iff]
    intro hplace
    rw [if_pos hplace] at hpath
    exact hne (eq_of_append_slash hpath List.not_mem_nil hslash).symm
  rw [if_neg (by simp [hplace])] at hpath
  obtain rfl := eq_of_append_slash hpath (Url.slash_not_mem_encode hwhole) hslash
  rw [Percent.decodeText?_encode] at hdecoded
  -- no bytes are gained on the way, so none is lost where all come back
  have hlength := Utf8.length_of_text? hdecoded
  obtain ⟨hle, hlt⟩ := Percent.length_reread Url.isPathPlain_percent
    (fun c hc => Url.isPathPlain_of_isHexDigit hc) last
  have hsublist := Url.located_sublist id.text.toList
  have hfewer := (encodeChars_sublist hsublist).length_le
  obtain rfl := hbytes.resolve_right (by omega)
  have hsame : Url.located id.text.toList = id.text.toList :=
    eq_of_sublist_of_length_encodeChars hsublist (by omega)
  rw [hsame] at hwhole hlt hplace hpulse hlength hne
  have hescape : ¬Percent.HasEscape id.text.toList := fun hescape => by
    have hlost := hlt hescape
    omega
  obtain ⟨hplain, hvisible⟩ := Url.located_eq_self_iff.mp hsame
  rw [Bool.eq_false_iff, ne_eq, Url.isPlace_iff_of_not_hasEscape hescape, not_or] at hplace
  refine ⟨?_, ?_, ?_, hescape, hplace.1, hplace.2, ?_⟩
  · intro hempty
    exact hne (by rw [hempty]; rfl)
  · exact fun c hc => Addressable.plain_iff.mpr ⟨hwhole c hc, hplain c hc⟩
  · intro c hc
    simpa [Url.isEdge] using hvisible c hc
  · intro htext
    exact hpulse (by rw [htext]; decide +kernel)

/-- An identifier is named by the path that it is written into exactly if it is addressable. -/
theorem names_withdrawalPath_iff {id : NodeId} :
    RegistryService.Names (withdrawalPath id) id ↔ Addressable id.text.toList :=
  ⟨addressable_of_names, names_of_addressable⟩

/-! ## Withdrawals -/

section Withdrawals

variable {t : Transport} {ω : Type} {s : Surroundings ω} {w : ω} {endpoint : String}
  {service : RegistryService} {after : RegistryService → ω} {context : RequestContext}
  {origin : Url.Origin} {slashes : Nat} {response : Response}

/-- The endpoint that is named next is the address of a service, and what comes after a request
is decided by what the request makes of the service. -/
structure ServedBy (s : Surroundings ω) (w : ω) (endpoint : String) (service : RegistryService)
    (after : RegistryService → ω) : Prop where
  exists_next : ∃ next, s.current w = (next, some endpoint) ∧
    ∀ id url, nodeAddress id endpoint = some url →
      ∀ request, s.send next url request =
        (after (service.handle request).1, .ofResponse? (service.handle request).2)

theorem withdrawn_noContent (hstatus : response.status = .noContent) :
    t.withdrawn endpoint (.answered response) = .ok true := by
  have hsuccessful : response.successful endpoint = .ok response := by
    rw [Response.successful, hstatus]
    rfl
  rw [withdrawn_of_ne_notFound (by rw [hstatus]; decide), hsuccessful]
  rfl

/-- A refused request drops no node for the caller. -/
theorem withdrawn_ne_ok_true (hstatus : response.status.isClientError = true) :
    t.withdrawn endpoint (.answered response) ≠ .ok true := by
  by_cases hunknown : response.status = .notFound
  · rw [withdrawn_notFound hunknown]
    simp
  · rw [withdrawn_of_ne_notFound hunknown, Response.successful, if_pos hstatus]
    simp [Except.map]

/-- A withdrawal at a service is one request to delete what the path of the identifier names, and
it is answered. -/
theorem exists_withdraw_eq (t : Transport)
    (hendpoint : endpoint.toList = origin.chars ++ List.replicate slashes '/')
    (hserved : ServedBy s w endpoint service after)
    (hcontext : context.text.toList.all Request.isVisible = true) (id : NodeId) :
    ∃ request response, request.path = withdrawalPath id ∧
      RegistryService.Deleted service.registry request.path
        ((service.handle request).1.registry, response.status) ∧
      t.withdraw s context id w =
        (after (service.handle request).1, t.withdrawn endpoint (.answered response)) := by
  obtain ⟨next, hcurrent, hsend⟩ := hserved.exists_next
  have hresource : ("/v1/nodes/" ++ id.text).toList = '/' :: nodePart id := by
    rw [String.toList_append]
    rfl
  obtain ⟨url, hurl, hsegments⟩ := exists_address hendpoint hresource
  have hpath : (plain .delete context url).path = withdrawalPath id := by
    rw [path_plain, hsegments, withdrawalPath]
    · rw [hsegments, Url.segmentsOf_eq]
      exact Url.isPath_of_mem_resolve (by simp)
    · obtain ⟨last, hlast⟩ := Url.exists_getLast?_pieces (Url.located (nodePart id))
      obtain ⟨front, hresolve⟩ := Url.exists_resolve [] hlast
      rw [hsegments, Url.segmentsOf_eq, hresolve]
      simp
  have hsendable : (plain .delete context url).isSendable = true := by
    simpa [Request.isSendable, plain] using hcontext
  have hmethod : (plain .delete context url).method = .delete := rfl
  obtain ⟨response, hresponse, hdeleted⟩ := service.deleted_handle hmethod
  refine ⟨plain .delete context url, response, hpath, hdeleted, ?_⟩
  simp only [withdraw, hcurrent, Surroundings.ask, hurl, hsendable, if_true, hsend id url hurl,
    hresponse, Exchange.ofResponse?]
  rfl

/-- A withdrawal that a service answers drops the node of an addressable identifier and tells
whether there was one.  The node of any other identifier stays, and where the answer is that a node
was dropped, it was another one. -/
theorem withdraw_drops_addressable (t : Transport)
    (hendpoint : endpoint.toList = origin.chars ++ List.replicate slashes '/')
    (hserved : ServedBy s w endpoint service after)
    (hcontext : context.text.toList.all Request.isVisible = true) (id : NodeId) :
    ∃ later result, t.withdraw s context id w = (after later, result) ∧
      (Addressable id.text.toList →
        result = .ok (service.registry.contains id) ∧
        ∀ k, later.registry.get? k = if k = id then none else service.registry.get? k) ∧
      (¬Addressable id.text.toList →
        later.registry.get? id = service.registry.get? id) ∧
      (result = .ok true ∧ (∃ other, service.registry.contains other = true ∧
          later.registry = (service.registry.remove other).1) ∨
        result ≠ .ok true ∧ later.registry = service.registry) := by
  obtain ⟨request, response, hpath, hdeleted, hwithdraw⟩ :=
    exists_withdraw_eq t hendpoint hserved hcontext id
  refine ⟨_, _, hwithdraw, ?_⟩
  rw [hpath] at hdeleted
  rw [← names_withdrawalPath_iff]
  -- of what the service answers only the registry and the status matter
  generalize (service.handle request).1.registry = registry at hdeleted ⊢
  generalize hstatus : response.status = status at hdeleted
  cases hdeleted with
  | @dropped other hnamed hmember =>
      have hresult : t.withdrawn endpoint (.answered response) = .ok true :=
        withdrawn_noContent hstatus
      refine ⟨fun hself => ?_, fun hself => ?_, Or.inl ⟨hresult, other, hmember, rfl⟩⟩
      · obtain rfl := hself.unique hnamed
        exact ⟨by rw [hresult, hmember], Registry.get?_remove _ _⟩
      · have hother : id ≠ other := by
          rintro rfl
          exact hself hnamed
        rw [Registry.get?_remove, if_neg hother]
  | @unknown other hnamed hmember =>
      have hresult : t.withdrawn endpoint (.answered response) = .ok false :=
        withdrawn_notFound hstatus
      refine ⟨fun hself => ?_, fun _ => rfl, Or.inr ⟨by simp [hresult], rfl⟩⟩
      obtain rfl := hself.unique hnamed
      refine ⟨by rw [hresult, hmember], fun k => ?_⟩
      have hnone : service.registry.get? id = none := by
        simpa [Registry.contains_eq_isSome] using hmember
      split_ifs with hk
      · rw [hk, hnone]
      · rfl
  | refused hnamed hrefused =>
      have hclient : response.status.isClientError = true := by
        have hall : ∀ status ∈ [Status.notFound, .badRequest, .methodNotAllowed],
            status.isClientError = true := by decide
        exact hstatus ▸ hall _ hrefused
      exact ⟨fun hself => absurd hself (hnamed id), fun _ => rfl,
        Or.inr ⟨withdrawn_ne_ok_true hclient, rfl⟩⟩

end Withdrawals

/-! ## A service at one address -/

/-- A service that answers every request at one address. -/
def reachedAt (endpoint : String) : Surroundings RegistryService where
  current w := (w, some endpoint)
  report w _ := w
  send w _ request := ((w.handle request).1, .ofResponse? (w.handle request).2)
  now _ := .zero
  pause w _ := w
  jitter _ := .even

theorem servedBy_reachedAt (endpoint : String) (service : RegistryService) :
    ServedBy (reachedAt endpoint) service endpoint service id :=
  ⟨service, rfl, fun _ _ _ _ => rfl⟩

/-- The service of a registry with two nodes. -/
def serviceOf (first second : NodeId) : RegistryService where
  registry := (Registry.create {}).run
    [.pulse first (Registry.reportAt 0 4), .pulse second (Registry.reportAt 0 4)]

theorem contains_serviceOf {first second : NodeId} (hfirst : first.isEmpty = false)
    (hsecond : second.isEmpty = false)
    (hlisted : (Registry.create {}).joinPanics first (Registry.reportAt 0 4) = false)
    (hlisted' : ((Registry.create {}).pulse first (Registry.reportAt 0 4)).1.joinPanics second
      (Registry.reportAt 0 4) = false) (k : NodeId) :
    (serviceOf first second).registry.contains k = (k == second || k == first) := by
  have hnone : (Registry.create {}).contains k = false := rfl
  simp only [serviceOf, Registry.run, List.foldl_cons, List.foldl_nil, Registry.call,
    Registry.contains_pulse hfirst hlisted, Registry.contains_pulse hsecond hlisted', hnone,
    Bool.or_false]

theorem contains_eq_of_dropped {registry later : Registry} {id : NodeId}
    (hget : ∀ k, later.get? k = if k = id then none else registry.get? k) (k : NodeId) :
    later.contains k = (k != id && registry.contains k) := by
  rw [Registry.contains_eq_isSome, hget, Registry.contains_eq_isSome]
  split_ifs with hk
  · simp [hk]
  · simp [hk]

/-- The address `http://r`. -/
def plainOrigin : Url.Origin where
  scheme := ['h', 't', 't', 'p']
  host := ['r']
  isKnown := Or.inl rfl
  host_ne_nil := List.cons_ne_nil _ _
  isPlain := by simp [Url.isEdge, Url.endsAuthority, Url.isSlash]

/-- A blank in an identifier is encoded on the way and comes back. -/
theorem withdraw_drops_node_with_blank :
    let service := serviceOf ⟨"a"⟩ ⟨"a b"⟩
    let answer := Transport.withdraw ⟨"registry", {}⟩ (reachedAt "http://r/") (.generated 0)
      ⟨"a b"⟩ service
    Addressable "a b".toList ∧ answer.2 = .ok true ∧
      answer.1.registry.contains ⟨"a b"⟩ = false ∧ answer.1.registry.contains ⟨"a"⟩ = true := by
  intro service answer
  have hmember (k : NodeId) : service.registry.contains k = (k == ⟨"a b"⟩ || k == ⟨"a"⟩) :=
    contains_serviceOf rfl rfl (by decide +kernel) (by decide +kernel) k
  have haddressable : Addressable "a b".toList := by
    change Addressable ['a', ' ', 'b']
    refine ⟨by simp, by simp, by simp, ?_, by simp⟩
    rintro ⟨a, b, -, -, hwithin⟩
    exact absurd (hwithin.subset List.mem_cons_self) (by simp)
  have hendpoint : "http://r/".toList = plainOrigin.chars ++ List.replicate 1 '/' := rfl
  have hcontext : (RequestContext.generated 0).text.toList.all Request.isVisible = true := by
    decide +kernel
  obtain ⟨later, result, hanswer, hdropped, -, -⟩ :=
    withdraw_drops_addressable ⟨"registry", {}⟩ hendpoint (servedBy_reachedAt "http://r/" service)
      hcontext ⟨"a b"⟩
  obtain ⟨hresult, hget⟩ := hdropped haddressable
  have hcontains := contains_eq_of_dropped hget
  rw [show answer = (later, result) from hanswer, hresult, hcontains, hcontains, hmember, hmember]
  exact ⟨haddressable, rfl, rfl, rfl⟩

/-- An identifier is cut at a question mark on the way.  A node is dropped in place of the one that
was to be withdrawn, and the answer is that this one was dropped. -/
theorem withdraw_drops_another_node :
    let service := serviceOf ⟨"a"⟩ ⟨"a?b"⟩
    let answer := Transport.withdraw ⟨"registry", {}⟩ (reachedAt "http://r") (.generated 0)
      ⟨"a?b"⟩ service
    service.registry.contains ⟨"a?b"⟩ = true ∧ answer.2 = .ok true ∧
      answer.1.registry.contains ⟨"a?b"⟩ = true ∧ answer.1.registry.contains ⟨"a"⟩ = false := by
  intro service answer
  have hmember (k : NodeId) : service.registry.contains k = (k == ⟨"a?b"⟩ || k == ⟨"a"⟩) :=
    contains_serviceOf rfl rfl (by decide +kernel) (by decide +kernel) k
  have hendpoint : "http://r".toList = plainOrigin.chars ++ List.replicate 0 '/' := rfl
  have hcontext : (RequestContext.generated 0).text.toList.all Request.isVisible = true := by
    decide +kernel
  obtain ⟨request, response, hpath, hdeleted, hanswer⟩ :=
    exists_withdraw_eq ⟨"registry", {}⟩ hendpoint (servedBy_reachedAt "http://r" service) hcontext
      ⟨"a?b"⟩
  have hnamed : RegistryService.Names request.path ⟨"a"⟩ := by
    rw [hpath]
    exact ⟨['a'], by decide +kernel, by decide +kernel⟩
  have hdeleted := hdeleted.eq_of_names hnamed
  have hget := Registry.get?_remove service.registry ⟨"a"⟩
  rw [if_pos (by rw [hmember]; rfl), Prod.mk.injEq] at hdeleted
  rw [← hdeleted.1] at hget
  have hcontains := contains_eq_of_dropped hget
  rw [show answer = _ from hanswer, withdrawn_noContent hdeleted.2]
  refine ⟨by rw [hmember]; rfl, rfl, ?_, ?_⟩
  · exact (hcontains ⟨"a?b"⟩).trans (by rw [hmember]; rfl)
  · exact hcontains ⟨"a"⟩

end Transport
end CacheTier
