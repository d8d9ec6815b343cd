import CacheTier.Proofs.Url.Percent
import CacheTier.Url

/-!
# Paths below a host

What comes of a text that is put at the end of an address.  The characters at its end and within
it that do not count are dropped, and what follows a question mark or a number sign is no part of
the path.  The rest is cut at its slashes, and the last piece becomes the last segment, unless it
stands for a place of its own.
-/

namespace CacheTier
namespace Url

variable {front cs rest segment : List Char} {c : Char}

/-! ## Characters that count -/

/-- The characters that count of a text at the end of an address. -/
def kept (cs : List Char) : List Char :=
  (cs.reverse.dropWhile isEdge).reverse.filter (!isIgnored ·)

/-- The characters of a text at the end of an address that belong to the path. -/
def located (cs : List Char) : List Char := (kept cs).takeWhile fun c => c != '?' && c != '#'

theorem dropWhile_isEdge_reverse_iff :
    cs.reverse.dropWhile isEdge = cs.reverse ↔ ∀ c, cs.getLast? = some c → isEdge c = false := by
  rcases List.eq_nil_or_concat' cs with rfl | ⟨initial, c, rfl⟩
  · simp
  · rw [List.reverse_concat, List.dropWhile_eq_self_iff]
    simp

theorem kept_append (hlast : ∀ c, front.getLast? = some c → isEdge c = false)
    (hcounts : ∀ c ∈ front, isIgnored c = false) (cs : List Char) :
    kept (front ++ cs) = front ++ kept cs := by
  have hstop : front.reverse.dropWhile isEdge = front.reverse :=
    dropWhile_isEdge_reverse_iff.mpr hlast
  have hdrop : (front ++ cs).reverse.dropWhile isEdge =
      cs.reverse.dropWhile isEdge ++ front.reverse := by
    rw [List.reverse_append, List.dropWhile_append, hstop]
    split_ifs with hempty
    · rw [List.isEmpty_iff.mp hempty, List.nil_append]
    · rfl
  rw [kept, hdrop, List.reverse_append, List.reverse_reverse, List.filter_append, kept]
  congr 1
  exact List.filter_eq_self.mpr fun c hc => by simp [hcounts c hc]

theorem located_append (hlast : ∀ c, front.getLast? = some c → isEdge c = false)
    (hpath : ∀ c ∈ front, isIgnored c = false ∧ c ≠ '?' ∧ c ≠ '#') (cs : List Char) :
    located (front ++ cs) = front ++ located cs := by
  rw [located, kept_append hlast fun c hc => (hpath c hc).1]
  exact List.takeWhile_append_of_pos fun c hc => by simpa using (hpath c hc).2

theorem kept_sublist (cs : List Char) : (kept cs).Sublist cs := by
  refine List.filter_sublist.trans ?_
  rw [← List.reverse_sublist, List.reverse_reverse]
  exact List.dropWhile_sublist _

theorem located_sublist (cs : List Char) : (located cs).Sublist cs :=
  (List.takeWhile_sublist _).trans (kept_sublist cs)

theorem kept_eq_self_iff : kept cs = cs ↔
    (∀ c ∈ cs, isIgnored c = false) ∧ ∀ c, cs.getLast? = some c → isEdge c = false := by
  rw [← dropWhile_isEdge_reverse_iff, kept]
  constructor
  · intro heq
    have htrimmed : (cs.reverse.dropWhile isEdge).reverse = cs := by
      refine List.Sublist.antisymm ?_ ?_
      · rw [← List.reverse_sublist, List.reverse_reverse]
        exact List.dropWhile_sublist _
      · have hfiltered := List.filter_sublist (p := (!isIgnored ·))
          (l := (cs.reverse.dropWhile isEdge).reverse)
        rwa [heq] at hfiltered
    rw [htrimmed, List.filter_eq_self] at heq
    refine ⟨fun c hc => by simpa using heq c hc, ?_⟩
    rw [← List.reverse_inj, List.reverse_reverse, htrimmed]
  · rintro ⟨hcounts, htrimmed⟩
    rw [htrimmed, List.reverse_reverse, List.filter_eq_self]
    exact fun c hc => by simp [hcounts c hc]

/-- A text belongs to the path as it is exactly if all of its characters count, none ends the
path, and the last one is not dropped. -/
theorem located_eq_self_iff : located cs = cs ↔
    (∀ c ∈ cs, isIgnored c = false ∧ c ≠ '?' ∧ c ≠ '#') ∧
      ∀ c, cs.getLast? = some c → isEdge c = false := by
  have hiff : located cs = cs ↔ kept cs = cs ∧ ∀ c ∈ cs, c ≠ '?' ∧ c ≠ '#' := by
    constructor
    · intro heq
      have hkept : kept cs = cs := by
        refine (kept_sublist cs).antisymm ?_
        conv_lhs => rw [← heq]
        exact List.takeWhile_sublist _
      rw [located, hkept, List.takeWhile_eq_self_iff] at heq
      exact ⟨hkept, fun c hc => by simpa using heq c hc⟩
    · rintro ⟨hkept, hpath⟩
      rw [located, hkept, List.takeWhile_eq_self_iff]
      exact fun c hc => by simpa using hpath c hc
  rw [hiff, kept_eq_self_iff]
  constructor
  · rintro ⟨⟨hcounts, hlast⟩, hpath⟩
    exact ⟨fun c hc => ⟨hcounts c hc, hpath c hc⟩, hlast⟩
  · rintro ⟨hall, hlast⟩
    exact ⟨⟨fun c hc => (hall c hc).1, hlast⟩, fun c hc => (hall c hc).2⟩

/-! ## Addresses of hosts -/

/-- The scheme and the host of an address. -/
structure Origin where
  scheme : List Char
  host : List Char
  isKnown : scheme = ['h', 't', 't', 'p'] ∨ scheme = ['h', 't', 't', 'p', 's']
  host_ne_nil : host ≠ []
  isPlain : ∀ c ∈ host, isEdge c = false ∧ endsAuthority c = false

namespace Origin

variable (origin : Origin)

/-- The characters of the address without a path. -/
def chars : List Char := origin.scheme ++ ':' :: '/' :: '/' :: origin.host

theorem isIgnored_eq_false_of_not_isEdge (hc : isEdge c = false) : isIgnored c = false := by
  have hlarge : ¬c.toNat ≤ 0x20 := by simpa [isEdge] using hc
  simp only [isIgnored, Bool.or_eq_false_iff, beq_eq_false_iff_ne]
  refine ⟨⟨?_, ?_⟩, ?_⟩
  · rintro rfl
    exact hlarge (by decide)
  · rintro rfl
    exact hlarge (by decide)
  · rintro rfl
    exact hlarge (by decide)

theorem isEdge_of_mem_chars (hc : c ∈ origin.chars) : isEdge c = false := by
  have hscheme : ∀ c ∈ origin.scheme ++ [':', '/', '/'], isEdge c = false := by
    rcases origin.isKnown with h | h
    · simp [h, isEdge]
    · simp [h, isEdge]
  have hsplit : origin.chars = (origin.scheme ++ [':', '/', '/']) ++ origin.host := by
    rw [chars, List.append_assoc]
    rfl
  rw [hsplit, List.mem_append] at hc
  rcases hc with hc | hc
  · exact hscheme c hc
  · exact (origin.isPlain c hc).1

/-- The address of a host does not end in a slash. -/
theorem dropWhile_slash_reverse_chars :
    origin.chars.reverse.dropWhile (· == '/') = origin.chars.reverse := by
  obtain ⟨initial, c, hhost⟩ :=
    (List.eq_nil_or_concat' origin.host).resolve_left origin.host_ne_nil
  have hc : c ≠ '/' := by
    have hend := (origin.isPlain c (by simp [hhost])).2
    rintro rfl
    exact absurd hend (by decide)
  rw [chars, hhost, ← List.cons_append, ← List.cons_append, ← List.cons_append, ← List.append_assoc,
    List.reverse_concat, List.dropWhile_cons_of_neg (by simpa using hc)]

/-- The characters that count of an address with a path. -/
theorem essence_chars (path : List Char) :
    essence (origin.chars ++ '/' :: path) = origin.chars ++ '/' :: kept path := by
  have hedge : ∀ c ∈ origin.chars ++ ['/'], isEdge c = false := by
    intro c hc
    rcases List.mem_append.mp hc with hc | hc
    · exact origin.isEdge_of_mem_chars hc
    · rw [List.mem_singleton.mp hc]
      decide
  have hkept : kept ((origin.chars ++ ['/']) ++ path) = (origin.chars ++ ['/']) ++ kept path :=
    kept_append (fun c hc => hedge c (List.mem_of_getLast? hc))
      (fun c hc => isIgnored_eq_false_of_not_isEdge (hedge c hc)) path
  have hhead : (origin.chars ++ '/' :: path).dropWhile isEdge = origin.chars ++ '/' :: path := by
    rw [List.dropWhile_eq_self_iff]
    intro hlength
    rw [Bool.not_eq_true]
    refine hedge _ ?_
    have hne : origin.chars ≠ [] := by simp [chars]
    rw [List.getElem_append_left (List.length_pos_of_ne_nil hne)]
    exact List.mem_append_left _ (List.getElem_mem _)
  rw [List.append_assoc, List.append_assoc] at hkept
  rw [essence, hhead]
  exact hkept

theorem exists_scheme? (rest : List Char) :
    ∃ name, scheme? (origin.chars ++ rest) = some (name, '/' :: '/' :: (origin.host ++ rest)) := by
  have hspan : (origin.chars ++ rest).span (· != ':') =
      (origin.scheme, ':' :: '/' :: '/' :: (origin.host ++ rest)) := by
    rw [chars, List.append_assoc, List.span_eq_takeWhile_dropWhile]
    rcases origin.isKnown with h | h
    · simp [h]
    · simp [h]
  have hname : ((String.ofList origin.scheme).map Char.toLower == "http" ||
      (String.ofList origin.scheme).map Char.toLower == "https") = true := by
    rcases origin.isKnown with h | h
    · rw [h]
      decide +kernel
    · rw [h]
      decide +kernel
  rw [scheme?, hspan]
  exact ⟨_, if_pos hname⟩

/-- The address of a path below the host. -/
theorem ofText?_chars (path : List Char) :
    ∃ url, ofText? (String.ofList (origin.chars ++ '/' :: path)) = some url ∧
      url.segments = segmentsOf (located path) := by
  have hends : ∀ c ∈ origin.host, endsAuthority c = false := fun c hc => (origin.isPlain c hc).2
  have hhost : ('/' :: '/' :: (origin.host ++ '/' :: kept path)).dropWhile isSlash =
      origin.host ++ '/' :: kept path := by
    obtain ⟨first, others, hcons⟩ := List.exists_cons_of_ne_nil origin.host_ne_nil
    have hfirst : isSlash first = false := by
      have hend := hends first (by rw [hcons]; exact List.mem_cons_self)
      rw [endsAuthority, Bool.or_eq_false_iff, Bool.or_eq_false_iff] at hend
      exact hend.1.1
    rw [hcons, List.dropWhile_cons_of_pos (by decide), List.dropWhile_cons_of_pos (by decide),
      List.cons_append, List.dropWhile_cons_of_neg (by simp [hfirst])]
  have hspan : (origin.host ++ '/' :: kept path).span (fun c => !endsAuthority c) =
      (origin.host, '/' :: kept path) := by
    have hall : ∀ c ∈ origin.host, (!endsAuthority c) = true := fun c hc => by simp [hends c hc]
    rw [List.span_eq_takeWhile_dropWhile, List.takeWhile_append_of_pos hall,
      List.dropWhile_append_of_pos hall, List.takeWhile_cons_of_neg (by decide),
      List.dropWhile_cons_of_neg (by decide), List.append_nil]
  have hpath : ('/' :: kept path).span (fun c => c != '?' && c != '#') =
      ('/' :: located path, (kept path).dropWhile fun c => c != '?' && c != '#') := by
    rw [List.span_eq_takeWhile_dropWhile, List.takeWhile_cons_of_pos (by decide),
      List.dropWhile_cons_of_pos (by decide), located]
  obtain ⟨name, hname⟩ := origin.exists_scheme? ('/' :: kept path)
  rw [ofText?, String.toList_ofList, essence_chars, hname]
  simp only [Option.bind_eq_bind, Option.bind_some, hhost, hspan, hpath]
  rw [if_neg (by simpa using origin.host_ne_nil)]
  exact ⟨_, rfl, rfl⟩

end Origin

/-! ## Segments -/

/-- The pieces of a path between its slashes. -/
def pieces (path : List Char) : List (List Char) :=
  (path.map fun c => if c == '\\' then '/' else c).splitOn '/'

theorem segmentsOf_eq (path : List Char) : segmentsOf path = resolve [] (pieces path) := rfl

theorem pieces_of_no_slash (hfront : ∀ c ∈ front, isSlash c = false) : pieces front = [front] := by
  have hnot (c : Char) (hc : c ∈ front) : c ≠ '/' ∧ c ≠ '\\' := by
    simpa [isSlash] using hfront c hc
  have hsame : front.map (fun c => if c == '\\' then '/' else c) = front := by
    refine (List.map_congr_left fun c hc => ?_).trans (List.map_id front)
    exact if_neg (by simpa using (hnot c hc).2)
  rw [pieces, hsame]
  exact List.splitOnP_eq_singleton fun c hc => by simpa using (hnot c hc).1

theorem pieces_append (front rest : List Char) (hc : isSlash c = true) :
    pieces (front ++ c :: rest) = pieces front ++ pieces rest := by
  have hmapped : (if c == '\\' then '/' else c) = '/' := by
    rw [isSlash, Bool.or_eq_true, beq_iff_eq, beq_iff_eq] at hc
    rcases hc with rfl | rfl
    · rfl
    · rfl
  rw [pieces, List.map_append, List.map_cons, hmapped]
  exact List.splitOnP_append_cons _ _ (by simp)

theorem pieces_ne_nil (path : List Char) : pieces path ≠ [] := List.splitOnP_ne_nil _ _

theorem exists_getLast?_pieces (path : List Char) : ∃ last, (pieces path).getLast? = some last :=
  ⟨_, List.getLast?_eq_some_getLast (pieces_ne_nil path)⟩

/-- The last piece is all of the path, or has fewer bytes. -/
theorem last_piece {path last : List Char} (hlast : (pieces path).getLast? = some last) :
    (∀ c ∈ last, isSlash c = false) ∧
      (last = path ∨ (encodeChars last).length < (encodeChars path).length) := by
  induction hlength : path.length using Nat.strongRecOn generalizing path with
  | ind size ih =>
      by_cases hslash : ∃ c ∈ path, isSlash c = true
      · obtain ⟨c, hmem, hc⟩ := hslash
        obtain ⟨front, rest, rfl⟩ := List.append_of_mem hmem
        obtain ⟨final, hfinal⟩ := exists_getLast?_pieces rest
        rw [pieces_append front rest hc, List.getLast?_append, hfinal, Option.some_or,
          Option.some.injEq] at hlast
        subst hlast
        obtain ⟨hnone, hfewer⟩ := ih rest.length (by simp at hlength; omega) hfinal rfl
        have hpositive : 0 < (String.utf8EncodeChar c).length := by
          rw [String.length_utf8EncodeChar]
          exact c.utf8Size_pos
        have hrest : (encodeChars rest).length < (encodeChars (front ++ c :: rest)).length := by
          rw [encodeChars_append, encodeChars_cons, List.length_append, List.length_append]
          omega
        refine ⟨hnone, Or.inr ?_⟩
        rcases hfewer with rfl | hfewer
        · exact hrest
        · exact hfewer.trans hrest
      · have hnone : ∀ c ∈ path, isSlash c = false := fun c hc =>
          Bool.eq_false_iff.mpr fun htrue => hslash ⟨c, hc, htrue⟩
        rw [pieces_of_no_slash hnone, List.getLast?_singleton, Option.some.injEq] at hlast
        exact ⟨hlast ▸ hnone, Or.inl hlast.symm⟩

/-- A segment stands for a place of its own. -/
def isPlace (segment : List Char) : Bool := isAbove segment || isHere segment

/-- The last segment is the last piece in its encoded form, or empty if that stands for a place of
its own. -/
theorem exists_resolve (path : List String) {parts : List (List Char)} {last : List Char}
    (hlast : parts.getLast? = some last) :
    ∃ front, resolve path parts = front ++
      [if isPlace last then "" else String.ofList (Percent.encode isPathPlain last)] := by
  fun_induction resolve path parts with
  | case1 path => simp at hlast
  | case2 path segment habove =>
      obtain rfl : segment = last := by simpa using hlast
      exact ⟨path.dropLast, by simp [isPlace, habove]⟩
  | case3 path segment habove hhere =>
      obtain rfl : segment = last := by simpa using hlast
      exact ⟨path, by simp [isPlace, hhere]⟩
  | case4 path segment habove hhere =>
      obtain rfl : segment = last := by simpa using hlast
      exact ⟨path, by simp [isPlace, habove, hhere]⟩
  | case5 path segment next rest habove ih => exact ih (by simpa using hlast)
  | case6 path segment next rest habove hhere ih => exact ih (by simpa using hlast)
  | case7 path segment next rest habove hhere ih => exact ih (by simpa using hlast)

/-- Without escapes only one or two dots stand for a place of their own. -/
theorem isPlace_iff_of_not_hasEscape (hcs : ¬Percent.HasEscape cs) :
    isPlace cs = true ↔ cs = ['.'] ∨ cs = ['.', '.'] := by
  have hdot {cs rest : List Char} (hcs : ¬Percent.HasEscape cs) :
      afterDot? cs = some rest ↔ cs = '.' :: rest := by
    have hnot (b : Char) (later : List Char) (hb : Percent.isHexDigit b = true) :
        cs ≠ '%' :: '2' :: b :: later := by
      rintro rfl
      exact hcs ⟨'2', b, by decide, hb, (List.prefix_append ['%', '2', b] later).isInfix⟩
    rw [afterDot?.eq_def]
    split
    · simp
    · exact absurd rfl (hnot 'e' _ (by decide))
    · exact absurd rfl (hnot 'E' _ (by decide))
    · rename_i hother _ _
      exact iff_of_false (Option.some_ne_none rest).symm (hother rest)
  have hrest {rest : List Char} (h : cs = '.' :: rest) : ¬Percent.HasEscape rest := by
    rintro ⟨a, b, ha, hb, hwithin⟩
    exact hcs ⟨a, b, ha, hb, h ▸ List.infix_cons hwithin⟩
  have habove : isAbove cs = true ↔ cs = ['.', '.'] := by
    rw [isAbove, beq_iff_eq, Option.bind_eq_some_iff]
    constructor
    · rintro ⟨rest, hfirst, hsecond⟩
      have hfront := (hdot hcs).mp hfirst
      rw [hfront, (hdot (hrest hfront)).mp hsecond]
    · rintro rfl
      exact ⟨['.'], rfl, rfl⟩
  rw [isPlace, Bool.or_eq_true, habove, isHere, beq_iff_eq, hdot hcs, or_comm]

/-- A segment that is no place of its own comes next, unless it is the last one. -/
theorem resolve_cons (path : List String) (hplace : isPlace segment = false)
    {parts : List (List Char)} (hne : parts ≠ []) :
    resolve path (segment :: parts) =
      resolve (path ++ [String.ofList (Percent.encode isPathPlain segment)]) parts := by
  obtain ⟨habove, hhere⟩ := Bool.or_eq_false_iff.mp hplace
  obtain ⟨next, rest, rfl⟩ := List.exists_cons_of_ne_nil hne
  rw [resolve, if_neg (by simp [habove]), if_neg (by simp [hhere])]

/-! ## Characters of paths -/

theorem isPathPlain_percent : isPathPlain '%' = true := by decide +kernel

theorem isPathPlain_of_isHexDigit (hc : Percent.isHexDigit c = true) : isPathPlain c = true := by
  have hall : ∀ n < 0x80, Percent.isHexDigit (Char.ofNat n) = true →
      isPathPlain (Char.ofNat n) = true := by decide +kernel
  have hplain := hall c.toNat (Percent.isAscii_of_isHexDigit hc)
  rw [Char.ofNat_toNat] at hplain
  exact hplain hc

/-- No slash comes of encoding a segment that has none. -/
theorem slash_not_mem_encode (hsegment : ∀ c ∈ segment, isSlash c = false) :
    '/' ∉ Percent.encode isPathPlain segment := by
  intro hmem
  rcases Percent.mem_encode hmem with ⟨hmem, -⟩ | hpercent | hdigit
  · exact absurd (hsegment '/' hmem) (by decide)
  · exact absurd hpercent (by decide)
  · exact absurd hdigit (by decide)

/-- All characters of a text may stand in a path. -/
def IsPath (text : String) : Prop := ∀ c ∈ text.toList, isPathPlain c = true

theorem isPath_encode (segment : List Char) :
    IsPath (String.ofList (Percent.encode isPathPlain segment)) := by
  intro c hc
  rw [String.toList_ofList] at hc
  rcases Percent.mem_encode hc with ⟨-, hplain⟩ | rfl | hdigit
  · exact hplain
  · exact isPathPlain_percent
  · exact isPathPlain_of_isHexDigit hdigit

theorem isPath_of_mem_resolve {path : List String} {parts : List (List Char)}
    (hpath : ∀ text ∈ path, IsPath text) : ∀ text ∈ resolve path parts, IsPath text := by
  have hempty : IsPath "" := by simp [IsPath]
  have hshorter {path : List String} (h : ∀ text ∈ path, IsPath text) :
      ∀ text ∈ path.dropLast, IsPath text := fun text ht => h text (List.mem_of_mem_dropLast ht)
  have hlonger {path : List String} {text : String} (h : ∀ text ∈ path, IsPath text)
      (htext : IsPath text) : ∀ other ∈ path ++ [text], IsPath other := by
    intro other hother
    rcases List.mem_append.mp hother with hother | hother
    · exact h other hother
    · exact List.mem_singleton.mp hother ▸ htext
  fun_induction resolve path parts with
  | case1 path => exact hpath
  | case2 path segment habove => exact hlonger (hshorter hpath) hempty
  | case3 path segment habove hhere => exact hlonger hpath hempty
  | case4 path segment habove hhere => exact hlonger hpath (isPath_encode segment)
  | case5 path segment next rest habove ih => exact ih (hshorter hpath)
  | case6 path segment next rest habove hhere ih => exact ih hpath
  | case7 path segment next rest habove hhere ih => exact ih (hlonger hpath (isPath_encode segment))

theorem ne_of_isPathPlain (hc : isPathPlain c = true) : c ≠ '#' ∧ c ≠ '?' := by
  constructor
  · rintro rfl
    exact absurd hc (by decide +kernel)
  · rintro rfl
    exact absurd hc (by decide +kernel)

/-! ## Targets -/

/-- The path of segments, each after a slash. -/
def pathOf (segments : List String) : List Char := segments.flatMap fun text => '/' :: text.toList

theorem cons_intercalate {parts : List (List Char)} (hne : parts ≠ []) :
    '/' :: ['/'].intercalate parts = parts.flatMap ('/' :: ·) := by
  induction parts with
  | nil => exact absurd rfl hne
  | cons first rest ih =>
      cases rest with
      | nil => simp
      | cons second rest =>
          rw [List.intercalate_cons_cons, List.flatMap_cons, ← ih (List.cons_ne_nil _ _)]
          simp

/-- A target is the path of the segments, and then a question mark and the query if there is
one. -/
theorem exists_target {url : Url} (hne : url.segments ≠ []) : ∃ query,
    url.target.toList = pathOf url.segments ++ query ∧ ∀ c, query.head? = some c → c = '?' := by
  have hparts : '/' :: ['/'].intercalate (url.segments.map String.toList) = pathOf url.segments := by
    rw [cons_intercalate (by simpa using hne), List.flatMap_map, pathOf]
  rw [← hparts, target]
  cases url.query with
  | none => exact ⟨[], by simp, by simp⟩
  | some query => exact ⟨'?' :: query.toList, by simp, by simp⟩

theorem isPathPlain_of_mem_pathOf {segments : List String} (hpath : ∀ text ∈ segments, IsPath text)
    (hc : c ∈ pathOf segments) : isPathPlain c = true := by
  obtain ⟨text, htext, hc⟩ := List.mem_flatMap.mp hc
  rcases List.mem_cons.mp hc with rfl | hc
  · decide +kernel
  · exact hpath text htext c hc

end Url
end CacheTier
