import CacheTier.Json.Reading
import CacheTier.Proofs.Json.Numerals
import CacheTier.Proofs.Json.Strings

/-!
# Documents and their trees

The text of a document is parsed to the tree of the document, whatever text follows it.  The
floats of the document are assumed to be read back from their own texts.
-/

namespace CacheTier
namespace Json

/-! ## Floats -/

/-- The text of a float is read as the float. -/
def FloatReadsBack (x : Float) : Prop :=
  readAll Value.readFloat (floatText x).toList = .ok x

section Floats

variable {c : Char} {x : Float}

theorem isSpace_of_isDigit (h : c.isDigit = true) : isSpace c = false := by
  rw [← Bool.not_eq_true]
  intro hspace
  simp only [isSpace, Bool.or_eq_true, beq_iff_eq] at hspace
  rcases hspace with ((rfl | rfl) | rfl) | rfl
  all_goals exact absurd h (by decide)

theorem isSpace_of_all {cs : List Char} (h : cs.all (fun c => !isSpace c) = true) (c : Char)
    (hc : c ∈ cs) : isSpace c = false := by
  simpa using List.all_eq_true.mp h c hc

theorem isSpace_of_mem_digitsOf {n : Nat} (h : c ∈ Decimal.digitsOf n) : isSpace c = false := by
  rw [Decimal.digitsOf, show (toString n).toList = Nat.toDigits 10 n from Nat.toList_repr] at h
  exact isSpace_of_isDigit (Nat.isDigit_of_mem_toDigits (by decide) (by decide) h)

theorem isSpace_of_mem_positional {s : Decimal.Scientific}
    (h : c ∈ (Decimal.positional s ".0").toList) : isSpace c = false := by
  have hfraction : ∀ c ∈ (".0" : String).toList, isSpace c = false := isSpace_of_all rfl
  have hzero : ∀ c ∈ ("0." : String).toList, isSpace c = false := isSpace_of_all rfl
  simp only [Decimal.positional] at h
  split_ifs at h
  · rw [String.toList_append, String.toList_ofList, List.mem_append, List.mem_append] at h
    rcases h with (h | h) | h
    · exact isSpace_of_mem_digitsOf h
    · rw [List.eq_of_mem_replicate h]
      rfl
    · exact hfraction c h
  · rw [String.toList_ofList, List.mem_append, List.mem_cons] at h
    rcases h with h | rfl | h
    · exact isSpace_of_mem_digitsOf (List.mem_of_mem_take h)
    · rfl
    · exact isSpace_of_mem_digitsOf (List.mem_of_mem_drop h)
  · rw [String.toList_append, List.mem_append, String.toList_ofList (l := _ ++ _),
      List.mem_append] at h
    rcases h with h | h | h
    · exact hzero c h
    · rw [List.eq_of_mem_replicate h]
      rfl
    · exact isSpace_of_mem_digitsOf h

theorem isSpace_of_mem_exponential {s : Decimal.Scientific}
    (h : c ∈ (Decimal.exponential s).toList) : isSpace c = false := by
  have hmark : ∀ c ∈ ("e" : String).toList, isSpace c = false := isSpace_of_all rfl
  have hminus : ∀ c ∈ ("-" : String).toList, isSpace c = false := isSpace_of_all rfl
  have hplus : ∀ c ∈ ("+" : String).toList, isSpace c = false := isSpace_of_all rfl
  have hdigits : ∀ c ∈ Decimal.digitsOf s.digits, isSpace c = false :=
    fun c hc => isSpace_of_mem_digitsOf hc
  simp only [Decimal.exponential] at h
  rw [String.toList_append, String.toList_append, String.toList_append, String.toList_ofList,
    List.mem_append, List.mem_append, List.mem_append] at h
  rcases h with ((h | h) | h) | h
  · generalize Decimal.digitsOf s.digits = digits at h hdigits
    rcases digits with _ | ⟨d, _ | ⟨e, more⟩⟩
    · rw [List.mem_singleton.mp h]
      rfl
    · exact hdigits c h
    · rcases List.mem_cons.mp h with rfl | h
      · exact hdigits _ List.mem_cons_self
      · rcases List.mem_cons.mp h with rfl | h
        · rfl
        · exact hdigits c (List.mem_cons_of_mem d h)
  · exact hmark c h
  · split_ifs at h
    · exact hminus c h
    · exact hplus c h
  · exact isSpace_of_mem_digitsOf h

theorem isSpace_of_mem_floatText (h : c ∈ (floatText x).toList) : isSpace c = false := by
  have hnull : ∀ c ∈ ("null" : String).toList, isSpace c = false := isSpace_of_all rfl
  have hsign : ∀ b : Bool, ∀ c ∈ (if b then "-" else "" : String).toList, isSpace c = false := by
    rintro (_ | _)
    · exact isSpace_of_all rfl
    · exact isSpace_of_all rfl
  simp only [floatText] at h
  by_cases hfinite : (x.isNaN || x.isInf) = true
  · rw [if_pos hfinite] at h
    exact hnull c h
  · rw [if_neg hfinite, String.toList_append, List.mem_append] at h
    rcases h with h | h
    · exact hsign _ c h
    · split_ifs at h
      · exact isSpace_of_mem_positional h
      · exact isSpace_of_mem_exponential h

end Floats

/-! ## Trees -/

/-- The numeral that the text of a float begins with. -/
def floatNumeral (x : Float) : Numeral :=
  ((numeral? (floatText x).toList).map Prod.fst).getD ⟨false, [], [], none⟩

mutual

/-- The tree that the text of a document is parsed to. -/
def Doc.tree : Doc → Value
  | .null => .null
  | .bool b => .bool b
  | .int n => .number (.ofInt n)
  | .float x => .number (floatNumeral x)
  | .text s => .text (some s)
  | .array items => .array (trees items) true
  | .object fields => .object (fieldTrees fields) true

def trees : List Doc → List Value
  | [] => []
  | x :: xs => x.tree :: trees xs

def fieldTrees : List (String × Doc) → List (Option String × Value)
  | [] => []
  | (key, x) :: rest => (some key, x.tree) :: fieldTrees rest

end

mutual

/-- The floats in a document. -/
def Doc.floats : Doc → List Float
  | .float x => [x]
  | .array items => itemFloats items
  | .object fields => fieldFloats fields
  | _ => []

def itemFloats : List Doc → List Float
  | [] => []
  | x :: xs => x.floats ++ itemFloats xs

def fieldFloats : List (String × Doc) → List Float
  | [] => []
  | (_, x) :: rest => x.floats ++ fieldFloats rest

end

/-! ## Parsing -/

section Parsing

variable {c : Char} {cs rest : List Char} {fuel : Nat} {n : Numeral} {x : Float}

theorem skipSpace_cons (h : isSpace c = false) : skipSpace (c :: cs) = c :: cs :=
  List.dropWhile_cons_of_neg (by simp [h])

theorem value_of_numeral? (h : numeral? cs = some (n, rest)) :
    value (fuel + 1) cs = (.number n, rest) := by
  cases cs with
  | nil => cases h
  | cons c cs =>
      have hhead := numeral?_head h
      have hspace : isSpace c = false := by
        rcases hhead with rfl | hdigit
        · rfl
        · exact isSpace_of_isDigit hdigit
      rw [value.eq_def]
      simp only [skipSpace_cons hspace]
      split
      case h_1 heq => cases heq
      case h_8 => rw [h]
      all_goals
        next heq =>
          cases heq
          exact absurd hhead (by decide)

/-- A number is all that is read as a float. -/
theorem numeral?_of_readFloat (hspace : skipSpace cs = cs) {v : Value}
    (hvalue : value (fuel + 1) cs = (v, rest)) (hread : v.readFloat = .ok x) :
    ∃ n, numeral? cs = some (n, rest) ∧ v = .number n := by
  rw [value.eq_def] at hvalue
  simp only [hspace] at hvalue
  have hnumber : ∃ n, v = .number n := by
    cases v with
    | number n => exact ⟨n, rfl⟩
    | text s => cases s <;> cases hread
    | null => cases hread
    | bool b => cases hread
    | array items closed => cases hread
    | object fields closed => cases hread
    | torn => cases hread
  obtain ⟨n, rfl⟩ := hnumber
  have hword : ∀ v tail cs, (∀ n, v ≠ .number n) → word v tail cs ≠ (.number n, rest) := by
    intro v tail cs hother heq
    rw [word] at heq
    split_ifs at heq
    · exact hother n (Prod.mk.inj heq).1
    · cases heq
  split at hvalue
  · cases hvalue
  · exact absurd hvalue (hword _ _ _ nofun)
  · exact absurd hvalue (hword _ _ _ nofun)
  · exact absurd hvalue (hword _ _ _ nofun)
  · split at hvalue
    · cases hvalue
    · cases hvalue
  · split at hvalue
    · cases hvalue
    · cases hvalue
  · split at hvalue
    · cases hvalue
    · cases hvalue
  · split at hvalue
    · next hnumeral =>
        cases hvalue
        exact ⟨n, hnumeral, rfl⟩
    · cases hvalue

theorem FloatReadsBack.numeral?_eq (h : FloatReadsBack x) :
    numeral? (floatText x).toList = some (floatNumeral x, []) ∧
      (Value.number (floatNumeral x)).readFloat = .ok x := by
  have hnone : ∀ c ∈ (floatText x).toList, isSpace c = false := fun c hc =>
    isSpace_of_mem_floatText hc
  have hspace : skipSpace (floatText x).toList = (floatText x).toList := by
    cases htext : (floatText x).toList with
    | nil => rfl
    | cons c cs => exact skipSpace_cons (hnone c (by rw [htext]; exact List.mem_cons_self))
  rw [FloatReadsBack, readAll] at h
  rcases hparse : parse (floatText x).toList with ⟨v, rest⟩
  simp only [hparse] at h
  cases hread : v.readFloat with
  | error fault =>
      rw [hread] at h
      cases h
  | ok y =>
      rw [hread] at h
      change (if (skipSpace rest).isEmpty then Except.ok y else .error Fault.syntaxFault) = _ at h
      split_ifs at h with hend
      cases h
      obtain ⟨n, hnumeral, rfl⟩ := numeral?_of_readFloat hspace hparse hread
      have hrest : rest = [] := by
        cases rest with
        | nil => rfl
        | cons c rest =>
            have hmem : c ∈ (floatText x).toList :=
              (numeral?_suffix hnumeral).subset List.mem_cons_self
            rw [skipSpace_cons (hnone c hmem)] at hend
            cases hend
      rw [hrest] at hnumeral
      have hsame : floatNumeral x = n := by
        rw [floatNumeral, hnumeral]
        rfl
      exact ⟨hsame ▸ hnumeral, hsame ▸ hread⟩

theorem string?_quoted_tail (s : String) (rest : List Char) :
    quoted s ++ rest = '"' :: (s.toList.flatMap escapeChar ++ '"' :: rest) := by
  rw [quoted, List.cons_append, List.cons_append, List.append_assoc, List.singleton_append]

theorem value_quoted (s : String) (rest : List Char) :
    value (fuel + 1) (quoted s ++ rest) = (.text (some s), rest) := by
  rw [string?_quoted_tail, value.eq_def]
  simp only [skipSpace_cons (c := '"') rfl, string?_escaped]

/-- Some characters begin neither with a space nor with the end of an array. -/
def Opens (cs : List Char) : Prop := ∃ c tail, cs = c :: tail ∧ isSpace c = false ∧ c ≠ ']'

theorem Opens.append (h : Opens cs) (rest : List Char) : Opens (cs ++ rest) := by
  obtain ⟨c, tail, rfl, hc⟩ := h
  exact ⟨c, tail ++ rest, rfl, hc⟩

theorem Opens.commas {first : List Char} (h : Opens first) (others : List (List Char)) :
    Opens (commas (first :: others)) := by
  cases others with
  | nil => exact h
  | cons other others => exact h.append _

theorem Doc.opens_chars (d : Doc) (h : ∀ x ∈ d.floats, FloatReadsBack x) :
    Opens d.chars := by
  have hnumber : ∀ cs n, numeral? cs = some (n, []) → Opens cs := by
    intro cs n hnumeral
    cases cs with
    | nil => cases hnumeral
    | cons c tail =>
        refine ⟨c, tail, rfl, ?_⟩
        rcases numeral?_head hnumeral with rfl | hdigit
        · decide
        · refine ⟨isSpace_of_isDigit hdigit, ?_⟩
          rintro rfl
          cases hdigit
  cases d with
  | null => exact ⟨_, _, rfl, by decide⟩
  | bool b => cases b <;> exact ⟨_, _, rfl, by decide⟩
  | int n => exact hnumber _ _ (numeral?_int n)
  | float x => exact hnumber _ _ (h x List.mem_cons_self).numeral?_eq.1
  | text s => exact ⟨_, _, rfl, by decide⟩
  | array items => exact ⟨_, _, rfl, by decide⟩
  | object fields => exact ⟨_, _, rfl, by decide⟩

theorem endsNumber_cons (h : c = ',' ∨ c = ']' ∨ c = '\x7d') (cs : List Char) :
    EndsNumber (c :: cs) := by
  rintro d hd
  cases hd
  rcases h with rfl | rfl | rfl
  all_goals decide

/-! ### Arrays and objects -/

theorem value_array (hcs : Opens cs) {vs : List Value} (h : items fuel cs = (vs, true, rest)) :
    value (fuel + 1) ('[' :: cs) = (.array vs true, rest) := by
  obtain ⟨c, tail, rfl, hspace, hclose⟩ := hcs
  rw [value.eq_def]
  simp only [skipSpace_cons (c := '[') rfl, skipSpace_cons hspace]
  split
  · next heq =>
      cases heq
      exact absurd rfl hclose
  · rw [h]

theorem items_succ (hcs : Opens cs) :
    items (fuel + 1) cs =
      match skipSpace (value fuel cs).2 with
      | ',' :: rest =>
        ((value fuel cs).1 :: (items fuel rest).1, (items fuel rest).2.1, (items fuel rest).2.2)
      | ']' :: rest => ([(value fuel cs).1], true, rest)
      | _ => ([(value fuel cs).1], false, []) := by
  obtain ⟨c, tail, rfl, hspace, hclose⟩ := hcs
  rw [items.eq_def]
  simp only [skipSpace_cons hspace]
  split
  · next heq =>
      cases heq
      exact absurd rfl hclose
  · rfl

theorem items_last (hcs : Opens cs) {v : Value} (h : value fuel cs = (v, ']' :: rest)) :
    items (fuel + 1) cs = ([v], true, rest) := by
  simp only [items_succ hcs, h, skipSpace_cons (c := ']') rfl]

theorem items_more (hcs : Opens cs) {v : Value} {vs : List Value} {more : List Char}
    (h : value fuel cs = (v, ',' :: more)) (hmore : items fuel more = (vs, true, rest)) :
    items (fuel + 1) cs = (v :: vs, true, rest) := by
  simp only [items_succ hcs, h, skipSpace_cons (c := ',') rfl, hmore]

theorem value_object (hcs : cs.head? = some '"') {vs : List (Option String × Value)}
    (h : fields fuel cs = (vs, true, rest)) :
    value (fuel + 1) ('\x7b' :: cs) = (.object vs true, rest) := by
  obtain ⟨tail, rfl⟩ := List.head?_eq_some_iff.mp hcs
  rw [value.eq_def]
  simp only [skipSpace_cons (c := '\x7b') rfl, skipSpace_cons (c := '"') rfl]
  change (Value.object (fields fuel ('"' :: tail)).1 _, _) = _
  rw [h]

theorem fields_last {key : String} {v : Value} (h : value fuel cs = (v, '\x7d' :: rest)) :
    fields (fuel + 1) (quoted key ++ ':' :: cs) = ([(some key, v)], true, rest) := by
  rw [string?_quoted_tail, fields.eq_def]
  simp only [skipSpace_cons (c := '"') rfl, string?_escaped, skipSpace_cons (c := ':') rfl, h,
    skipSpace_cons (c := '\x7d') rfl]

theorem fields_more {key : String} {v : Value} {vs : List (Option String × Value)}
    {more : List Char} (h : value fuel cs = (v, ',' :: more))
    (hmore : fields fuel more = (vs, true, rest)) :
    fields (fuel + 1) (quoted key ++ ':' :: cs) = ((some key, v) :: vs, true, rest) := by
  rw [string?_quoted_tail, fields.eq_def]
  simp only [skipSpace_cons (c := '"') rfl, string?_escaped, skipSpace_cons (c := ':') rfl, h,
    skipSpace_cons (c := ',') rfl, hmore]

end Parsing

mutual

/-- The text of a document is parsed to its tree, whatever follows that no number goes on
with. -/
theorem value_chars : ∀ (d : Doc) (fuel : Nat) (rest : List Char),
    (∀ x ∈ d.floats, FloatReadsBack x) → EndsNumber rest → d.chars.length < fuel →
      value fuel (d.chars ++ rest) = (d.tree, rest)
  | .null, fuel + 1, rest, _, _, _ => rfl
  | .bool true, fuel + 1, rest, _, _, _ => rfl
  | .bool false, fuel + 1, rest, _, _, _ => rfl
  | .int n, fuel + 1, rest, _, hrest, _ =>
      value_of_numeral? (numeral?_append hrest (numeral?_int n))
  | .float x, fuel + 1, rest, hfloats, hrest, _ =>
      value_of_numeral? (numeral?_append hrest
        (hfloats x List.mem_cons_self).numeral?_eq.1)
  | .text s, fuel + 1, rest, _, _, _ => value_quoted s rest
  | .array [], fuel + 1, rest, _, _, _ => rfl
  | .array (x :: xs), fuel + 1, rest, hfloats, _, hfuel => by
      have hlength : (commas (itemChars (x :: xs))).length + 1 < fuel := by
        simp only [Doc.chars, List.length_append, List.length_cons, List.length_nil] at hfuel
        omega
      have hopens : Opens (commas (itemChars (x :: xs)) ++ ']' :: rest) :=
        (((x.opens_chars fun y hy => hfloats y (List.mem_append_left _ hy)).commas _).append _)
      rw [Doc.chars, List.cons_append, List.cons_append, List.append_assoc, List.singleton_append]
      exact value_array hopens
        (items_chars (x :: xs) fuel rest (List.cons_ne_nil x xs) hfloats hlength)
  | .object [], fuel + 1, rest, _, _, _ => rfl
  | .object (field :: fields), fuel + 1, rest, hfloats, _, hfuel => by
      have hlength : (commas (fieldChars (field :: fields))).length + 1 < fuel := by
        simp only [Doc.chars, List.length_append, List.length_cons, List.length_nil] at hfuel
        omega
      have hhead : (commas (fieldChars (field :: fields)) ++ '\x7d' :: rest).head? = some '"' := by
        cases fields with
        | nil => rfl
        | cons other fields => rfl
      rw [Doc.chars, List.cons_append, List.cons_append, List.append_assoc, List.singleton_append]
      exact value_object hhead
        (fields_chars (field :: fields) fuel rest (List.cons_ne_nil _ _) hfloats hlength)

theorem items_chars : ∀ (xs : List Doc) (fuel : Nat) (rest : List Char), xs ≠ [] →
    (∀ x ∈ itemFloats xs, FloatReadsBack x) → (commas (itemChars xs)).length + 1 < fuel →
      items fuel (commas (itemChars xs) ++ ']' :: rest) = (trees xs, true, rest)
  | [], _, _, hnil, _, _ => absurd rfl hnil
  | [x], fuel + 1, rest, _, hfloats, hfuel => by
      have hfirst : ∀ y ∈ x.floats, FloatReadsBack y := fun y hy =>
        hfloats y (List.mem_append_left _ hy)
      exact items_last ((x.opens_chars hfirst).append _)
        (value_chars x fuel (']' :: rest) hfirst (endsNumber_cons (by decide) rest)
          (Nat.lt_of_succ_lt_succ hfuel))
  | x :: y :: ys, fuel + 1, rest, _, hfloats, hfuel => by
      have hfirst : ∀ y ∈ x.floats, FloatReadsBack y := fun y hy =>
        hfloats y (List.mem_append_left _ hy)
      have hlater : ∀ z ∈ itemFloats (y :: ys), FloatReadsBack z := fun z hz =>
        hfloats z (List.mem_append_right _ hz)
      have hlength : (commas (itemChars (x :: y :: ys))).length =
          x.chars.length + ((commas (itemChars (y :: ys))).length + 1) := by
        simp only [itemChars, commas, List.length_append, List.length_cons]
      rw [hlength] at hfuel
      rw [itemChars, itemChars, commas, ← itemChars, List.append_assoc, List.cons_append]
      exact items_more ((x.opens_chars hfirst).append _)
        (value_chars x fuel _ hfirst (endsNumber_cons (by decide) _) (by omega))
        (items_chars (y :: ys) fuel rest (List.cons_ne_nil y ys) hlater (by omega))

theorem fields_chars : ∀ (fields : List (String × Doc)) (fuel : Nat) (rest : List Char),
    fields ≠ [] → (∀ x ∈ fieldFloats fields, FloatReadsBack x) →
      (commas (fieldChars fields)).length + 1 < fuel →
      Json.fields fuel (commas (fieldChars fields) ++ '\x7d' :: rest) =
        (fieldTrees fields, true, rest)
  | [], _, _, hnil, _, _ => absurd rfl hnil
  | [(key, x)], fuel + 1, rest, _, hfloats, hfuel => by
      have hfirst : ∀ y ∈ x.floats, FloatReadsBack y := fun y hy =>
        hfloats y (List.mem_append_left _ hy)
      have hlength : (commas (fieldChars [(key, x)])).length =
          (quoted key).length + (x.chars.length + 1) := by
        simp only [fieldChars, commas, List.length_append, List.length_cons]
      rw [hlength] at hfuel
      rw [fieldChars, fieldChars, commas, List.append_assoc, List.cons_append]
      exact fields_last (value_chars x fuel _ hfirst (endsNumber_cons (by decide) rest) (by omega))
  | (key, x) :: field :: more, fuel + 1, rest, _, hfloats, hfuel => by
      have hfirst : ∀ y ∈ x.floats, FloatReadsBack y := fun y hy =>
        hfloats y (List.mem_append_left _ hy)
      have hlater : ∀ z ∈ fieldFloats (field :: more), FloatReadsBack z := fun z hz =>
        hfloats z (List.mem_append_right _ hz)
      have hcommas : commas (fieldChars ((key, x) :: field :: more)) =
          quoted key ++ ':' :: x.chars ++ ',' :: commas (fieldChars (field :: more)) := rfl
      have hlength : (commas (fieldChars ((key, x) :: field :: more))).length =
          (quoted key).length + (x.chars.length + 1) +
            ((commas (fieldChars (field :: more))).length + 1) := by
        simp only [hcommas, List.length_append, List.length_cons]
      rw [hlength] at hfuel
      rw [hcommas, List.append_assoc, List.append_assoc, List.cons_append, List.cons_append]
      exact fields_more (value_chars x fuel _ hfirst (endsNumber_cons (by decide) _) (by omega))
        (fields_chars (field :: more) fuel rest (List.cons_ne_nil _ _) hlater (by omega))

end

/-- A whole document is parsed to its tree. -/
theorem parse_chars {d : Doc} (h : ∀ x ∈ d.floats, FloatReadsBack x) :
    parse d.chars = (d.tree, []) := by
  have hvalue := value_chars d (2 * d.chars.length + 2) [] h nofun (by omega)
  rwa [List.append_nil] at hvalue

theorem readAll_chars {α : Type} (read : Value → Reading α) {d : Doc}
    (h : ∀ x ∈ d.floats, FloatReadsBack x) : readAll read d.chars = read d.tree := by
  rw [readAll, parse_chars h]
  simp only
  cases read d.tree with
  | ok a => rfl
  | error fault => rfl

end Json
end CacheTier
