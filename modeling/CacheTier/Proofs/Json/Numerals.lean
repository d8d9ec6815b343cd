import CacheTier.Json.Doc
import CacheTier.Json.Number
import CacheTier.Json.Parser
import Mathlib.Data.List.TakeWhile
import Mathlib.Tactic.SplitIfs

/-!
# Numerals

Where a number ends shows in the character behind it.  A whole number is written as its digits
and its value is the number, as long as it fits a word.
-/

namespace CacheTier
namespace Json

/-! ## Numbers before other text -/

/-- No number goes on with these characters. -/
def EndsNumber (rest : List Char) : Prop :=
  ∀ c ∈ rest.head?, c.isDigit = false ∧ c ≠ '.' ∧ c ≠ 'e' ∧ c ≠ 'E'

section Append

variable {cs left rest : List Char}

theorem digits_append (hrest : EndsNumber rest) (cs : List Char) :
    digits (cs ++ rest) = ((digits cs).1, (digits cs).2 ++ rest) := by
  induction cs with
  | nil =>
      cases rest with
      | nil => rfl
      | cons c rest =>
          have hc : c.isDigit = false := (hrest c rfl).1
          simp [digits, hc]
  | cons c cs ih =>
      simp only [digits, Prod.mk.injEq] at ih ⊢
      cases hc : c.isDigit with
      | false => simp [hc]
      | true => simp [hc, ih]

/-- Whether some digits make a whole number: a lone zero, or no zero in front. -/
def MakeWhole (ds : List Char) : Prop := ds ≠ [] ∧ (ds.head? = some '0' → ds.length = 1)

theorem integer?_eq_some_iff {ds : List Char} :
    integer? cs = some (ds, left) ↔ digits cs = (ds, left) ∧ MakeWhole ds := by
  rw [integer?.eq_def]
  split
  · next hsplit =>
      rw [hsplit]
      refine iff_of_false nofun ?_
      rintro ⟨heq, hnil, -⟩
      exact hnil (Prod.mk.inj heq).1.symm
  · next hsplit =>
      rw [hsplit]
      refine iff_of_false nofun ?_
      rintro ⟨heq, -, hone⟩
      rw [← (Prod.mk.inj heq).1] at hone
      exact absurd (hone rfl) (by simp)
  · next written others hnil hzero hsplit =>
      rw [hsplit, Option.some.injEq, iff_self_and]
      rintro heq
      rw [← (Prod.mk.inj heq).1]
      refine ⟨hnil, fun hhead => ?_⟩
      rcases written with _ | ⟨d, _ | ⟨e, more⟩⟩
      · exact absurd rfl hnil
      · rfl
      · exact (hzero e more (by rw [Option.some.inj hhead])).elim

theorem integer?_append (hrest : EndsNumber rest) {ds : List Char}
    (h : integer? cs = some (ds, left)) : integer? (cs ++ rest) = some (ds, left ++ rest) := by
  rw [integer?_eq_some_iff] at h ⊢
  rw [digits_append hrest, h.1]
  exact ⟨rfl, h.2⟩

/-- The digits at the start of some characters, if there are any. -/
def someDigits? (cs : List Char) : Option (List Char × List Char) :=
  match digits cs with
  | ([], _) => none
  | (ds, rest) => some (ds, rest)

theorem someDigits?_eq_some_iff {ds : List Char} :
    someDigits? cs = some (ds, left) ↔ digits cs = (ds, left) ∧ ds ≠ [] := by
  rw [someDigits?]
  generalize digits cs = split
  rcases split with ⟨_ | ⟨d, more⟩, others⟩
  · exact iff_of_false nofun fun h => h.2 (Prod.mk.inj h.1).1.symm
  · rw [Option.some.injEq, iff_self_and]
    rintro heq
    cases heq
    exact List.cons_ne_nil d more

theorem someDigits?_append (hrest : EndsNumber rest) {ds : List Char}
    (h : someDigits? cs = some (ds, left)) :
    someDigits? (cs ++ rest) = some (ds, left ++ rest) := by
  rw [someDigits?_eq_some_iff] at h ⊢
  rw [digits_append hrest, h.1]
  exact ⟨rfl, h.2⟩

theorem fraction?_cons (c : Char) (cs : List Char) :
    fraction? (c :: cs) = if c = '.' then someDigits? cs else some ([], c :: cs) := by
  by_cases hpoint : c = '.'
  · rw [hpoint]
    rfl
  · rw [if_neg hpoint, fraction?.eq_def]
    simp [hpoint]

theorem fraction?_append (hrest : EndsNumber rest) {ds : List Char}
    (h : fraction? cs = some (ds, left)) : fraction? (cs ++ rest) = some (ds, left ++ rest) := by
  cases cs with
  | nil =>
      cases h
      cases rest with
      | nil => rfl
      | cons c rest => rw [List.nil_append, fraction?_cons, if_neg (hrest c rfl).2.1]
  | cons c cs =>
      rw [List.cons_append, fraction?_cons]
      rw [fraction?_cons] at h
      split_ifs at h ⊢
      · exact someDigits?_append hrest h
      · cases h
        rfl

/-- The exponent behind its letter: its sign and its digits. -/
def signedDigits? : List Char → Option (Option (Bool × List Char) × List Char)
  | [] => none
  | sign :: cs =>
    if sign = '-' then (someDigits? cs).map fun read => (some (true, read.1), read.2)
    else if sign = '+' then (someDigits? cs).map fun read => (some (false, read.1), read.2)
    else (someDigits? (sign :: cs)).map fun read => (some (false, read.1), read.2)

theorem signed_eq_map (negative : Bool) (cs : List Char) :
    (match digits cs with
    | ([], _) => none
    | (ds, rest) => some (some (negative, ds), rest)) =
      (someDigits? cs).map fun read => (some (negative, read.1), read.2) := by
  rw [someDigits?]
  rcases digits cs with ⟨_ | ⟨d, more⟩, others⟩
  · rfl
  · rfl

theorem exponent?_cons (c : Char) (cs : List Char) :
    exponent? (c :: cs) =
      if c = 'e' ∨ c = 'E' then signedDigits? cs else some (none, c :: cs) := by
  rw [exponent?.eq_def]
  simp only [beq_iff_eq, Bool.or_eq_true]
  split_ifs with hmark
  · cases cs with
    | nil => rfl
    | cons sign more =>
        rw [signedDigits?]
        split
        · next heq =>
            cases heq
            exact signed_eq_map true more
        · next heq =>
            cases heq
            exact signed_eq_map false more
        · next hminus hplus =>
            rw [if_neg fun heq => hminus more (by rw [heq]),
              if_neg fun heq => hplus more (by rw [heq])]
            exact signed_eq_map false (sign :: more)
  · rfl

theorem signedDigits?_append (hrest : EndsNumber rest) {exponent : Option (Bool × List Char)}
    (h : signedDigits? cs = some (exponent, left)) :
    signedDigits? (cs ++ rest) = some (exponent, left ++ rest) := by
  cases cs with
  | nil => cases h
  | cons sign cs =>
      rw [List.cons_append, signedDigits?]
      rw [signedDigits?] at h
      split_ifs at h ⊢
      all_goals
        obtain ⟨⟨ds, others⟩, hdigits, heq⟩ := Option.map_eq_some_iff.mp h
        cases heq
      · rw [someDigits?_append hrest hdigits, Option.map_some]
      · rw [someDigits?_append hrest hdigits, Option.map_some]
      · rw [← List.cons_append, someDigits?_append hrest hdigits, Option.map_some]

theorem exponent?_append (hrest : EndsNumber rest) {exponent : Option (Bool × List Char)}
    (h : exponent? cs = some (exponent, left)) :
    exponent? (cs ++ rest) = some (exponent, left ++ rest) := by
  cases cs with
  | nil =>
      cases h
      cases rest with
      | nil => rfl
      | cons c rest =>
          have hmark : ¬ (c = 'e' ∨ c = 'E') := not_or.mpr (hrest c rfl).2.2
          rw [List.nil_append, exponent?_cons, if_neg hmark]
  | cons c cs =>
      rw [List.cons_append, exponent?_cons]
      rw [exponent?_cons] at h
      split_ifs at h ⊢
      · exact signedDigits?_append hrest h
      · cases h
        rfl

theorem magnitude?_append (hrest : EndsNumber rest) {negative : Bool} {n : Numeral}
    (h : magnitude? negative cs = some (n, left)) :
    magnitude? negative (cs ++ rest) = some (n, left ++ rest) := by
  obtain ⟨⟨integer, others⟩, hinteger, h⟩ := Option.bind_eq_some_iff.mp h
  obtain ⟨⟨fraction, more⟩, hfraction, h⟩ := Option.bind_eq_some_iff.mp h
  obtain ⟨⟨exponent, last⟩, hexponent, h⟩ := Option.bind_eq_some_iff.mp h
  cases h
  rw [magnitude?, integer?_append hrest hinteger]
  change (fraction? (others ++ rest)).bind _ = _
  rw [fraction?_append hrest hfraction]
  change (exponent? (more ++ rest)).bind _ = _
  rw [exponent?_append hrest hexponent]
  rfl

theorem numeral?_cons (c : Char) (cs : List Char) :
    numeral? (c :: cs) = if c = '-' then magnitude? true cs else magnitude? false (c :: cs) := by
  by_cases hminus : c = '-'
  · rw [hminus]
    rfl
  · rw [if_neg hminus, numeral?.eq_def]
    simp [hminus]

/-- A number ends before characters that it does not go on with. -/
theorem numeral?_append (hrest : EndsNumber rest) {n : Numeral}
    (h : numeral? cs = some (n, left)) : numeral? (cs ++ rest) = some (n, left ++ rest) := by
  cases cs with
  | nil => cases h
  | cons c cs =>
      rw [List.cons_append, numeral?_cons]
      rw [numeral?_cons] at h
      split_ifs at h ⊢
      · exact magnitude?_append hrest h
      · exact magnitude?_append hrest h

theorem digits_suffix (cs : List Char) : (digits cs).2 <:+ cs := List.dropWhile_suffix _

theorem integer?_suffix {ds : List Char} (h : integer? cs = some (ds, left)) : left <:+ cs := by
  have hsuffix := digits_suffix cs
  rwa [(integer?_eq_some_iff.mp h).1] at hsuffix

theorem someDigits?_suffix {ds : List Char} (h : someDigits? cs = some (ds, left)) :
    left <:+ cs := by
  have hsuffix := digits_suffix cs
  rwa [(someDigits?_eq_some_iff.mp h).1] at hsuffix

theorem fraction?_suffix {ds : List Char} (h : fraction? cs = some (ds, left)) : left <:+ cs := by
  cases cs with
  | nil =>
      cases h
      exact List.suffix_rfl
  | cons c cs =>
      rw [fraction?_cons] at h
      split_ifs at h
      · exact (someDigits?_suffix h).trans (List.suffix_cons c cs)
      · cases h
        exact List.suffix_rfl

theorem signedDigits?_suffix {exponent : Option (Bool × List Char)}
    (h : signedDigits? cs = some (exponent, left)) : left <:+ cs := by
  cases cs with
  | nil => cases h
  | cons sign cs =>
      rw [signedDigits?] at h
      split_ifs at h
      all_goals
        obtain ⟨⟨ds, others⟩, hdigits, heq⟩ := Option.map_eq_some_iff.mp h
        cases heq
      · exact (someDigits?_suffix hdigits).trans (List.suffix_cons sign cs)
      · exact (someDigits?_suffix hdigits).trans (List.suffix_cons sign cs)
      · exact someDigits?_suffix hdigits

theorem exponent?_suffix {exponent : Option (Bool × List Char)}
    (h : exponent? cs = some (exponent, left)) : left <:+ cs := by
  cases cs with
  | nil =>
      cases h
      exact List.suffix_rfl
  | cons c cs =>
      rw [exponent?_cons] at h
      split_ifs at h
      · exact (signedDigits?_suffix h).trans (List.suffix_cons c cs)
      · cases h
        exact List.suffix_rfl

theorem magnitude?_suffix {negative : Bool} {n : Numeral}
    (h : magnitude? negative cs = some (n, left)) : left <:+ cs := by
  obtain ⟨⟨integer, others⟩, hinteger, h⟩ := Option.bind_eq_some_iff.mp h
  obtain ⟨⟨fraction, more⟩, hfraction, h⟩ := Option.bind_eq_some_iff.mp h
  obtain ⟨⟨exponent, last⟩, hexponent, h⟩ := Option.bind_eq_some_iff.mp h
  cases h
  exact (exponent?_suffix hexponent).trans
    ((fraction?_suffix hfraction).trans (integer?_suffix hinteger))

theorem numeral?_suffix {n : Numeral} (h : numeral? cs = some (n, left)) : left <:+ cs := by
  cases cs with
  | nil => cases h
  | cons c cs =>
      rw [numeral?_cons] at h
      split_ifs at h
      · exact (magnitude?_suffix h).trans (List.suffix_cons c cs)
      · exact magnitude?_suffix h

/-- A number begins with its sign or with a digit. -/
theorem numeral?_head {n : Numeral} {c : Char} (h : numeral? (c :: cs) = some (n, left)) :
    c = '-' ∨ c.isDigit = true := by
  rw [numeral?_cons] at h
  split_ifs at h with hminus
  · exact Or.inl hminus
  · right
    obtain ⟨⟨integer, others⟩, hinteger, -⟩ := Option.bind_eq_some_iff.mp h
    obtain ⟨hdigits, hnil, -⟩ := integer?_eq_some_iff.mp hinteger
    rw [← Bool.not_eq_false]
    intro hnot
    rw [digits, List.takeWhile_cons_of_neg (by simp [hnot])] at hdigits
    exact hnil (Prod.mk.inj hdigits).1.symm

end Append

/-! ## Whole numbers -/

/-- The numeral of a whole number. -/
def Numeral.ofInt (n : Int) : Numeral := ⟨decide (n < 0), Nat.toDigits 10 n.natAbs, [], none⟩

theorem toList_toString_int (n : Int) :
    (toString n).toList = (if n < 0 then ['-'] else []) ++ Nat.toDigits 10 n.natAbs := by
  cases n with
  | ofNat n =>
      rw [if_neg (show ¬ Int.ofNat n < 0 from Int.not_lt.mpr (Int.natCast_nonneg n))]
      exact Nat.toList_repr
  | negSucc n =>
      rw [if_pos (Int.negSucc_lt_zero n)]
      change ("-" ++ Nat.repr (n + 1)).toList = _
      rw [String.toList_append, Nat.toList_repr]
      rfl

theorem head?_toDigits_ne_zero {n : Nat} (h : 0 < n) : (Nat.toDigits 10 n).head? ≠ some '0' := by
  induction n using Nat.strongRecOn with
  | ind n ih =>
      by_cases hlow : n < 10
      · have hall : ∀ m < 10, 0 < m → [Nat.digitChar m].head? ≠ some '0' := by decide
        rw [Nat.toDigits_of_lt_base hlow]
        exact hall n hlow h
      · have hhead := ih (n / 10) (by omega) (by omega)
        rw [Nat.toDigits_of_base_le (by decide) (Nat.not_lt.mp hlow)]
        cases hdigits : Nat.toDigits 10 (n / 10) with
        | nil => exact absurd hdigits Nat.toDigits_ne_nil
        | cons c cs =>
            rw [hdigits] at hhead
            exact hhead

theorem makeWhole_toDigits (n : Nat) : MakeWhole (Nat.toDigits 10 n) := by
  refine ⟨Nat.toDigits_ne_nil, fun hhead => ?_⟩
  by_cases hzero : n = 0
  · rw [hzero]
    rfl
  · exact absurd hhead (head?_toDigits_ne_zero (Nat.pos_of_ne_zero hzero))

theorem digits_toDigits (n : Nat) : digits (Nat.toDigits 10 n) = (Nat.toDigits 10 n, []) := by
  have hall : ∀ c ∈ Nat.toDigits 10 n, c.isDigit = true := fun c hc =>
    Nat.isDigit_of_mem_toDigits (by decide) (by decide) hc
  rw [digits, List.takeWhile_eq_self_iff.mpr hall, List.dropWhile_eq_nil_iff.mpr hall]

theorem magnitude?_toDigits (negative : Bool) (n : Nat) :
    magnitude? negative (Nat.toDigits 10 n) =
      some (⟨negative, Nat.toDigits 10 n, [], none⟩, []) := by
  have hinteger : integer? (Nat.toDigits 10 n) = some (Nat.toDigits 10 n, []) :=
    integer?_eq_some_iff.mpr ⟨digits_toDigits n, makeWhole_toDigits n⟩
  rw [magnitude?, hinteger]
  rfl

/-- A whole number is read where its digits end. -/
theorem numeral?_int (n : Int) : numeral? (toString n).toList = some (.ofInt n, []) := by
  rw [toList_toString_int]
  by_cases hneg : n < 0
  · rw [if_pos hneg, List.singleton_append, numeral?_cons, if_pos rfl, magnitude?_toDigits,
      Numeral.ofInt, decide_eq_true hneg]
  · have hdigit : ∀ c ∈ Nat.toDigits 10 n.natAbs, c ≠ '-' := by
      rintro c hc rfl
      exact absurd (Nat.isDigit_of_mem_toDigits (by decide) (by decide) hc) (by decide)
    rw [if_neg hneg, List.nil_append, Numeral.ofInt, decide_eq_false hneg,
      ← magnitude?_toDigits false]
    cases hdigits : Nat.toDigits 10 n.natAbs with
    | nil => exact absurd hdigits Nat.toDigits_ne_nil
    | cons c cs =>
        rw [numeral?_cons, if_neg (hdigit c (by rw [hdigits]; exact List.mem_cons_self))]

namespace Number

theorem le_ofDigitChars (ds : List Char) (start : Nat) : start ≤ Nat.ofDigitChars 10 ds start := by
  induction ds generalizing start with
  | nil => exact Nat.le_refl _
  | cons c ds ih =>
      have hstep : start ≤ 10 * start + (c.toNat - '0'.toNat) := by omega
      exact Nat.le_trans hstep (ih _)

-- the bound of a word must not be unfolded to a numeral in unary
seal extend? in
theorem takeDigits_cons (start : Nat) (c : Char) (ds : List Char) :
    takeDigits start (c :: ds) =
      match extend? start (digitValue c) with
      | some n => takeDigits n ds
      | none => (start, ds.length + 1) := rfl

theorem extend?_of_lt {start digit : Nat} (h : start * 10 + digit < UInt64.size) :
    extend? start digit = some (start * 10 + digit) :=
  if_pos h

/-- Digits are taken in as long as their number fits a word. -/
theorem takeDigits_eq {ds : List Char} {start : Nat}
    (h : Nat.ofDigitChars 10 ds start < UInt64.size) :
    takeDigits start ds = (Nat.ofDigitChars 10 ds start, 0) := by
  induction ds generalizing start with
  | nil => rfl
  | cons c ds ih =>
      have hstep : start * 10 + digitValue c = 10 * start + (c.toNat - '0'.toNat) := by
        rw [digitValue, Nat.mul_comm]
      rw [Nat.ofDigitChars_cons] at h ⊢
      have hfits : start * 10 + digitValue c < UInt64.size := by
        rw [hstep]
        exact Nat.lt_of_le_of_lt (le_ofDigitChars ds _) h
      rw [← ih h, takeDigits_cons, extend?_of_lt hfits, hstep]

theorem takeDigits_toDigits {n : Nat} (h : n < UInt64.size) :
    takeDigits 0 (Nat.toDigits 10 n) = (n, 0) := by
  have hvalue : Nat.ofDigitChars 10 (Nat.toDigits 10 n) 0 = n :=
    Nat.ofDigitChars_toDigits (by decide) (by decide)
  rw [takeDigits_eq (by rw [hvalue]; exact h), hvalue]

end Number

theorem Numeral.value?_ofInt_word (w : UInt64) :
    (Numeral.ofInt w.toNat).value? = some (.word w) := by
  have hpos : ¬ (w.toNat : Int) < 0 := by omega
  rw [Numeral.value?, Numeral.ofInt, Int.natAbs_natCast]
  simp only [Number.takeDigits_toDigits w.toNat_lt, hpos]
  simp

theorem Numeral.value?_ofInt_negative {i : Int64} (h : i.toInt < 0) :
    (Numeral.ofInt i.toInt).value? = some (.negative i) := by
  have hle : -2 ^ 63 ≤ i.toInt := i.le_toInt
  have hword : i.toInt.natAbs < UInt64.size := by
    rw [show UInt64.size = 2 ^ 64 from rfl]
    omega
  have hzero : ¬ i.toInt.natAbs = 0 := by omega
  have hsmall : ¬ i.toInt.natAbs > Nat.pow 2 63 := by
    rw [show Nat.pow 2 63 = 2 ^ 63 from rfl]
    omega
  have hback : -(i.toInt.natAbs : Int) = i.toInt := by omega
  rw [Numeral.value?, Numeral.ofInt]
  simp only [Number.takeDigits_toDigits hword, h, hback]
  simp [hzero, hsmall]

end Json
end CacheTier
