import CacheTier.Proofs.NodeId
import CacheTier.Text.Utf8
import Mathlib

/-!
# Texts read from their bytes

The bytes of a text are read as this text, and bytes that are read as a text are as many as the
text has.
-/

namespace CacheTier
namespace Utf8

variable {a b c d : UInt8} {char : Char} {n m k least width fuel : Nat} {rest bytes : List UInt8}

/-! ## Numbers of characters -/

theorem between_iff {lower upper : UInt8} :
    (lower ≤ a && a < upper) = true ↔ lower.toNat ≤ a.toNat ∧ a.toNat < upper.toNat := by
  rw [Bool.and_eq_true_iff, decide_eq_true_iff, decide_eq_true_iff, UInt8.le_iff_toNat_le,
    UInt8.lt_iff_toNat_lt]

theorem tail?_ofNat (h : n < 64) : tail? (UInt8.ofNat (n + 128)) = some n := by
  have hbyte : (UInt8.ofNat (n + 128)).toNat = n + 128 :=
    UInt8.toNat_ofNat_of_lt' (show n + 128 < 256 by omega)
  have hlower : (0x80 : UInt8).toNat = 128 := rfl
  have hupper : (0xc0 : UInt8).toNat = 192 := rfl
  rw [tail?, if_pos (between_iff.mpr (by omega)), hbyte, Nat.add_sub_cancel]

theorem lt_of_tail? (h : tail? b = some n) : n < 64 := by
  rw [tail?] at h
  split_ifs at h with hrange
  obtain rfl := Option.some.inj h
  have hupper : b.toNat < 0xc0 := (between_iff.mp hrange).2
  omega

theorem char?_toNat (char : Char) (h : least ≤ char.toNat) : char? least char.toNat = some char := by
  have hvalid : char.toNat.isValidChar := char.valid
  simp [char?, h, hvalid, Char.ofNat_toNat]

theorem toNat_of_char? (h : char? least n = some char) : least ≤ n ∧ char.toNat = n := by
  rw [char?] at h
  split_ifs at h with hcond
  obtain ⟨hleast, hvalid⟩ := Bool.and_eq_true_iff.mp hcond
  cases h
  exact ⟨of_decide_eq_true hleast, by rw [Char.toNat_ofNat, if_pos (of_decide_eq_true hvalid)]⟩

theorem utf8Size_eq (char : Char) :
    char.utf8Size = if char.toNat ≤ 0x7f then 1 else if char.toNat ≤ 0x7ff then 2
      else if char.toNat ≤ 0xffff then 3 else 4 := by
  rw [← String.length_utf8EncodeChar, String.utf8EncodeChar]
  simp only [Char.toNat]
  split_ifs
  · rfl
  · rfl
  · rfl
  · rfl

/-! ## Bytes of characters -/

theorem two?_eq_some_iff : two? a b = some char ↔
    (0xc0 ≤ a.toNat ∧ a.toNat < 0xe0) ∧
      ∃ n, tail? b = some n ∧ char? 0x80 ((a.toNat - 0xc0) * 0x40 + n) = some char := by
  rw [two?, Option.ite_none_right_eq_some, between_iff]
  simp only [← Option.bind_eq_some_iff]
  exact Iff.rfl

theorem three?_eq_some_iff : three? a b c = some char ↔
    (0xe0 ≤ a.toNat ∧ a.toNat < 0xf0) ∧
      ∃ n, tail? b = some n ∧ ∃ m, tail? c = some m ∧
        char? 0x800 (((a.toNat - 0xe0) * 0x40 + n) * 0x40 + m) = some char := by
  rw [three?, Option.ite_none_right_eq_some, between_iff]
  simp only [← Option.bind_eq_some_iff]
  exact Iff.rfl

theorem four?_eq_some_iff : four? a b c d = some char ↔
    (0xf0 ≤ a.toNat ∧ a.toNat < 0xf8) ∧
      ∃ n, tail? b = some n ∧ ∃ m, tail? c = some m ∧ ∃ k, tail? d = some k ∧
        char? 0x10000
          ((((a.toNat - 0xf0) * 0x40 + n) * 0x40 + m) * 0x40 + k) = some char := by
  rw [four?, Option.ite_none_right_eq_some, between_iff]
  simp only [← Option.bind_eq_some_iff]
  exact Iff.rfl

theorem not_ascii (ha : 0x80 ≤ a.toNat) : ¬a < 0x80 := by
  rw [UInt8.lt_iff_toNat_lt]
  exact Nat.not_lt.mpr ha

theorem head?_of_two (h : two? a b = some char) : head? (a :: b :: rest) = some (char, 2) := by
  obtain ⟨ha, -⟩ := two?_eq_some_iff.mp h
  have hnot : ¬a < 0x80 := not_ascii (by omega)
  rcases rest with _ | ⟨c, _ | ⟨d, rest⟩⟩
  · simp [head?, hnot, h]
  · simp [head?, hnot, h]
  · simp [head?, hnot, h]

theorem two?_eq_none (ha : 0xe0 ≤ a.toNat) : two? a b = none := by
  rw [Option.eq_none_iff_forall_ne_some]
  intro other hother
  have hrange := (two?_eq_some_iff.mp hother).1
  omega

theorem three?_eq_none (ha : 0xf0 ≤ a.toNat) : three? a b c = none := by
  rw [Option.eq_none_iff_forall_ne_some]
  intro other hother
  have hrange := (three?_eq_some_iff.mp hother).1
  omega

theorem head?_of_three (h : three? a b c = some char) :
    head? (a :: b :: c :: rest) = some (char, 3) := by
  obtain ⟨ha, -⟩ := three?_eq_some_iff.mp h
  have hnot : ¬a < 0x80 := not_ascii (by omega)
  rcases rest with _ | ⟨d, rest⟩
  · simp [head?, hnot, two?_eq_none ha.1, h]
  · simp [head?, hnot, two?_eq_none ha.1, h]

theorem head?_of_four (h : four? a b c d = some char) :
    head? (a :: b :: c :: d :: rest) = some (char, 4) := by
  obtain ⟨ha, -⟩ := four?_eq_some_iff.mp h
  have hnot : ¬a < 0x80 := not_ascii (by omega)
  have htwo : two? a b = none := two?_eq_none (by omega)
  simp [head?, hnot, htwo, three?_eq_none ha.1, h]

/-- The bytes of a character are read as this character, whatever comes after them. -/
theorem head?_utf8EncodeChar (char : Char) (rest : List UInt8) :
    head? (String.utf8EncodeChar char ++ rest) = some (char, char.utf8Size) := by
  have hbound : char.toNat < 0x110000 := by
    rcases char.valid with h | h
    · exact Nat.lt_trans h (by decide)
    · exact h.2
  have hbyte (m : Nat) (hm : m < 256) : (UInt8.ofNat m).toNat = m := UInt8.toNat_ofNat_of_lt' hm
  rw [utf8Size_eq]
  simp only [String.utf8EncodeChar, show char.val.toNat = char.toNat from rfl]
  generalize hv : char.toNat = v at hbound ⊢
  have hchar {least : Nat} (h : least ≤ v) : char? least v = some char :=
    hv ▸ char?_toNat char (hv ▸ h)
  split_ifs with hone htwo hthree
  · have ha := hbyte v (by omega)
    have hascii : UInt8.ofNat v < 0x80 := by
      rw [UInt8.lt_iff_toNat_lt, ha]
      exact Nat.lt_succ_of_le hone
    rw [List.singleton_append, head?.eq_def]
    simp only
    rw [if_pos hascii, ha, ← hv, Char.ofNat_toNat]
  · have ha := hbyte (v / 64 % 32 + 192) (by omega)
    refine head?_of_two (two?_eq_some_iff.mpr ⟨by omega, _, tail?_ofNat (by omega), ?_⟩)
    rw [show ((UInt8.ofNat (v / 64 % 32 + 192)).toNat - 0xc0) * 0x40 + v % 64 = v by omega]
    exact hchar (by omega)
  · have ha := hbyte (v / 4096 % 16 + 224) (by omega)
    refine head?_of_three (three?_eq_some_iff.mpr
      ⟨by omega, _, tail?_ofNat (by omega), _, tail?_ofNat (by omega), ?_⟩)
    rw [show (((UInt8.ofNat (v / 4096 % 16 + 224)).toNat - 0xe0) * 0x40 + v / 64 % 64) * 0x40 +
      v % 64 = v by omega]
    exact hchar (by omega)
  · have ha := hbyte (v / 262144 % 8 + 240) (by omega)
    refine head?_of_four (four?_eq_some_iff.mpr ⟨by omega, _, tail?_ofNat (by omega), _,
      tail?_ofNat (by omega), _, tail?_ofNat (by omega), ?_⟩)
    rw [show ((((UInt8.ofNat (v / 262144 % 8 + 240)).toNat - 0xf0) * 0x40 + v / 4096 % 64) * 0x40 +
      v / 64 % 64) * 0x40 + v % 64 = v by omega]
    exact hchar (by omega)

theorem utf8Size_of_two? (h : two? a b = some char) : char.utf8Size = 2 := by
  obtain ⟨ha, n, hn, hchar⟩ := two?_eq_some_iff.mp h
  obtain ⟨hleast, hnumber⟩ := toNat_of_char? hchar
  have hlt := lt_of_tail? hn
  rw [utf8Size_eq, if_neg (by omega), if_pos (by omega)]

theorem utf8Size_of_three? (h : three? a b c = some char) : char.utf8Size = 3 := by
  obtain ⟨ha, n, hn, m, hm, hchar⟩ := three?_eq_some_iff.mp h
  obtain ⟨hleast, hnumber⟩ := toNat_of_char? hchar
  have hlt := lt_of_tail? hn
  have hlt' := lt_of_tail? hm
  rw [utf8Size_eq, if_neg (by omega), if_neg (by omega), if_pos (by omega)]

theorem utf8Size_of_four? (h : four? a b c d = some char) : char.utf8Size = 4 := by
  obtain ⟨ha, n, hn, m, hm, k, hk, hchar⟩ := four?_eq_some_iff.mp h
  obtain ⟨hleast, hnumber⟩ := toNat_of_char? hchar
  rw [utf8Size_eq, if_neg (by omega), if_neg (by omega), if_neg (by omega)]

/-- A character takes as many bytes as it is encoded in. -/
theorem utf8Size_of_head? (h : head? bytes = some (char, width)) :
    char.utf8Size = width ∧ width ≤ bytes.length := by
  rcases bytes with _ | ⟨a, rest⟩
  · simp [head?] at h
  by_cases ha : a < 0x80
  · rw [head?.eq_def] at h
    simp only [if_pos ha, Option.some.injEq, Prod.mk.injEq] at h
    obtain ⟨rfl, rfl⟩ := h
    have hlt : a.toNat < 0x80 := UInt8.lt_iff_toNat_lt.mp ha
    have hvalid : a.toNat.isValidChar := Or.inl (Nat.lt_trans hlt (by decide))
    rw [utf8Size_eq, Char.toNat_ofNat, if_pos hvalid, if_pos (by omega)]
    exact ⟨rfl, Nat.le_add_left 1 _⟩
  · rcases rest with _ | ⟨b, _ | ⟨c, _ | ⟨d, rest⟩⟩⟩
    · simp [head?, ha] at h
    · simp only [head?, ha, if_false, Option.map_eq_some_iff, Prod.mk.injEq] at h
      obtain ⟨_, htwo, rfl, rfl⟩ := h
      exact ⟨utf8Size_of_two? htwo, by simp⟩
    · simp only [head?, ha, if_false, Option.or_eq_some_iff, Option.map_eq_some_iff,
        Prod.mk.injEq] at h
      obtain ⟨_, htwo, rfl, rfl⟩ | ⟨-, _, hthree, rfl, rfl⟩ := h
      · exact ⟨utf8Size_of_two? htwo, by simp⟩
      · exact ⟨utf8Size_of_three? hthree, by simp⟩
    · simp only [head?, ha, if_false, Option.or_eq_some_iff, Option.map_eq_some_iff,
        Prod.mk.injEq] at h
      obtain ⟨_, htwo, rfl, rfl⟩ | ⟨-, ⟨_, hthree, rfl, rfl⟩ | ⟨-, _, hfour, rfl, rfl⟩⟩ := h
      · exact ⟨utf8Size_of_two? htwo, by simp⟩
      · exact ⟨utf8Size_of_three? hthree, by simp⟩
      · exact ⟨utf8Size_of_four? hfour, by simp⟩

/-! ## Texts -/

theorem decodeWithin_encodeChars {cs : List Char} (hfuel : (encodeChars cs).length ≤ fuel) :
    decodeWithin fuel (encodeChars cs) = cs.map some := by
  induction cs generalizing fuel with
  | nil =>
      cases fuel with
      | zero => rfl
      | succ fuel => rfl
  | cons char cs ih =>
      have hhead := head?_utf8EncodeChar char (encodeChars cs)
      have hlength := String.length_utf8EncodeChar char
      rw [encodeChars_cons] at hfuel ⊢
      cases hbytes : String.utf8EncodeChar char with
      | nil => exact absurd hbytes String.utf8EncodeChar_ne_nil
      | cons a tail =>
          rw [hbytes, List.length_cons] at hlength
          rw [hbytes, List.cons_append, List.length_cons, List.length_append] at hfuel
          rw [hbytes, List.cons_append] at hhead
          obtain ⟨fuel, rfl⟩ : ∃ less, fuel = less + 1 := ⟨fuel - 1, by omega⟩
          rw [List.cons_append, decodeWithin, hhead]
          simp only
          rw [← hlength, Nat.add_sub_cancel, List.drop_left, ih (by omega), List.map_cons]

/-- The bytes of a text are read as this text. -/
theorem text?_encodeChars (cs : List Char) : text? (encodeChars cs) = some (String.ofList cs) := by
  have hall : (cs.map some).mapM id = some cs := by
    induction cs with
    | nil => rfl
    | cons char cs ih => rw [List.map_cons, List.mapM_cons, ih]; rfl
  rw [text?, decode, decodeWithin_encodeChars (Nat.le_refl _), hall]
  rfl

theorem length_encodeChars_of_decodeWithin {cs : List Char} (hfuel : bytes.length ≤ fuel)
    (h : (decodeWithin fuel bytes).mapM id = some cs) :
    (encodeChars cs).length = bytes.length := by
  induction fuel generalizing bytes cs with
  | zero =>
      obtain rfl := List.eq_nil_of_length_eq_zero (Nat.le_zero.mp hfuel)
      cases h
      rfl
  | succ fuel ih =>
      rcases bytes with _ | ⟨a, rest⟩
      · cases h
        rfl
      rw [decodeWithin] at h
      rcases hhead : head? (a :: rest) with _ | ⟨char, width⟩
      · simp [hhead] at h
      · obtain ⟨hsize, hwidth⟩ := utf8Size_of_head? hhead
        have hpositive := char.utf8Size_pos
        simp only [hhead, List.mapM_cons, id] at h
        obtain ⟨first, hfirst, hrest⟩ := Option.bind_eq_some_iff.mp h
        obtain ⟨others, hothers, heq⟩ := Option.bind_eq_some_iff.mp hrest
        obtain rfl := Option.some.inj hfirst
        obtain rfl := Option.some.inj heq
        rw [List.length_cons] at hfuel hwidth
        have hrest := ih (by rw [List.length_drop]; omega) hothers
        rw [encodeChars_cons, List.length_append, String.length_utf8EncodeChar, hrest,
          List.length_drop, List.length_cons]
        omega

/-- Bytes that are read as a text are as many as the text has. -/
theorem length_of_text? {text : String} (h : text? bytes = some text) :
    (encodeChars text.toList).length = bytes.length := by
  obtain ⟨cs, hcs, rfl⟩ := Option.map_eq_some_iff.mp h
  rw [String.toList_ofList]
  exact length_encodeChars_of_decodeWithin (Nat.le_refl _) hcs

end Utf8

/-! ## Texts with characters left out -/

section Sublists

variable {cs ds : List Char}

theorem encodeChars_sublist (h : cs.Sublist ds) : (encodeChars cs).Sublist (encodeChars ds) :=
  h.flatMap _

/-- A text that has as many bytes as one it is left of is this text. -/
theorem eq_of_sublist_of_length_encodeChars (h : cs.Sublist ds)
    (hlength : (encodeChars cs).length = (encodeChars ds).length) : cs = ds :=
  encodeChars_injective ((encodeChars_sublist h).eq_of_length hlength)

end Sublists
end CacheTier
