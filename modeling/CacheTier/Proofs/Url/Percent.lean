import CacheTier.Proofs.Text.Utf8
import CacheTier.Url.Percent

/-!
# What becomes of a text in a URL

A text is encoded to stand in a part of a URL, and the part is decoded again.  Percent signs are
not encoded, so what comes back is the text only if none of its percent signs is followed by two
hexadecimal digits.  Otherwise these are taken for one byte, and fewer bytes come back.
-/

namespace CacheTier
namespace Percent

/-! ## Digits -/

/-- A hexadecimal digit of either case. -/
def isHexDigit (c : Char) : Bool := (Hex.value? c).isSome

/-- Somewhere in a text a percent sign is followed by two hexadecimal digits. -/
def HasEscape (cs : List Char) : Prop :=
  ∃ a b, isHexDigit a = true ∧ isHexDigit b = true ∧ ['%', a, b] <:+: cs

variable {a b c : Char} {cs : List Char} {x y : UInt8} {h l : Nat} {rest : List UInt8}

theorem isAscii_of_isHexDigit (ha : isHexDigit a = true) : a.toNat < 0x80 := by
  have hle {upper : Char} (h : a ≤ upper) (hupper : upper.toNat < 0x80) : a.toNat < 0x80 :=
    Nat.lt_of_le_of_lt (UInt32.le_iff_toNat_le.mp h) hupper
  rw [isHexDigit, Hex.value?] at ha
  split_ifs at ha with hdigit hlower hupper
  · exact hle hdigit.2 (by decide)
  · exact hle hlower.2 (by decide)
  · exact hle hupper.2 (by decide)
  · exact absurd ha Bool.false_ne_true

theorem encodeChars_cons_of_ascii (hc : c.toNat < 0x80) (cs : List Char) :
    encodeChars (c :: cs) = UInt8.ofNat c.toNat :: encodeChars cs := by
  have hone : c.val.toNat ≤ 127 := Nat.le_of_lt_succ hc
  rw [encodeChars_cons, String.utf8EncodeChar]
  simp only [if_pos hone]
  rfl

theorem ofNat_toNat_of_ascii (hc : c.toNat < 0x80) : Char.ofNat (UInt8.ofNat c.toNat).toNat = c := by
  rw [UInt8.toNat_ofNat_of_lt' (Nat.lt_trans hc (by decide)), Char.ofNat_toNat]

/-! ## Decoding -/

theorem decode_cons_of_ne (hx : x ≠ 0x25) (rest : List UInt8) :
    decode (x :: rest) = x :: decode rest := by
  rcases rest with _ | ⟨y, _ | ⟨z, rest⟩⟩
  · simp [decode]
  · simp [decode]
  · simp [decode, hx]

/-- A percent sign and two digits stand for one byte. -/
theorem decode_escape (ha : Hex.value? a = some h) (hb : Hex.value? b = some l)
    (rest : List UInt8) :
    decode (0x25 :: UInt8.ofNat a.toNat :: UInt8.ofNat b.toNat :: rest) =
      UInt8.ofNat (h * 16 + l) :: decode rest := by
  have hasciiA : a.toNat < 0x80 := isAscii_of_isHexDigit (by rw [isHexDigit, ha]; rfl)
  have hasciiB : b.toNat < 0x80 := isAscii_of_isHexDigit (by rw [isHexDigit, hb]; rfl)
  have hread : Hex.toBytes? [a, b] = some [UInt8.ofNat (h * 16 + l)] := by
    simp [Hex.toBytes?, ha, hb]
  rw [decode]
  simp only [ofNat_toNat_of_ascii hasciiA, ofNat_toNat_of_ascii hasciiB, hread]
  rfl

/-- A percent sign stands for itself unless two digits follow. -/
theorem decode_percent
    (hnot : ∀ x y later, rest = x :: y :: later →
      ¬(isHexDigit (Char.ofNat x.toNat) = true ∧ isHexDigit (Char.ofNat y.toNat) = true)) :
    decode (0x25 :: rest) = 0x25 :: decode rest := by
  rcases rest with _ | ⟨x, _ | ⟨y, later⟩⟩
  · simp [decode]
  · simp [decode]
  · have hnone : Hex.toBytes? [Char.ofNat x.toNat, Char.ofNat y.toNat] = none := by
      have hdigits := hnot x y later rfl
      rw [isHexDigit, isHexDigit] at hdigits
      cases hx : Hex.value? (Char.ofNat x.toNat) with
      | none => simp [Hex.toBytes?, hx]
      | some h =>
          cases hy : Hex.value? (Char.ofNat y.toNat) with
          | none => simp [Hex.toBytes?, hx, hy]
          | some l => simp [hx, hy] at hdigits
    rw [decode]
    simp [hnone]

/-- A byte that is written out as a percent sign and two digits comes back. -/
theorem decode_encodeChars_escape (x : UInt8) (rest : List UInt8) :
    decode (encodeChars (escape x) ++ rest) = x :: decode rest := by
  have hdigit : ∀ n < 16, Hex.value? (Hex.digit n).toUpper = some n := by decide
  have hbound := x.toNat_lt
  have hhigh := hdigit (x.toNat / 16 % 16) (Nat.mod_lt _ (by decide))
  have hlow := hdigit (x.toNat % 16) (Nat.mod_lt _ (by decide))
  have hvalue : x.toNat / 16 % 16 * 16 + x.toNat % 16 = x.toNat := by omega
  have hread := decode_escape hhigh hlow rest
  rw [hvalue, UInt8.ofNat_toNat] at hread
  rw [← hread]
  have hascii (n : Nat) (hn : Hex.value? (Hex.digit n).toUpper = some n) :
      (Hex.digit n).toUpper.toNat < 0x80 := isAscii_of_isHexDigit (by rw [isHexDigit, hn]; rfl)
  simp only [escape, Hex.ofNat, List.nil_append, List.cons_append, List.map_cons, List.map_nil]
  rw [encodeChars_cons_of_ascii (by decide), encodeChars_cons_of_ascii (hascii _ hhigh),
    encodeChars_cons_of_ascii (hascii _ hlow)]
  rfl

/-! ## Encoding and decoding again -/

theorem encodeChar_of_plain {isPlain : Char → Bool} (hascii : c.toNat < 0x80)
    (hplain : isPlain c = true) : encodeChar isPlain c = [c] := by
  simp [encodeChar, hascii, hplain]

theorem encodeChar_of_not_plain {isPlain : Char → Bool}
    (hc : ¬(c.toNat < 0x80 ∧ isPlain c = true)) :
    encodeChar isPlain c = (String.utf8EncodeChar c).flatMap escape := by
  have hbytes : (String.singleton c).toUTF8.toList = String.utf8EncodeChar c := by
    rw [toUTF8_toList, String.toList_singleton, encodeChars_cons, encodeChars_nil, List.append_nil]
  rw [encodeChar, if_neg (by simpa using hc), hbytes]

/-- The bytes that come back when a text has been encoded. -/
def reread (isPlain : Char → Bool) (cs : List Char) : List UInt8 :=
  decode (encodeChars (encode isPlain cs))

theorem decodeText?_encode (isPlain : Char → Bool) (cs : List Char) :
    decodeText? (String.ofList (encode isPlain cs)) = Utf8.text? (reread isPlain cs) := by
  rw [decodeText?, toUTF8_toList, String.toList_ofList, reread]

section Reread

variable {isPlain : Char → Bool} (hpercent : isPlain '%' = true)
  (hdigits : ∀ c, isHexDigit c = true → isPlain c = true)

theorem encode_cons (c : Char) (cs : List Char) :
    encode isPlain (c :: cs) = encodeChar isPlain c ++ encode isPlain cs := List.flatMap_cons

theorem reread_nil : reread isPlain [] = [] := by
  rw [reread, encode, List.flatMap_nil, encodeChars_nil, decode]

theorem decode_flatMap_escape (bytes rest : List UInt8) :
    decode (encodeChars (bytes.flatMap escape) ++ rest) = bytes ++ decode rest := by
  induction bytes with
  | nil => rfl
  | cons x bytes ih =>
      rw [List.flatMap_cons, encodeChars_append, List.append_assoc, decode_encodeChars_escape, ih,
        List.cons_append]

theorem reread_cons_of_ne (hc : c ≠ '%') (cs : List Char) :
    reread isPlain (c :: cs) = String.utf8EncodeChar c ++ reread isPlain cs := by
  rw [reread, encode_cons, encodeChars_append, reread]
  by_cases hplain : c.toNat < 0x80 ∧ isPlain c = true
  · have hbytes := encodeChars_cons_of_ascii hplain.1 []
    have hne : UInt8.ofNat c.toNat ≠ 0x25 := by
      intro heq
      apply hc
      rw [← ofNat_toNat_of_ascii hplain.1, heq]
      rfl
    rw [encodeChar_of_plain hplain.1 hplain.2, hbytes, encodeChars_nil, List.singleton_append,
      decode_cons_of_ne hne]
    rw [encodeChars_cons, encodeChars_nil, List.append_nil] at hbytes
    rw [hbytes, List.singleton_append]
  · rw [encodeChar_of_not_plain hplain, decode_flatMap_escape]

include hdigits in
theorem encodeChars_encode_of_isHexDigit (ha : isHexDigit a = true) (cs : List Char) :
    encodeChars (encode isPlain (a :: cs)) =
      UInt8.ofNat a.toNat :: encodeChars (encode isPlain cs) := by
  have hascii := isAscii_of_isHexDigit ha
  rw [encode_cons, encodeChar_of_plain hascii (hdigits a ha), List.singleton_append,
    encodeChars_cons_of_ascii hascii]

/-- Where a digit comes first in what has been encoded, it came first before. -/
theorem exists_cons_of_encode (hbytes : encodeChars (encode isPlain cs) = x :: rest)
    (hx : isHexDigit (Char.ofNat x.toNat) = true) :
    ∃ later, cs = Char.ofNat x.toNat :: later ∧ rest = encodeChars (encode isPlain later) := by
  rcases cs with _ | ⟨c, later⟩
  · simp [encode] at hbytes
  rw [encode_cons] at hbytes
  by_cases hplain : c.toNat < 0x80 ∧ isPlain c = true
  · rw [encodeChar_of_plain hplain.1 hplain.2, List.singleton_append,
      encodeChars_cons_of_ascii hplain.1, List.cons.injEq] at hbytes
    obtain ⟨rfl, rfl⟩ := hbytes
    rw [ofNat_toNat_of_ascii hplain.1]
    exact ⟨later, rfl, rfl⟩
  · -- what is written out begins with a percent sign
    rw [encodeChar_of_not_plain hplain] at hbytes
    cases hchar : String.utf8EncodeChar c with
    | nil => exact absurd hchar String.utf8EncodeChar_ne_nil
    | cons y more =>
        rw [hchar, List.flatMap_cons, escape, List.cons_append, List.cons_append,
          encodeChars_cons_of_ascii (by decide), List.cons.injEq] at hbytes
        rw [← hbytes.1] at hx
        exact absurd hx (by decide)

include hpercent

theorem reread_percent
    (hnot : ∀ a b later, cs = a :: b :: later → ¬(isHexDigit a = true ∧ isHexDigit b = true)) :
    reread isPlain ('%' :: cs) = 0x25 :: reread isPlain cs := by
  rw [reread, encode_cons, encodeChar_of_plain (by decide) hpercent, List.singleton_append,
    encodeChars_cons_of_ascii (by decide)]
  refine decode_percent fun x y later hbytes hboth => ?_
  obtain ⟨after, rfl, hrest⟩ := exists_cons_of_encode hbytes hboth.1
  obtain ⟨later, rfl, -⟩ := exists_cons_of_encode hrest.symm hboth.2
  exact hnot _ _ _ rfl hboth

/-- A text without escapes comes back as it was. -/
theorem reread_of_not_hasEscape (hcs : ¬HasEscape cs) : reread isPlain cs = encodeChars cs := by
  induction cs with
  | nil => exact reread_nil
  | cons c cs ih =>
      have hrest : ¬HasEscape cs := by
        rintro ⟨a, b, ha, hb, hwithin⟩
        exact hcs ⟨a, b, ha, hb, List.infix_cons hwithin⟩
      by_cases hc : c = '%'
      · subst hc
        rw [reread_percent hpercent, ih hrest, encodeChars_cons_of_ascii (by decide)]
        · rfl
        · rintro a b later rfl ⟨ha, hb⟩
          exact hcs ⟨a, b, ha, hb, (List.prefix_append ['%', a, b] later).isInfix⟩
      · rw [reread_cons_of_ne hc, ih hrest, encodeChars_cons]

include hdigits

theorem reread_escape (ha : Hex.value? a = some h) (hb : Hex.value? b = some l)
    (cs : List Char) :
    reread isPlain ('%' :: a :: b :: cs) = UInt8.ofNat (h * 16 + l) :: reread isPlain cs := by
  have hdigitA : isHexDigit a = true := by rw [isHexDigit, ha]; rfl
  have hdigitB : isHexDigit b = true := by rw [isHexDigit, hb]; rfl
  rw [reread, encode_cons, encodeChar_of_plain (by decide) hpercent, List.singleton_append,
    encodeChars_cons_of_ascii (by decide), encodeChars_encode_of_isHexDigit hdigits hdigitA,
    encodeChars_encode_of_isHexDigit hdigits hdigitB]
  exact decode_escape ha hb _

/-- Never do more bytes come back than the text has, and fewer do if it has an escape. -/
theorem length_reread (cs : List Char) :
    (reread isPlain cs).length ≤ (encodeChars cs).length ∧
      (HasEscape cs → (reread isPlain cs).length < (encodeChars cs).length) := by
  -- an escape takes three characters at once
  induction hlength : cs.length using Nat.strongRecOn generalizing cs with
  | ind size ih =>
      rcases cs with _ | ⟨c, cs⟩
      · rw [reread_nil]
        exact ⟨Nat.le_refl _, by rintro ⟨a, b, -, -, hwithin⟩; simp at hwithin⟩
      have hshorter (later : List Char) (hlater : later.length < size) := ih _ hlater later rfl
      by_cases hc : c = '%'
      · subst hc
        rw [encodeChars_cons_of_ascii (by decide), List.length_cons]
        by_cases hfront : ∃ a b later, cs = a :: b :: later ∧
            isHexDigit a = true ∧ isHexDigit b = true
        · obtain ⟨a, b, later, rfl, ha, hb⟩ := hfront
          obtain ⟨h, hvalueA⟩ := Option.isSome_iff_exists.mp ha
          obtain ⟨l, hvalueB⟩ := Option.isSome_iff_exists.mp hb
          obtain ⟨hle, -⟩ := hshorter later (by simp at hlength; omega)
          rw [reread_escape hpercent hdigits hvalueA hvalueB,
            encodeChars_cons_of_ascii (isAscii_of_isHexDigit ha),
            encodeChars_cons_of_ascii (isAscii_of_isHexDigit hb)]
          simp only [List.length_cons]
          exact ⟨by omega, fun _ => by omega⟩
        · obtain ⟨hle, hlt⟩ := hshorter cs (by simp at hlength; omega)
          rw [reread_percent hpercent fun a b later heq hboth => hfront ⟨a, b, later, heq, hboth⟩,
            List.length_cons]
          refine ⟨Nat.succ_le_succ hle, ?_⟩
          rintro ⟨a, b, ha, hb, hwithin⟩
          rcases List.infix_cons_iff.mp hwithin with hbegins | hwithin
          · obtain ⟨later, heq⟩ := (List.prefix_cons_inj _).mp hbegins
            exact absurd ⟨a, b, later, heq.symm, ha, hb⟩ hfront
          · exact Nat.succ_lt_succ (hlt ⟨a, b, ha, hb, hwithin⟩)
      · obtain ⟨hle, hlt⟩ := hshorter cs (by simp at hlength; omega)
        rw [reread_cons_of_ne hc, encodeChars_cons, List.length_append, List.length_append]
        refine ⟨Nat.add_le_add_left hle _, ?_⟩
        rintro ⟨a, b, ha, hb, hwithin⟩
        rcases List.infix_cons_iff.mp hwithin with hbegins | hwithin
        · exact absurd (List.cons_prefix_cons.mp hbegins).1.symm hc
        · exact Nat.add_lt_add_left (hlt ⟨a, b, ha, hb, hwithin⟩) _

end Reread

/-- What a text is encoded to consists of its own plain characters, of percent signs and of
digits. -/
theorem mem_encode {isPlain : Char → Bool} (hc : c ∈ encode isPlain cs) :
    (c ∈ cs ∧ isPlain c = true) ∨ c = '%' ∨ isHexDigit c = true := by
  obtain ⟨d, hd, hc⟩ := List.mem_flatMap.mp hc
  by_cases hplain : d.toNat < 0x80 ∧ isPlain d = true
  · rw [encodeChar_of_plain hplain.1 hplain.2, List.mem_singleton] at hc
    exact Or.inl ⟨hc ▸ hd, hc ▸ hplain.2⟩
  · rw [encodeChar_of_not_plain hplain] at hc
    obtain ⟨x, -, hc⟩ := List.mem_flatMap.mp hc
    have hdigit : ∀ n < 16, isHexDigit (Hex.digit n).toUpper = true := by decide
    simp only [escape, Hex.ofNat, List.nil_append, List.cons_append, List.map_cons, List.map_nil,
      List.mem_cons, List.not_mem_nil, or_false] at hc
    rcases hc with rfl | rfl | rfl
    · exact Or.inr (Or.inl rfl)
    · exact Or.inr (Or.inr (hdigit _ (Nat.mod_lt _ (by decide))))
    · exact Or.inr (Or.inr (hdigit _ (Nat.mod_lt _ (by decide))))

end Percent
end CacheTier
