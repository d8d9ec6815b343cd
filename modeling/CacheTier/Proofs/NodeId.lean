import CacheTier.NodeId
import Mathlib.Order.Defs.Unbundled
import Mathlib.Data.String.Basic

/-!
# Identifiers as bytes

Identifiers are compared by their characters, while other processes compare
the bytes that encode them.  This module shows that the two orders are one:
the encoding of characters respects their order whatever bytes follow.  It
also collects the facts about identifiers that sorted tables and rings need.
-/

namespace CacheTier

/-! ## Characters and their bytes -/

/-- The bytes of a list of characters. -/
def encodeChars (cs : List Char) : List UInt8 := cs.flatMap String.utf8EncodeChar

@[simp] theorem encodeChars_nil : encodeChars [] = [] := rfl

@[simp] theorem encodeChars_cons (c : Char) (cs : List Char) :
    encodeChars (c :: cs) = String.utf8EncodeChar c ++ encodeChars cs := by
  simp [encodeChars]

theorem encodeChars_append (cs ds : List Char) :
    encodeChars (cs ++ ds) = encodeChars cs ++ encodeChars ds := by
  simp [encodeChars]

/-- A smaller character has smaller bytes, whatever bytes come after either. -/
theorem encodeChar_append_lt
    {c d : Char} (h : c < d) (rest rest' : List UInt8) :
    String.utf8EncodeChar c ++ rest < String.utf8EncodeChar d ++ rest' := by
  have hlt : c.val.toNat < d.val.toNat := by
    simpa [Char.lt_def, UInt32.lt_iff_toNat_lt] using h
  have hbound : d.val.toNat < 0x110000 := by
    rcases d.valid with h | h <;> omega
  -- the leading digits in base 64, written through one another
  have hsplit : ∀ n : ℕ, n / 262144 = n / 4096 / 64 ∧ n / 4096 = n / 64 / 64 := by
    intro n
    constructor <;> rw [Nat.div_div_eq_div_mul]
  have hc := hsplit c.val.toNat
  have hd := hsplit d.val.toNat
  simp only [String.utf8EncodeChar]
  split_ifs <;>
    simp (disch := omega) only [List.cons_append, List.nil_append, List.cons_lt_cons_iff,
      UInt8.lt_iff_toNat_lt, ← UInt8.toNat_inj, UInt8.toNat_ofNat', Nat.reducePow,
      Nat.mod_eq_of_lt] <;>
    omega

theorem encodeChars_lt_of_lt
    {cs ds : List Char} (h : cs < ds) : encodeChars cs < encodeChars ds := by
  induction h with
  | nil =>
      rename_i d ds
      cases hd : String.utf8EncodeChar d with
      | nil => exact absurd hd String.utf8EncodeChar_ne_nil
      | cons b bs => simp [hd]
  | rel h => simpa using encodeChar_append_lt h _ _
  | cons _ ih => simpa using List.append_left_lt ih

theorem encodeChars_lt_iff {cs ds : List Char} :
    encodeChars cs < encodeChars ds ↔ cs < ds := by
  constructor
  · intro h
    rcases lt_trichotomy cs ds with hlt | heq | hgt
    · exact hlt
    · exact absurd (heq ▸ h) (List.lt_irrefl _)
    · exact absurd (encodeChars_lt_of_lt hgt) (List.lt_asymm h)
  · exact encodeChars_lt_of_lt

/-- Different characters have different bytes. -/
theorem encodeChars_injective : Function.Injective encodeChars := by
  intro cs ds h
  rcases lt_trichotomy cs ds with hlt | heq | hgt
  · exact absurd (h ▸ encodeChars_lt_of_lt hlt) (List.lt_irrefl _)
  · exact heq
  · exact absurd (h ▸ encodeChars_lt_of_lt hgt) (List.lt_irrefl _)

/-! ## The bytes of a text -/

theorem byteArray_toList_loop
    (bytes : ByteArray) (i : ℕ) (read : List UInt8) :
    ByteArray.toList.loop bytes i read = read.reverse ++ bytes.data.toList.drop i := by
  fun_induction ByteArray.toList.loop bytes i read with
  | case1 i read h ih =>
      have hi : i < bytes.data.size := h
      have hget : bytes.get! i = bytes.data[i] := getElem!_pos bytes.data i hi
      have hdrop := List.drop_eq_getElem_cons (l := bytes.data.toList) (i := i) hi
      rw [ih, hget, hdrop]
      simp
  | case2 i read h =>
      have hi : bytes.data.size ≤ i := Nat.le_of_not_lt h
      rw [List.drop_eq_nil_of_le (by simpa using hi), List.append_nil]

theorem byteArray_toList (bytes : ByteArray) : bytes.toList = bytes.data.toList := by
  rw [ByteArray.toList, byteArray_toList_loop]
  rfl

theorem toUTF8_toList (text : String) :
    text.toUTF8.toList = encodeChars text.toList := by
  rw [byteArray_toList, String.toUTF8_eq_toByteArray, ← String.utf8Encode_toList,
    List.utf8Encode]
  simp [encodeChars]

namespace NodeId

theorem bytes_eq (id : NodeId) : id.bytes = encodeChars id.text.toList :=
  toUTF8_toList id.text

/-- Identifiers are ordered as their bytes are. -/
theorem lt_iff_bytes_lt {a b : NodeId} : a < b ↔ a.bytes < b.bytes := by
  rw [bytes_eq, bytes_eq, encodeChars_lt_iff]
  exact Iff.rfl

theorem ext_text {a b : NodeId} (h : a.text = b.text) : a = b := by
  cases a
  cases b
  simpa using h

instance : IsStrictTotalOrder NodeId (· < ·) where
  irrefl a := String.lt_irrefl a.text
  trans _ _ _ := String.lt_trans
  trichotomous _ _ hab hba :=
    ext_text (le_antisymm (String.not_lt.mp hba) (String.not_lt.mp hab))

theorem isEmpty_iff {id : NodeId} : id.isEmpty = true ↔ id = empty := by
  constructor
  · intro h
    exact ext_text (String.isEmpty_iff.mp h)
  · rintro rfl
    rfl

end NodeId
end CacheTier
