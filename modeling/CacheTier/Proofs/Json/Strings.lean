import CacheTier.Json.Doc
import CacheTier.Json.Parser
import Mathlib.Tactic.SplitIfs

/-!
# Quoted strings

A string is written with escapes for quotes, backslashes and control characters, and every
string that is written so is read back, whatever characters it has and whatever follows it.
-/

namespace CacheTier
namespace Json

variable {c : Char} {cs rest : List Char} {fuel : Nat}

/-- Four hexadecimal digits show the number of a control character. -/
theorem toNat?_ofNat_four {n : Nat} (h : n < 0x20) : Hex.toNat? (Hex.ofNat 4 n) = some n := by
  have hall : ∀ m < 0x20, Hex.toNat? (Hex.ofNat 4 m) = some m := by decide
  exact hall n h

theorem units?_numbered (hcontrol : c.toNat < 0x20) (cs : List Char) :
    units? (fuel + 1) ('\\' :: 'u' :: (Hex.ofNat 4 c.toNat ++ cs)) =
      (units? fuel cs).map fun read => (.char c :: read.1, read.2) := by
  have hunit : Unit16.ofNat c.toNat = .char c := by
    have hlow : ¬ 0xd800 ≤ c.toNat := by omega
    simp [Unit16.ofNat, hlow]
  have hex : hex4? (Hex.ofNat 4 c.toNat ++ cs) = some (c.toNat, cs) := by
    have hread := toNat?_ofNat_four hcontrol
    simp only [Hex.ofNat, List.nil_append, List.cons_append] at hread ⊢
    simp only [hex4?, hread]
    rfl
  rw [units?, hex]
  change ((units? fuel cs).bind fun read => some (Unit16.ofNat c.toNat :: read.1, read.2)) = _
  rw [hunit, Option.map_eq_bind]
  rfl

theorem units?_letter {letter : Char} (hletter : letter ≠ 'u') (hescape : escape? letter = some c)
    (cs : List Char) :
    units? (fuel + 1) ('\\' :: letter :: cs) =
      (units? fuel cs).map fun read => (.char c :: read.1, read.2) := by
  rw [units?.eq_def]
  cases hunits : units? fuel cs with
  | none => simp [hescape, hunits]
  | some read => simp [hescape, hunits]

theorem units?_plain (hquote : c ≠ '"') (hslash : c ≠ '\\') (hcontrol : ¬ c.toNat < 0x20)
    (cs : List Char) :
    units? (fuel + 1) (c :: cs) =
      (units? fuel cs).map fun read => (.char c :: read.1, read.2) := by
  rw [units?.eq_def]
  cases hunits : units? fuel cs with
  | none => simp [hslash, hcontrol, hunits]
  | some read => simp [hslash, hcontrol, hunits]

/-- One character, however it is written, is one unit of the string. -/
theorem units?_escapeChar (c : Char) (cs : List Char) :
    units? (fuel + 1) (escapeChar c ++ cs) =
      (units? fuel cs).map fun read => (.char c :: read.1, read.2) := by
  rw [escapeChar.eq_def]
  split
  case h_8 hquote hslash _ _ _ _ _ =>
    split_ifs with hcontrol
    · exact units?_numbered hcontrol cs
    · exact units?_plain hquote hslash hcontrol cs
  all_goals exact units?_letter (by decide) rfl cs

theorem units?_flatMap_escapeChar (cs rest : List Char) (h : cs.length < fuel) :
    units? fuel (cs.flatMap escapeChar ++ '"' :: rest) = some (cs.map .char, rest) := by
  induction cs generalizing fuel with
  | nil =>
      obtain ⟨fuel, rfl⟩ := Nat.exists_eq_add_one.mpr h
      rfl
  | cons c cs ih =>
      obtain ⟨fuel, rfl⟩ := Nat.exists_eq_add_one.mpr (Nat.lt_of_le_of_lt (Nat.zero_le _) h)
      have hfuel : cs.length < fuel := Nat.lt_of_succ_lt_succ h
      rw [List.flatMap_cons, List.append_assoc, units?_escapeChar, ih hfuel]
      rfl

theorem joinUnits?_map_char (cs : List Char) : joinUnits? (cs.map .char) = some cs := by
  induction cs with
  | nil => rfl
  | cons c cs ih => rw [List.map_cons, joinUnits?, ih, Option.map_some]

theorem length_le_flatMap_escapeChar (cs : List Char) :
    cs.length ≤ (cs.flatMap escapeChar).length := by
  induction cs with
  | nil => exact Nat.le_refl _
  | cons c cs ih =>
      have hone : 1 ≤ (escapeChar c).length := by
        rw [escapeChar.eq_def]
        split
        case h_8 =>
          split_ifs
          · exact Nat.le_add_left 1 _
          · exact Nat.le_refl 1
        all_goals decide
      rw [List.flatMap_cons, List.length_append, List.length_cons]
      omega

/-- A quoted string is read back behind its first quote. -/
theorem string?_escaped (s : String) (rest : List Char) :
    string? (s.toList.flatMap escapeChar ++ '"' :: rest) = some (some s, rest) := by
  have hlength : s.toList.length <
      (s.toList.flatMap escapeChar ++ '"' :: rest).length + 1 := by
    have hle := length_le_flatMap_escapeChar s.toList
    rw [List.length_append]
    omega
  rw [string?, units?_flatMap_escapeChar _ _ hlength]
  change some ((joinUnits? (s.toList.map .char)).map String.ofList, rest) = _
  rw [joinUnits?_map_char, Option.map_some, String.ofList_toList]

end Json
end CacheTier
