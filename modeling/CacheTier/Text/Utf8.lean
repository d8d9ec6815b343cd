/-!
# Encoded text

Characters decoded from bytes.  A byte that begins no well-formed character is
kept as a place without one.
-/

namespace CacheTier
namespace Utf8

/-- The six bits that a byte after the first carries. -/
def tail? (b : UInt8) : Option Nat :=
  if 0x80 ≤ b && b < 0xc0 then some (b.toNat - 0x80) else none

/-- The character of a number, unless a shorter form or no character has it. -/
def char? (least n : Nat) : Option Char :=
  if least ≤ n && n.isValidChar then some (Char.ofNat n) else none

/-- The character of two bytes. -/
def two? (a b : UInt8) : Option Char := do
  if 0xc0 ≤ a && a < 0xe0 then char? 0x80 ((a.toNat - 0xc0) * 0x40 + (← tail? b)) else none

/-- The character of three bytes. -/
def three? (a b c : UInt8) : Option Char := do
  if 0xe0 ≤ a && a < 0xf0 then
    char? 0x800 (((a.toNat - 0xe0) * 0x40 + (← tail? b)) * 0x40 + (← tail? c))
  else none

/-- The character of four bytes. -/
def four? (a b c d : UInt8) : Option Char := do
  if 0xf0 ≤ a && a < 0xf8 then
    char? 0x10000
      ((((a.toNat - 0xf0) * 0x40 + (← tail? b)) * 0x40 + (← tail? c)) * 0x40 + (← tail? d))
  else none

/-- The first character of some bytes, with the number of bytes that encode it. -/
def head? : List UInt8 → Option (Char × Nat)
  | [] => none
  | a :: rest =>
    if a < 0x80 then some (Char.ofNat a.toNat, 1)
    else
      match rest with
      | b :: c :: d :: _ =>
        ((two? a b).map (·, 2)).or (((three? a b c).map (·, 3)).or ((four? a b c d).map (·, 4)))
      | [b, c] => ((two? a b).map (·, 2)).or ((three? a b c).map (·, 3))
      | [b] => (two? a b).map (·, 2)
      | [] => none

/-- The characters of some bytes, read in at most `fuel` steps. -/
def decodeWithin : Nat → List UInt8 → List (Option Char)
  | 0, _ => []
  | _, [] => []
  | fuel + 1, a :: rest =>
    match head? (a :: rest) with
    | some (c, width) => some c :: decodeWithin fuel (rest.drop (width - 1))
    | none => none :: decodeWithin fuel rest

/-- The characters of some bytes. -/
def decode (bytes : List UInt8) : List (Option Char) := decodeWithin bytes.length bytes

/-- The text of some bytes, if all of them are well-formed. -/
def text? (bytes : List UInt8) : Option String := (decode bytes).mapM id |>.map String.ofList

/-- The text of some bytes with a replacement character for each one that is not
well-formed. -/
def lossyText (bytes : List UInt8) : String :=
  String.ofList ((decode bytes).map (·.getD '\ufffd'))

end Utf8
end CacheTier
