/-!
# Hexadecimal text

Bytes and words written in lower-case hexadecimal digits, and bytes read back
from such digits.
-/

namespace CacheTier
namespace Hex

/-- The lower-case digit of a value below sixteen. -/
def digit (n : Nat) : Char :=
  if n < 10 then Char.ofNat (48 + n) else Char.ofNat (87 + n)

/-- The value of a hexadecimal digit of either case. -/
def value? (c : Char) : Option Nat :=
  if '0' ≤ c ∧ c ≤ '9' then some (c.toNat - 48)
  else if 'a' ≤ c ∧ c ≤ 'f' then some (c.toNat - 87)
  else if 'A' ≤ c ∧ c ≤ 'F' then some (c.toNat - 55)
  else none

/-- A number in exactly `width` digits, high digits first. -/
def ofNat (width n : Nat) : List Char :=
  match width with
  | 0 => []
  | w + 1 => ofNat w (n / 16) ++ [digit (n % 16)]

/-- A number in as many digits as it needs, and at least one. -/
def shortest (n : Nat) : List Char :=
  ofNat (n.log2 / 4 + 1) n

/-- Two digits for each byte, in order. -/
def ofBytes (bytes : List UInt8) : List Char :=
  bytes.flatMap fun b => ofNat 2 b.toNat

/-- Sixteen digits for a word of 64 bits. -/
def ofWord (w : UInt64) : String :=
  String.ofList (ofNat 16 w.toNat)

/-- Reads digits as one number; fails on a character that is no digit. -/
def toNat? (cs : List Char) : Option Nat :=
  cs.foldl (fun acc c => do
    let n ← acc
    let d ← value? c
    return n * 16 + d) (some 0)

/-- Reads pairs of digits as bytes. -/
def toBytes? : List Char → Option (List UInt8)
  | [] => some []
  | [_] => none
  | high :: low :: rest => do
    let h ← value? high
    let l ← value? low
    let bytes ← toBytes? rest
    return UInt8.ofNat (h * 16 + l) :: bytes

end Hex
end CacheTier
