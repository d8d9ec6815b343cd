import CacheTier.Text.Hex
import CacheTier.Text.Utf8

/-!
# Percent encoding

Bytes that may not stand in a part of a URL are written as a percent sign and two
upper-case hexadecimal digits.  A percent sign without two digits after it stands
for itself.
-/

namespace CacheTier
namespace Percent

/-- The bytes that some bytes stand for. -/
def decode : List UInt8 → List UInt8
  | [] => []
  | [a] => [a]
  | [a, b] => [a, b]
  | a :: b :: c :: rest =>
    let escaped := if a == 0x25 then Hex.toBytes? [Char.ofNat b.toNat, Char.ofNat c.toNat] else none
    match escaped with
    | some bytes => bytes ++ decode rest
    | none => a :: decode (b :: c :: rest)

/-- The text that a part of a URL stands for, if it stands for one. -/
def decodeText? (part : String) : Option String :=
  Utf8.text? (decode part.toUTF8.toList)

/-- A byte in its encoded form. -/
def escape (b : UInt8) : List Char := '%' :: (Hex.ofNat 2 b.toNat).map Char.toUpper

/-- A character, encoded unless it is ASCII and may stand for itself. -/
def encodeChar (isPlain : Char → Bool) (c : Char) : List Char :=
  if c.toNat < 0x80 && isPlain c then [c]
  else (String.singleton c).toUTF8.toList.flatMap escape

/-- A text with the characters encoded that may not stand for themselves. -/
def encode (isPlain : Char → Bool) (cs : List Char) : List Char :=
  cs.flatMap (encodeChar isPlain)

end Percent
end CacheTier
