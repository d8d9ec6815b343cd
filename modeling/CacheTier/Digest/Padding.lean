/-!
# Padded messages

Both digests of the ring work on blocks of 64 bytes: a message is followed by
the byte `0x80`, by zeros up to eight bytes short of a block boundary, and by
its length in bits as a 64-bit number.
-/

namespace CacheTier
namespace Digest

/-- The low `count` bytes of a number, least significant first. -/
def littleEndian (count n : Nat) : List UInt8 :=
  (List.range count).map fun i => UInt8.ofNat (n >>> (8 * i))

/-- The low `count` bytes of a number, most significant first. -/
def bigEndian (count n : Nat) : List UInt8 :=
  (littleEndian count n).reverse

/-- A message with its terminator, its zeros and a given length field. -/
def padded (lengthField : Nat → List UInt8) (message : List UInt8) : List UInt8 :=
  let zeros := (119 - message.length % 64) % 64
  message ++ 0x80 :: List.replicate zeros 0 ++ lengthField (8 * message.length)

/-- The first `count` blocks of `size` bytes. -/
def blocks (size : Nat) : Nat → List UInt8 → List (List UInt8)
  | 0, _ => []
  | count + 1, bytes => bytes.take size :: blocks size count (bytes.drop size)

/-- The 64-byte blocks of a padded message. -/
def messageBlocks (lengthField : Nat → List UInt8) (message : List UInt8) :
    List (List UInt8) :=
  let bytes := padded lengthField message
  blocks 64 (bytes.length / 64) bytes

/-- Four bytes as a word, least significant first. -/
def wordLittleEndian (bytes : List UInt8) : UInt32 :=
  bytes.foldr (fun b acc => acc <<< 8 ||| b.toUInt32) 0

/-- Four bytes as a word, most significant first. -/
def wordBigEndian (bytes : List UInt8) : UInt32 :=
  bytes.foldl (fun acc b => acc <<< 8 ||| b.toUInt32) 0

/-- The sixteen words of a block under a given byte order. -/
def blockWords (word : List UInt8 → UInt32) (block : List UInt8) : Array UInt32 :=
  ((blocks 4 16 block).map word).toArray

/-- Rotation of a word toward its high end. -/
def rotateLeft (w amount : UInt32) : UInt32 :=
  w <<< amount ||| w >>> (32 - amount)

end Digest
end CacheTier
