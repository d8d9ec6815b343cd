import CacheTier.Digest.Padding

/-!
# The SHA-1 digest

A message digest of 160 bits.  The registry identifies a membership by it.
-/

namespace CacheTier
namespace Sha1

open Digest

/-- The five words that a block is mixed into. -/
structure State where
  a : UInt32
  b : UInt32
  c : UInt32
  d : UInt32
  e : UInt32
  deriving DecidableEq, Repr

/-- The state before the first block. -/
def start : State :=
  ⟨0x67452301, 0xefcdab89, 0x98badcfe, 0x10325476, 0xc3d2e1f0⟩

/-- Extends the words of a block by one: a rotated sum of four earlier words. -/
def extend (words : Array UInt32) : Array UInt32 :=
  let n := words.size
  let w (back : Nat) := words.getD (n - back) 0
  words.push (rotateLeft (w 3 ^^^ w 8 ^^^ w 14 ^^^ w 16) 1)

/-- The eighty words that a block is expanded to. -/
def schedule (block : List UInt8) : Array UInt32 :=
  (List.range 64).foldl (fun words _ => extend words) (blockWords wordBigEndian block)

/-- The mixing function of a step and its additive constant. -/
def mixing (i : Nat) (s : State) : UInt32 × UInt32 :=
  match i / 20 with
  | 0 => (s.b &&& s.c ||| ~~~s.b &&& s.d, 0x5a827999)
  | 1 => (s.b ^^^ s.c ^^^ s.d, 0x6ed9eba1)
  | 2 => (s.b &&& s.c ||| s.b &&& s.d ||| s.c &&& s.d, 0x8f1bbcdc)
  | _ => (s.b ^^^ s.c ^^^ s.d, 0xca62c1d6)

/-- One of the 80 steps over a block. -/
def step (words : Array UInt32) (s : State) (i : Nat) : State :=
  let (f, constant) := mixing i s
  let sum := rotateLeft s.a 5 + f + s.e + constant + words.getD i 0
  ⟨sum, s.a, rotateLeft s.b 30, s.c, s.d⟩

/-- Mixes one block into the state. -/
def compress (s : State) (block : List UInt8) : State :=
  let mixed := (List.range 80).foldl (step (schedule block)) s
  ⟨s.a + mixed.a, s.b + mixed.b, s.c + mixed.c, s.d + mixed.d, s.e + mixed.e⟩

/-- The final state of a message. -/
def final (message : List UInt8) : State :=
  (messageBlocks (bigEndian 8) message).foldl compress start

/-- The twenty bytes of a message's digest. -/
def digest (message : List UInt8) : List UInt8 :=
  let s := final message
  [s.a, s.b, s.c, s.d, s.e].flatMap fun w => bigEndian 4 w.toNat

end Sha1
end CacheTier
