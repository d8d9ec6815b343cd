import CacheTier.Digest.Md5
import CacheTier.Digest.Sha1
import CacheTier.FleetError
import CacheTier.NodeId
import CacheTier.Text.Hex

/-!
# Digests shared by the fleet

Every process places keys with the same two digests: a position on the ring
for a label, and a checksum for a list of members.  Members are separated by a
line break in the checksummed text.
-/

namespace CacheTier
namespace Digest

/-- Eight bytes as a number, most significant first. -/
def word64BigEndian (bytes : List UInt8) : UInt64 :=
  bytes.foldl (fun acc b => acc <<< 8 ||| b.toUInt64) 0

/-- The ring position of a byte string: the head of its MD5 digest. -/
def position (bytes : List UInt8) : UInt64 :=
  word64BigEndian ((Md5.digest bytes).take 8)

/-- The bytes that the checksum of a membership is taken over. -/
def memberLines (ids : List NodeId) : List UInt8 :=
  ids.flatMap fun id => id.bytes ++ [10]

/-- The checksum of a list of members, in hexadecimal. -/
def checksum (ids : List NodeId) : String :=
  String.ofList (Hex.ofBytes (Sha1.digest (memberLines ids)))

/-- The position every process must compute for the text `abc`. -/
def knownPosition : UInt64 := 0x900150983cd24fb0

/-- The checksum every process must compute for two fixed members. -/
def knownChecksum : String := "65d5c5ee53d93090c50d85740fd880064ed560a5"

/-- Checks both digests against their known answers. -/
def check : Except FleetError Unit :=
  let reached := position "abc".toUTF8.toList
  let sum := checksum [⟨"node-a"⟩, ⟨"node-b"⟩]
  if reached != knownPosition then
    .error (.configuration
      ("ring digest self-test failed: expected 0x" ++ Hex.ofWord knownPosition ++
        ", got 0x" ++ Hex.ofWord reached))
  else if sum != knownChecksum then
    .error (.configuration
      ("checksum digest self-test failed: expected " ++ knownChecksum ++
        ", got " ++ sum))
  else .ok ()

end Digest
end CacheTier
