import CacheTier.Json.Reading
import CacheTier.Text.Utf8

/-!
# JSON in bytes

The text of some bytes as far as they are well-formed characters.  A byte that
begins no character is a fault of the string it stands in, which only matters to
a reader that wants the string, and a fault of the text anywhere else.
-/

namespace CacheTier
namespace Json

/-- An escape that stands for no character, whatever comes before and after it. -/
def voidEscape : List Char := ['\\', 'u', 'd', 'c', '0', '0', '\\', 'u', 'd', 'c', '0', '0']

/-- Characters with an escape for every place without one; behind a backslash such a
place makes an escape that is none. -/
def patched : Bool → List (Option Char) → List Char
  | _, [] => []
  | escaped, some c :: rest => c :: patched (!escaped && c == '\\') rest
  | true, none :: rest => 'x' :: patched false rest
  | false, none :: rest => voidEscape ++ patched false rest

/-- The text of some bytes. -/
def textOfBytes (bytes : List UInt8) : List Char := patched false (Utf8.decode bytes)

/-- Reads the value that some bytes begin with. -/
def readBytes {α : Type} (read : Value → Reading α) (bytes : ByteArray) : Reading α :=
  readFirst read (textOfBytes bytes.toList)

/-- Reads the value that some bytes are; only spaces may follow it. -/
def readAllBytes {α : Type} (read : Value → Reading α) (bytes : ByteArray) : Reading α :=
  readAll read (textOfBytes bytes.toList)

end Json
end CacheTier
