import CacheTier.Url.Percent

/-!
# Form-encoded queries

Names and values of a query: pairs between ampersands, an equals sign within a
pair, a plus sign for a space, everything else percent-encoded.
-/

namespace CacheTier
namespace Form

/-- A name or a value of a query. -/
def decode (part : List Char) : String :=
  let spaced := part.map fun c => if c == '+' then ' ' else c
  Utf8.lossyText (Percent.decode (String.ofList spaced).toUTF8.toList)

/-- A pair; without an equals sign the value is empty. -/
def pair (part : List Char) : String × String :=
  (decode (part.takeWhile (· != '=')), decode ((part.dropWhile (· != '=')).drop 1))

/-- The pairs of a query in the order they are written. -/
def pairs (query : List Char) : List (String × String) :=
  ((query.splitOn '&').filter (!·.isEmpty)).map pair

/-- Whether a character stands for itself in a query. -/
def isPlain (c : Char) : Bool := c.isAlphanum || c ∈ ['*', '-', '.', '_']

/-- A character of a name or a value. -/
def encodeChar (c : Char) : List Char :=
  if c == ' ' then ['+'] else Percent.encodeChar isPlain c

/-- A name or a value in a query. -/
def encode (s : String) : List Char := s.toList.flatMap encodeChar

/-- A pair in a query. -/
def encodePair (name value : String) : String :=
  String.ofList (encode name ++ '=' :: encode value)

end Form
end CacheTier
