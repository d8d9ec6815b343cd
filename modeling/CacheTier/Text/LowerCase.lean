import CacheTier.Text.LetterCase

/-!
# Lower-case text

A text is lower-cased character by character.  Two characters are special: a
dotted capital I gives an i and a combining dot, and a capital sigma takes its
final form at the end of a word.
-/

namespace CacheTier
namespace LetterCase

/-- Whether one of some ranges covers a character. -/
def covers (ranges : List (Nat × Nat)) (c : Char) : Bool :=
  ranges.any fun (first, last) => first ≤ c.toNat && c.toNat ≤ last

/-- Whether a mapping applies to a character. -/
def Mapping.applies (m : Mapping) (c : Char) : Bool :=
  m.first ≤ c.toNat && c.toNat ≤ m.last && (c.toNat - m.first) % m.stride == 0

/-- The lower case of a character, where that is one character. -/
def lowerChar (c : Char) : Char :=
  match mappings.find? (·.applies c) with
  | some m => Char.ofNat (c.toNat + m.distance).toNat
  | none => c

/-- Whether the first character that counts in a list has case. -/
def startsCased (cs : List Char) : Bool :=
  match cs.dropWhile (covers skippedRanges) with
  | c :: _ => covers casedRanges c
  | [] => false

/-- Lower-cases `rest`, which follows the reversed text `before`. -/
def lowerAfter (before : List Char) : List Char → List Char
  | [] => []
  | c :: rest =>
    let lowered :=
      if c == 'Σ' then
        if startsCased before && !startsCased rest then ['ς'] else ['σ']
      else if c == 'İ' then ['i', Char.ofNat 0x307]
      else [lowerChar c]
    lowered ++ lowerAfter (c :: before) rest

/-- The lower case of a text. -/
def lower (s : String) : String :=
  String.ofList (lowerAfter [] s.toList)

end LetterCase
end CacheTier
