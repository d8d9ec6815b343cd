import CacheTier.Json.Value
import CacheTier.Text.Hex

/-!
# Parsing JSON

A parser from characters to the tree of a text and the characters after it.
It never fails: what is not well-formed is marked in the tree.
-/

namespace CacheTier
namespace Json

/-- The characters that may stand between tokens. -/
def isSpace (c : Char) : Bool := c == ' ' || c == '\n' || c == '\t' || c == '\r'

def skipSpace (cs : List Char) : List Char := cs.dropWhile isSpace

/-- A character of a string, or half of a surrogate pair. -/
inductive Unit16 where
  | char (c : Char)
  | surrogate (n : Nat)
  deriving DecidableEq, Repr

/-- Four hexadecimal digits and what follows them. -/
def hex4? : List Char → Option (Nat × List Char)
  | a :: b :: c :: d :: rest => do
    let n ← Hex.toNat? [a, b, c, d]
    return (n, rest)
  | _ => none

/-- The unit that a four-digit escape stands for. -/
def Unit16.ofNat (n : Nat) : Unit16 :=
  if 0xd800 ≤ n && n < 0xe000 then .surrogate n else .char (Char.ofNat n)

/-- The character of a one-letter escape. -/
def escape? : Char → Option Char
  | '"' => some '"'
  | '\\' => some '\\'
  | '/' => some '/'
  | 'b' => some '\x08'
  | 'f' => some '\x0c'
  | 'n' => some '\n'
  | 'r' => some '\r'
  | 't' => some '\t'
  | _ => none

/-- The units of a string after its opening quote, and what follows the closing
one. -/
def units? : Nat → List Char → Option (List Unit16 × List Char)
  | 0, _ => none
  | fuel + 1, cs =>
    match cs with
    | [] => none
    | '"' :: rest => some ([], rest)
    | '\\' :: 'u' :: rest => do
      let (n, rest) ← hex4? rest
      let (units, rest) ← units? fuel rest
      return (.ofNat n :: units, rest)
    | '\\' :: c :: rest => do
      let e ← escape? c
      let (units, rest) ← units? fuel rest
      return (.char e :: units, rest)
    | c :: rest =>
      if c.toNat < 0x20 || c == '\\' then none
      else do
        let (units, rest) ← units? fuel rest
        return (.char c :: units, rest)

/-- Joins surrogate pairs; fails on half of a pair. -/
def joinUnits? : List Unit16 → Option (List Char)
  | [] => some []
  | .char c :: rest => (joinUnits? rest).map (c :: ·)
  | .surrogate high :: .surrogate low :: rest =>
    if high < 0xdc00 && 0xdc00 ≤ low then
      (joinUnits? rest).map
        (Char.ofNat (0x10000 + (high - 0xd800) * 0x400 + (low - 0xdc00)) :: ·)
    else none
  | .surrogate _ :: _ => none

/-- A string after its opening quote. -/
def string? (cs : List Char) : Option (Option String × List Char) := do
  let (units, rest) ← units? (cs.length + 1) cs
  return ((joinUnits? units).map String.ofList, rest)

/-- The digits at the start of some characters, and the rest. -/
def digits (cs : List Char) : List Char × List Char :=
  (cs.takeWhile Char.isDigit, cs.dropWhile Char.isDigit)

/-- The digits of a whole number: a lone zero, or no zero in front. -/
def integer? (cs : List Char) : Option (List Char × List Char) :=
  match digits cs with
  | ([], _) => none
  | ('0' :: _ :: _, _) => none
  | (ds, rest) => some (ds, rest)

/-- The digits after a point, if there is a point. -/
def fraction? : List Char → Option (List Char × List Char)
  | '.' :: cs =>
    match digits cs with
    | ([], _) => none
    | (ds, rest) => some (ds, rest)
  | cs => some ([], cs)

/-- The sign and the digits of an exponent, if there is one. -/
def exponent? (cs : List Char) : Option (Option (Bool × List Char) × List Char) :=
  let signed (negative : Bool) (cs : List Char) :=
    match digits cs with
    | ([], _) => none
    | (ds, rest) => some (some (negative, ds), rest)
  match cs with
  | e :: rest =>
    if e == 'e' || e == 'E' then
      match rest with
      | '-' :: rest => signed true rest
      | '+' :: rest => signed false rest
      | rest => signed false rest
    else some (none, cs)
  | [] => some (none, [])

/-- A number without its sign. -/
def magnitude? (negative : Bool) (cs : List Char) : Option (Numeral × List Char) := do
  let (integer, rest) ← integer? cs
  let (fraction, rest) ← fraction? rest
  let (exponent, rest) ← exponent? rest
  return (⟨negative, integer, fraction, exponent⟩, rest)

/-- A number. -/
def numeral? : List Char → Option (Numeral × List Char)
  | '-' :: cs => magnitude? true cs
  | cs => magnitude? false cs

/-- A literal word after its first character. -/
def word (value : Value) (tail : List Char) (cs : List Char) : Value × List Char :=
  if tail.isPrefixOf cs then (value, cs.drop tail.length) else (.torn, [])

mutual

/-- A value with at most `fuel` nested readings. -/
def value : Nat → List Char → Value × List Char
  | 0, _ => (.torn, [])
  | fuel + 1, cs =>
    match skipSpace cs with
    | [] => (.torn, [])
    | 'n' :: rest => word .null ['u', 'l', 'l'] rest
    | 't' :: rest => word (.bool true) ['r', 'u', 'e'] rest
    | 'f' :: rest => word (.bool false) ['a', 'l', 's', 'e'] rest
    | '"' :: rest =>
      match string? rest with
      | some (s, rest) => (.text s, rest)
      | none => (.torn, [])
    | '[' :: rest =>
      match skipSpace rest with
      | ']' :: rest => (.array [] true, rest)
      | rest =>
        let (xs, closed, rest) := items fuel rest
        (.array xs closed, rest)
    | '\x7b' :: rest =>
      match skipSpace rest with
      | '\x7d' :: rest => (.object [] true, rest)
      | rest =>
        let (xs, closed, rest) := fields fuel rest
        (.object xs closed, rest)
    | rest =>
      match numeral? rest with
      | some (n, rest) => (.number n, rest)
      | none => (.torn, [])

/-- The items of an array that is not empty, and whether it is closed. -/
def items : Nat → List Char → List Value × Bool × List Char
  | 0, _ => ([], false, [])
  | fuel + 1, cs =>
    match skipSpace cs with
    | ']' :: _ => ([], false, [])
    | cs =>
      let (x, rest) := value fuel cs
      match skipSpace rest with
      | ',' :: rest =>
        let (xs, closed, rest) := items fuel rest
        (x :: xs, closed, rest)
      | ']' :: rest => ([x], true, rest)
      | _ => ([x], false, [])

/-- The fields of an object that is not empty, and whether it is closed. -/
def fields : Nat → List Char → List (Option String × Value) × Bool × List Char
  | 0, _ => ([], false, [])
  | fuel + 1, cs =>
    match skipSpace cs with
    | '"' :: rest =>
      match string? rest with
      | none => ([], false, [])
      | some (key, rest) =>
        match skipSpace rest with
        | ':' :: rest =>
          let (x, rest) := value fuel rest
          match skipSpace rest with
          | ',' :: rest =>
            let (xs, closed, rest) := fields fuel rest
            ((key, x) :: xs, closed, rest)
          | '\x7d' :: rest => ([(key, x)], true, rest)
          | _ => ([(key, x)], false, [])
        | _ => ([(key, .torn)], false, [])
    | _ => ([], false, [])

end

/-- The tree of some characters and the characters after it. -/
def parse (cs : List Char) : Value × List Char := value (2 * cs.length + 2) cs

end Json
end CacheTier
