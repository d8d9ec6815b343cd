/-!
# Parsed JSON

The tree of a JSON text as far as the text is well-formed.  A text that breaks
off or goes wrong still has a tree: the place where it does is `torn`, or an
array or object that is not closed.  Numbers and strings are kept as written,
since a string may hold an escape that stands for no character, and a number
may be too large; both matter only to a reader that wants their value.
-/

namespace CacheTier
namespace Json

/-- A number as it is written. -/
structure Numeral where
  negative : Bool
  integer : List Char
  fraction : List Char
  /-- The sign of the exponent, true for minus, and its digits. -/
  exponent : Option (Bool × List Char)
  deriving DecidableEq, Repr

/-- A parsed value. -/
inductive Value where
  | null
  | bool (b : Bool)
  | number (n : Numeral)
  /-- A string; `none` if some escape in it stands for no character. -/
  | text (s : Option String)
  | array (items : List Value) (closed : Bool)
  | object (fields : List (Option String × Value)) (closed : Bool)
  /-- The text is not well-formed from here on. -/
  | torn
  deriving Inhabited

end Json
end CacheTier
