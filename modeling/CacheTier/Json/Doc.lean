import CacheTier.Decimal.Shortest
import CacheTier.Text.Hex

/-!
# Written JSON

Documents to be written, and their text: no spaces, fields in the order given,
only quotes, backslashes and control characters escaped.
-/

namespace CacheTier
namespace Json

/-- A document to be written. -/
inductive Doc where
  | null
  | bool (b : Bool)
  | int (n : Int)
  | float (x : Float)
  | text (s : String)
  | array (items : List Doc)
  | object (fields : List (String × Doc))
  deriving Inhabited

namespace Doc

/-- A natural number as a document. -/
def nat (n : Nat) : Doc := .int n

/-- A word as a document. -/
def word (n : UInt64) : Doc := .int n.toNat

/-- A document, or null in its absence. -/
def ofOption {α : Type} (f : α → Doc) : Option α → Doc
  | none => .null
  | some a => f a

/-- An array of texts. -/
def texts (xs : List String) : Doc := .array (xs.map .text)

end Doc

/-- A float in JSON: positional for powers of ten from -5 to 15, null when it is
not finite. -/
def floatText (x : Float) : String :=
  if x.isNaN || x.isInf then "null"
  else
    let sign := if Decimal.isNegative x then "-" else ""
    let s := Decimal.shortest x.toBits
    let power : Int := ((Decimal.digitsOf s.digits).length : Int) - 1 + s.exponent
    sign ++ if -5 ≤ power && power < 16 then Decimal.positional s ".0"
      else Decimal.exponential s

/-- A character inside a string. -/
def escapeChar (c : Char) : List Char :=
  match c with
  | '"' => ['\\', '"']
  | '\\' => ['\\', '\\']
  | '\n' => ['\\', 'n']
  | '\r' => ['\\', 'r']
  | '\t' => ['\\', 't']
  | '\x08' => ['\\', 'b']
  | '\x0c' => ['\\', 'f']
  | c => if c.toNat < 0x20 then ['\\', 'u'] ++ Hex.ofNat 4 c.toNat else [c]

/-- A string between quotes. -/
def quoted (s : String) : List Char :=
  '"' :: s.toList.flatMap escapeChar ++ ['"']

/-- Lists of characters with commas between them. -/
def commas : List (List Char) → List Char
  | [] => []
  | [x] => x
  | x :: y :: rest => x ++ ',' :: commas (y :: rest)

mutual

/-- The characters of a document. -/
def Doc.chars : Doc → List Char
  | .null => ['n', 'u', 'l', 'l']
  | .bool true => ['t', 'r', 'u', 'e']
  | .bool false => ['f', 'a', 'l', 's', 'e']
  | .int n => (toString n).toList
  | .float x => (floatText x).toList
  | .text s => quoted s
  | .array items => '[' :: commas (itemChars items) ++ [']']
  | .object fields => '\x7b' :: commas (fieldChars fields) ++ ['\x7d']

/-- The characters of each item. -/
def itemChars : List Doc → List (List Char)
  | [] => []
  | x :: xs => x.chars :: itemChars xs

/-- The characters of each field. -/
def fieldChars : List (String × Doc) → List (List Char)
  | [] => []
  | (key, x) :: rest => (quoted key ++ ':' :: x.chars) :: fieldChars rest

end

/-- The text of a document. -/
def Doc.render (doc : Doc) : String := String.ofList doc.chars

end Json
end CacheTier
