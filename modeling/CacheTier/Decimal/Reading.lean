/-!
# Reading decimal text

A float from its text: digits with an optional point and exponent, or the name of
a value that no digits stand for.  The result is the float next to the number.
-/

namespace CacheTier
namespace Decimal

/-- The number that digits stand for. -/
def ofDigits (digits : List Char) : Nat :=
  digits.foldl (fun n c => n * 10 + (c.toNat - '0'.toNat)) 0

/-- A number times a power of ten; powers far beyond every float are not worked out. -/
def scaled (digits : List Char) (exponent : Int) : Float :=
  let n := ofDigits digits
  if n == 0 then 0
  else if (toString n).length + exponent > 310 then 1 / 0
  else if (toString n).length + exponent < -330 then 0
  else Float.ofScientific n (exponent < 0) exponent.natAbs

/-- The exponent that a text is. -/
def exponent? (cs : List Char) : Option Int :=
  let (negative, digits) := match cs with
    | '-' :: rest => (true, rest)
    | '+' :: rest => (false, rest)
    | _ => (false, cs)
  if digits.isEmpty || !digits.all Char.isDigit then none
  else some (if negative then -(ofDigits digits) else ofDigits digits)

/-- The value of digits with an optional point and exponent. -/
def ofPlain? (cs : List Char) : Option Float :=
  let (whole, rest) := cs.span Char.isDigit
  let (fraction, rest) := match rest with
    | '.' :: rest => rest.span Char.isDigit
    | _ => ([], rest)
  if whole.isEmpty && fraction.isEmpty then none
  else
    match rest with
    | [] => some (scaled (whole ++ fraction) (-fraction.length))
    | 'e' :: rest => (exponent? rest).map fun e => scaled (whole ++ fraction) (e - fraction.length)
    | _ => none

/-- The value of a text without a sign, in lower case. -/
def ofUnsigned? (cs : List Char) : Option Float :=
  match String.ofList cs with
  | "inf" | "infinity" => some (1 / 0)
  | "nan" => some (0 / 0)
  | _ => ofPlain? cs

/-- The float that a text stands for. -/
def ofText? (text : String) : Option Float :=
  match text.toList.map Char.toLower with
  | '-' :: rest => (ofUnsigned? rest).map (-·)
  | '+' :: rest => ofUnsigned? rest
  | cs => ofUnsigned? cs

end Decimal
end CacheTier
