/-!
# Shortest decimal digits

The fewest decimal digits that read back as the same float.  A finite positive
float is `m * 2^q`; the reals that round to it form an interval, whose ends
belong to it when `m` is even.  For a growing number of digits the two decimal
neighbours of the value are tested against the interval in exact arithmetic.
-/

namespace CacheTier
namespace Decimal

/-- A finite positive float as a whole number of units of two to a power. -/
structure Binary where
  mantissa : Nat
  exponent : Int
  /-- Whether the next smaller float is only half as far as the next larger. -/
  narrowBelow : Bool
  deriving DecidableEq, Repr

/-- A decimal number `digits * 10^exponent`. -/
structure Scientific where
  digits : Nat
  exponent : Int
  deriving DecidableEq, Repr, Inhabited

/-- Reads the fields of a float's bits, leaving the sign out. -/
def Binary.ofBits (bits : UInt64) : Binary :=
  let fraction : Nat := bits.toNat % Nat.pow 2 52
  let power : Nat := bits.toNat / Nat.pow 2 52 % 2048
  if power == 0 then ⟨fraction, -1074, false⟩
  else ⟨Nat.pow 2 52 + fraction, (power : Int) - 1075, fraction == 0 && power > 1⟩

/-- A non-negative rational as a numerator over a denominator. -/
structure Ratio where
  num : Nat
  den : Nat

/-- The rational `n * base^e`. -/
def Ratio.scaled (n base : Nat) (e : Int) : Ratio :=
  if e ≥ 0 then ⟨n * Nat.pow base e.toNat, 1⟩ else ⟨n, Nat.pow base (-e).toNat⟩

def Ratio.le (a b : Ratio) : Bool := a.num * b.den ≤ b.num * a.den

def Ratio.lt (a b : Ratio) : Bool := a.num * b.den < b.num * a.den

/-- The largest whole number not above `a / b`. -/
def Ratio.floorDiv (a b : Ratio) : Nat := a.num * b.den / (a.den * b.num)

/-- The value of a float, and the ends of the interval that rounds to it. -/
def Binary.value (b : Binary) : Ratio := .scaled b.mantissa 2 b.exponent

def Binary.lower (b : Binary) : Ratio :=
  .scaled (4 * b.mantissa - if b.narrowBelow then 1 else 2) 2 (b.exponent - 2)

def Binary.upper (b : Binary) : Ratio :=
  .scaled (4 * b.mantissa + 2) 2 (b.exponent - 2)

/-- Whether a rational rounds to a float. -/
def Binary.covers (b : Binary) (r : Ratio) : Bool :=
  if b.mantissa % 2 == 0 then b.lower.le r && r.le b.upper
  else b.lower.lt r && r.lt b.upper

/-- Raises a power of ten to the largest one not above a rational. -/
def raisePower (r : Ratio) : Nat → Int → Int
  | 0, k => k
  | fuel + 1, k =>
    if (Ratio.scaled 1 10 (k + 1)).le r then raisePower r fuel (k + 1) else k

/-- The power of ten of a float's first decimal digit. -/
def Binary.decimalPower (b : Binary) : Int :=
  let bits : Int := (b.mantissa.log2 : Int) + b.exponent
  raisePower b.value 8 (Int.fdiv (bits * 30103) 100000 - 2)

/-- The better of the value's two neighbours on a grid, if one of them rounds to
the value. -/
def Binary.onGrid? (b : Binary) (e : Int) : Option Nat :=
  let value := b.value
  let low := value.floorDiv (.scaled 1 10 e)
  let hit (n : Nat) := b.covers (.scaled n 10 e)
  match hit low, hit (low + 1) with
  | true, false => some low
  | false, true => some (low + 1)
  | false, false => none
  | true, true =>
    let middle := Ratio.scaled (10 * low + 5) 10 (e - 1)
    if value.lt middle then some low
    else if middle.lt value then some (low + 1)
    else some (if low % 2 == 0 then low else low + 1)

/-- Tries grids with one more digit each, down to the last. -/
def Binary.search (b : Binary) : Nat → Int → Scientific
  | 0, e => ⟨b.value.floorDiv (.scaled 1 10 e), e⟩
  | fuel + 1, e =>
    match b.onGrid? e with
    | some digits => ⟨digits, e⟩
    | none => b.search fuel (e - 1)

/-- The same number without zeros at the end of its digits. -/
def Scientific.stripZeros : Nat → Scientific → Scientific
  | 0, s => s
  | fuel + 1, s =>
    if s.digits != 0 && s.digits % 10 == 0 then
      stripZeros fuel ⟨s.digits / 10, s.exponent + 1⟩
    else s

/-- The shortest decimal of a finite float's magnitude. -/
def shortest (bits : UInt64) : Scientific :=
  let b := Binary.ofBits bits
  if b.mantissa == 0 then ⟨0, 0⟩
  else (b.search 20 b.decimalPower).stripZeros 20

/-- The digits of a number as characters. -/
def digitsOf (n : Nat) : List Char := (toString n).toList

/-- Decimal notation with no exponent; `fraction` is written after a whole number. -/
def positional (s : Scientific) (fraction : String) : String :=
  let digits := digitsOf s.digits
  let point : Int := (digits.length : Int) + s.exponent
  if s.exponent ≥ 0 then
    String.ofList (digits ++ List.replicate s.exponent.toNat '0') ++ fraction
  else if point > 0 then
    String.ofList (digits.take point.toNat ++ '.' :: digits.drop point.toNat)
  else
    "0." ++ String.ofList (List.replicate (-point).toNat '0' ++ digits)

/-- Notation with one digit before the point and a signed exponent. -/
def exponential (s : Scientific) : String :=
  let digits := digitsOf s.digits
  let power : Int := (digits.length : Int) - 1 + s.exponent
  let mantissa := match digits with
    | d :: [] => [d]
    | d :: rest => d :: '.' :: rest
    | [] => ['0']
  String.ofList mantissa ++ "e" ++ (if power < 0 then "-" else "+") ++
    toString power.natAbs

/-- Whether the sign bit of a float is set. -/
def isNegative (x : Float) : Bool := x.toBits >>> 63 == 1

/-- A float without an exponent, a whole number without a point. -/
def plainText (x : Float) : String :=
  if x.isNaN then "NaN"
  else
    let sign := if isNegative x then "-" else ""
    if x.isInf then sign ++ "inf" else sign ++ positional (shortest x.toBits) ""

end Decimal
end CacheTier
