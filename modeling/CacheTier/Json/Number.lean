import CacheTier.Json.Value

/-!
# The values of numbers

A whole number that fits a word of 64 bits is that word; any other number is a
float.  A float is read from its first nineteen or twenty digits, as many as
fit a word, which are then multiplied or divided by a power of ten.
-/

namespace CacheTier
namespace Json

/-- The value of a number. -/
inductive Number where
  /-- A whole number that is not negative. -/
  | word (n : UInt64)
  /-- A negative whole number. -/
  | negative (n : Int64)
  | float (x : Float)

namespace Number

/-- The value of a decimal digit. -/
def digitValue (c : Char) : Nat := c.toNat - '0'.toNat

/-- A word followed by one more digit, if that fits a word. -/
def extend? (significand digit : Nat) : Option Nat :=
  let n := significand * 10 + digit
  if n < UInt64.size then some n else none

/-- Takes digits into a word while they fit, and counts those left over. -/
def takeDigits (significand : Nat) : List Char → Nat × Nat
  | [] => (significand, 0)
  | c :: cs =>
    match extend? significand (digitValue c) with
    | some n => takeDigits n cs
    | none => (significand, cs.length + 1)

/-- Ten to a power of at most 308. -/
def powerOfTen (n : Nat) : Float := Float.ofScientific 1 false n

/-- Scales by a power of ten; fails if the result is too large.  A power below
`-308` is divided by in steps of `308`. -/
def scale? (x : Float) (exponent : Int) : Nat → Option Float
  | 0 => none
  | fuel + 1 =>
    if exponent.natAbs ≤ 308 then
      if exponent ≥ 0 then
        let y := x * powerOfTen exponent.natAbs
        if y.isInf then none else some y
      else some (x / powerOfTen exponent.natAbs)
    else if x == 0 then some x
    else if exponent ≥ 0 then none
    else scale? (x / powerOfTen 308) (exponent + 308) fuel

/-- The bounds that an exponent is held within. -/
def clampExponent (e : Int) : Int :=
  max (-2147483648) (min 2147483647 e)

/-- A float from its significand, the power of ten it stands at, and the written
exponent. -/
def ofParts? (negative : Bool) (significand : Nat) (power : Int)
    (exponent : Option (Bool × List Char)) : Option Float := do
  let (minus, e) := match exponent with
    | none => (false, 0)
    | some (minus, ds) => (minus, ds.foldl (fun n c => n * 10 + digitValue c) 0)
  let x := (UInt64.ofNat significand).toFloat
  let magnitude ←
    if e > 2147483647 then
      if significand != 0 && !minus then none else some 0
    else
      let total := clampExponent (if minus then power - e else power + e)
      -- a few hundred divisions reach zero, so this fuel is never used up
      scale? x total 1000
  return if negative then -magnitude else magnitude

end Number

/-- The value of a written number; `none` if it is too large. -/
def Numeral.value? (n : Numeral) : Option Number :=
  let (whole, dropped) := Number.takeDigits 0 n.integer
  if dropped == 0 && n.fraction.isEmpty && n.exponent.isNone then
    if !n.negative then some (.word (UInt64.ofNat whole))
    else if whole == 0 || whole > Nat.pow 2 63 then
      some (.float (-(UInt64.ofNat whole).toFloat))
    else some (.negative (Int64.ofInt (-(whole : Int))))
  else
    let (significand, left) := Number.takeDigits whole n.fraction
    let power : Int := dropped - (n.fraction.length - left : Nat)
    (Number.ofParts? n.negative significand power n.exponent).map .float

/-- The value of a number as a float. -/
def Number.toFloat : Number → Float
  | .word n => n.toFloat
  | .negative n => n.toFloat
  | .float x => x

end Json
end CacheTier
