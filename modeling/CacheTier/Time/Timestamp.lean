import CacheTier.Text.Blank
import CacheTier.Time.Calendar
import CacheTier.Time.Instant

/-!
# Timestamps

Instants as text in the form `2024-01-31T23:59:59.5Z`.  Writing uses universal
time and 0, 3, 6 or 9 digits of a second.  Reading is lenient: blanks may stand
between the parts, `t` or a blank may separate date and time, numbers may have
fewer digits, and any offset below a day is accepted.
-/

namespace CacheTier
namespace Timestamp

/-- A number in at least `width` digits. -/
def padded (width n : Nat) : List Char := Span.padLeft width n

/-- A year in four digits, or signed if it does not lie between 0 and 9999. -/
def yearText (year : Int) : List Char :=
  if 0 ≤ year && year ≤ 9999 then padded 4 year.toNat
  else (if year < 0 then '-' else '+') :: padded 4 year.natAbs

/-- The digits of a second's fraction with their point. -/
def fractionText (nanos : Nat) : List Char :=
  if nanos == 0 then []
  else if nanos % 1000000 == 0 then '.' :: padded 3 (nanos / 1000000)
  else if nanos % 1000 == 0 then '.' :: padded 6 (nanos / 1000)
  else '.' :: padded 9 nanos

/-- The text of an instant. -/
def write (t : Instant) : String :=
  let (year, month, day) := Calendar.dateOf (Int.fdiv t.second 86400)
  let s := t.secondOfDay
  let second := s % 60 + if t.isLeap then 1 else 0
  String.ofList <|
    yearText year ++ '-' :: padded 2 month ++ '-' :: padded 2 day ++
    'T' :: padded 2 (s / 3600) ++ ':' :: padded 2 (s / 60 % 60) ++
    ':' :: padded 2 second ++ fractionText (t.nanos % 1000000000) ++ ['Z']

/-- The characters after the blanks at the front. -/
def skipBlank (cs : List Char) : List Char := cs.dropWhile Blank.isBlank

/-- The number that some digits stand for. -/
def numberOf (ds : List Char) : Nat :=
  ds.foldl (fun n c => n * 10 + (c.toNat - '0'.toNat)) 0

/-- A number of one to `most` digits after blanks. -/
def number? (most : Nat) (cs : List Char) : Option (Nat × List Char) :=
  let cs := skipBlank cs
  let ds := (cs.take most).takeWhile Char.isDigit
  if ds.isEmpty then none else some (numberOf ds, cs.drop ds.length)

/-- A year: up to four digits, or a sign and any number of digits. -/
def year? (cs : List Char) : Option (Int × List Char) :=
  match skipBlank cs with
  | '-' :: cs => signed (-1) cs
  | '+' :: cs => signed 1 cs
  | cs => (number? 4 cs).map fun (n, rest) => ((n : Int), rest)
where
  signed (sign : Int) (cs : List Char) : Option (Int × List Char) :=
    let ds := cs.takeWhile Char.isDigit
    if ds.isEmpty then none else some (sign * numberOf ds, cs.drop ds.length)

/-- A character that must come next, after blanks. -/
def mark? (c : Char) (cs : List Char) : Option (List Char) :=
  match skipBlank cs with
  | x :: rest => if x == c then some rest else none
  | [] => none

/-- The nanoseconds of a fraction, of which nine digits count. -/
def fraction? : List Char → Option (Nat × List Char)
  | '.' :: cs =>
    let ds := cs.takeWhile Char.isDigit
    if ds.isEmpty then none
    else
      let counted := ds.take 9
      some (numberOf counted * Nat.pow 10 (9 - counted.length), cs.drop ds.length)
  | cs => some (0, cs)

/-- Two digits. -/
def twoDigits? : List Char → Option (Nat × List Char)
  | a :: b :: rest =>
    if a.isDigit && b.isDigit then some (numberOf [a, b], rest) else none
  | _ => none

/-- The characters that separate the hours and minutes of an offset. -/
def skipColons (cs : List Char) : List Char :=
  cs.dropWhile fun c => c == ':' || Blank.isBlank c

/-- The seconds by which a signed offset is ahead of universal time. -/
def offset? : List Char → Option (Int × List Char)
  | sign :: cs =>
    if sign == '+' || sign == '-' || sign == '−' then do
      let (hours, rest) ← twoDigits? cs
      let (minutes, rest) ← twoDigits? (skipColons rest)
      if minutes < 60 then
        let seconds : Int := hours * 3600 + minutes * 60
        return (if sign == '+' then seconds else -seconds, rest)
      else none
    else none
  | [] => none

/-- An offset, or one of the names of universal time. -/
def zone? (cs : List Char) : Option (Int × List Char) :=
  match cs with
  | u :: t :: c :: rest =>
    if u.toLower == 'u' && t.toLower == 't' && c.toLower == 'c' then some (0, rest)
    else if u.toLower == 'z' then some (0, t :: c :: rest)
    else offset? cs
  | z :: rest => if z.toLower == 'z' then some (0, rest) else offset? cs
  | [] => none

/-- The years that an instant can lie in. -/
def firstYear : Int := -262143

def lastYear : Int := 262142

/-- The instant of a local date and time. -/
def instant? (year : Int) (month day hour minute second nanos : Nat) (offset : Int) :
    Option Instant :=
  if Calendar.isDate year month day && firstYear ≤ year && year ≤ lastYear &&
      hour ≤ 23 && minute ≤ 59 && second ≤ 60 && offset.natAbs < 86400 then
    let day := Calendar.dayNumber year month day
    let clock : Int := hour * 3600 + minute * 60 + min second 59
    let total := day * 86400 + clock - offset
    let (year, _, _) := Calendar.dateOf (Int.fdiv total 86400)
    if firstYear ≤ year && year ≤ lastYear then
      some ⟨total, nanos + if second == 60 then 1000000000 else 0⟩
    else none
  else none

/-- The mark between date and time. -/
def separator? : List Char → Option (List Char)
  | 't' :: rest => some rest
  | 'T' :: rest => some rest
  | ' ' :: rest => some rest
  | _ => none

/-- Reads an instant from its text. -/
def readChars (cs : List Char) : Option Instant := do
  let (year, cs) ← year? cs
  let cs ← mark? '-' cs
  let (month, cs) ← number? 2 cs
  let cs ← mark? '-' cs
  let (day, cs) ← number? 2 cs
  let cs ← separator? cs
  let (hour, cs) ← number? 2 cs
  let cs ← mark? ':' cs
  let (minute, cs) ← number? 2 cs
  let cs ← mark? ':' cs
  let (second, cs) ← number? 2 cs
  let (nanos, cs) ← fraction? cs
  let (offset, cs) ← zone? (skipBlank cs)
  if (skipBlank cs).isEmpty then instant? year month day hour minute second nanos offset
  else none

/-- Reads an instant from its text. -/
def read (s : String) : Option Instant := readChars s.toList

end Timestamp
end CacheTier
