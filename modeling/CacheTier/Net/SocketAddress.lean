import CacheTier.Text.Hex

/-!
# Socket addresses

Addresses that a service listens on: four octets or eight groups, and a port.  A
text is one address or none; names of hosts are no addresses.
-/

namespace CacheTier

/-- An address and a port. -/
inductive SocketAddress where
  | v4 (octets : List Nat) (port : Nat)
  /-- Eight groups, and a zone of which zero is none. -/
  | v6 (groups : List Nat) (zone port : Nat)
  deriving DecidableEq, Repr, Inhabited

namespace SocketAddress

/-- The number below a bound that a text begins with, in at most `width` digits. -/
def readNumber (digit? : Char → Option Nat) (radix width bound : Nat) (cs : List Char) :
    Option (Nat × List Char) :=
  let (digits, rest) := cs.span fun c => (digit? c).isSome
  let n := (digits.filterMap digit?).foldl (fun n d => n * radix + d) 0
  if digits.isEmpty || width < digits.length || bound ≤ n then none else some (n, rest)

/-- The value of a decimal digit. -/
def decimal? (c : Char) : Option Nat := if c.isDigit then some (c.toNat - '0'.toNat) else none

/-- The octet that a text begins with; it has no zero in front. -/
def readOctet (cs : List Char) : Option (Nat × List Char) := do
  let (n, rest) ← readNumber decimal? 10 3 256 cs
  if (toString n).length + rest.length == cs.length then some (n, rest) else none

/-- The rest of a text after a character that it has to begin with. -/
def after? (c : Char) : List Char → Option (List Char)
  | [] => none
  | d :: rest => if d == c then some rest else none

/-- The four octets that a text begins with. -/
def readOctets (cs : List Char) : Option (List Nat × List Char) := do
  let (a, cs) ← readOctet cs
  let (b, cs) ← readOctet (← after? '.' cs)
  let (c, cs) ← readOctet (← after? '.' cs)
  let (d, cs) ← readOctet (← after? '.' cs)
  return ([a, b, c, d], cs)

/-- The two groups of four octets. -/
def groupsOf : List Nat → List Nat
  | [a, b, c, d] => [a * 256 + b, c * 256 + d]
  | _ => []

/-- At most `limit` groups that a text begins with, and whether the last two are
written as octets; a colon stands before each but the first. -/
def readGroups : Nat → Bool → List Char → List Nat × Bool × List Char
  | 0, _, cs => ([], false, cs)
  | limit + 1, isFirst, cs =>
    let start := if isFirst then some cs else after? ':' cs
    match if limit == 0 then none else start.bind readOctets with
    | some (octets, rest) => (groupsOf octets, true, rest)
    | none =>
      match start.bind (readNumber Hex.value? 16 4 65536) with
      | some (group, rest) =>
        let (groups, dotted, rest) := readGroups limit false rest
        (group :: groups, dotted, rest)
      | none => ([], false, cs)

/-- The eight groups that a text begins with; two colons stand for all groups that are
left out, and no octets stand before them. -/
def readAllGroups (cs : List Char) : Option (List Nat × List Char) :=
  let (front, dotted, rest) := readGroups 8 true cs
  if front.length == 8 then some (front, rest)
  else if dotted then none
  else do
    let rest ← after? ':' (← after? ':' rest)
    let (back, _, rest) := readGroups (7 - front.length) true rest
    return (front ++ List.replicate (8 - front.length - back.length) 0 ++ back, rest)

/-- The zone that a text begins with, zero if it begins with none. -/
def readZone (cs : List Char) : Nat × List Char :=
  (((after? '%' cs).bind fun cs => readNumber decimal? 10 cs.length UInt32.size cs).getD (0, cs))

/-- The port after a colon; nothing may follow it. -/
def port? (cs : List Char) : Option Nat := do
  let digits ← after? ':' cs
  match ← readNumber decimal? 10 digits.length 65536 digits with
  | (port, []) => return port
  | _ => none

/-- An address with four octets. -/
def ofOctets? (cs : List Char) : Option SocketAddress := do
  let (octets, cs) ← readOctets cs
  return v4 octets (← port? cs)

/-- An address with eight groups between brackets. -/
def ofGroups? (cs : List Char) : Option SocketAddress := do
  let (groups, cs) ← readAllGroups (← after? '[' cs)
  let (zone, cs) := readZone cs
  return v6 groups zone (← port? (← after? ']' cs))

/-- The address that a text stands for. -/
def ofText? (text : String) : Option SocketAddress :=
  (ofOctets? text.toList).or (ofGroups? text.toList)

/-- Octets with points between them. -/
def octetsText (octets : List Nat) : String := String.intercalate "." (octets.map toString)

/-- The number of zeros that a list of groups begins with. -/
def zeros (groups : List Nat) : Nat := (groups.takeWhile (· == 0)).length

/-- The most zeros in a row. -/
def mostZeros : List Nat → Nat
  | [] => 0
  | group :: rest => max (zeros (group :: rest)) (mostZeros rest)

/-- Groups with colons between them. -/
def joined (groups : List Nat) : String :=
  String.intercalate ":" (groups.map fun group => String.ofList (Hex.shortest group))

/-- The place of the first of the most zeros in a row. -/
def zerosAt (most : Nat) : List Nat → Nat
  | [] => 0
  | group :: rest => if zeros (group :: rest) == most then 0 else zerosAt most rest + 1

/-- The text of eight groups: the most zeros in a row are left out, unless it is one
zero only, and the groups of four octets are written as octets. -/
def groupsText (groups : List Nat) : String :=
  match groups with
  | [0, 0, 0, 0, 0, 0xffff, a, b] =>
    "::ffff:" ++ octetsText [a / 256, a % 256, b / 256, b % 256]
  | _ =>
    let most := mostZeros groups
    if most ≤ 1 then joined groups
    else
      let place := zerosAt most groups
      joined (groups.take place) ++ "::" ++ joined (groups.drop (place + most))

/-- The text of an address. -/
def text : SocketAddress → String
  | v4 octets port => octetsText octets ++ ":" ++ toString port
  | v6 groups zone port =>
    "[" ++ groupsText groups ++ (if zone == 0 then "" else "%" ++ toString zone) ++ "]:" ++
      toString port

end SocketAddress
end CacheTier
