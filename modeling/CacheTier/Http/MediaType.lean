/-!
# Media types

The types of bodies: two names, a suffix that the second may have, and
parameters.  Only a well-formed type is recognised.
-/

namespace CacheTier
namespace MediaType

/-- The type of JSON bodies. -/
def json : String := "application/json"

/-- Whether a character may stand in a name. -/
def isToken (c : Char) : Bool :=
  c.isAlphanum ||
    c ∈ ['!', '#', '$', '%', '&', '\'', '*', '+', '-', '.', '^', '_', '\x60', '|', '~']

/-- Whether a character may stand between quotes. -/
def isQuotable (c : Char) : Bool := 0x1f < c.toNat && c.toNat != 0x7f

/-- The rest after a value between quotes and the spaces that follow it. -/
def afterQuoted? (cs : List Char) : Option (List Char) :=
  match cs.span (· != '"') with
  | (value, '"' :: rest) =>
    if value.isEmpty || !value.all isQuotable then none
    else some (rest.dropWhile (· == ' '))
  | _ => none

/-- The rest after a parameter. -/
def afterParameter? (cs : List Char) : Option (List Char) :=
  match (cs.dropWhile (· == ' ')).span isToken with
  | (name, '=' :: '"' :: rest) => if name.isEmpty then none else afterQuoted? rest
  | (name, '=' :: rest) =>
    match rest.span isToken with
    | (value, rest) => if name.isEmpty || (value.isEmpty && !rest.isEmpty) then none else some rest
  | _ => none

/-- Whether some characters are parameters, each after a semicolon. -/
def areParameters : Nat → List Char → Bool
  | 0, cs => cs.isEmpty
  | fuel + 1, cs =>
    match cs with
    | [] => true
    | ';' :: rest =>
      if (rest.dropWhile (· == ' ')).isEmpty then true
      else
        match afterParameter? rest with
        | some rest => areParameters fuel rest
        | none => false
    | _ => false

/-- The two names of a type in lower case, the second without its parameters. -/
def names? (text : String) : Option (String × String) :=
  match text.toList.span isToken with
  | (first, '/' :: rest) =>
    let (second, parameters) := rest.span isToken
    if first.isEmpty || second.isEmpty || !areParameters parameters.length parameters then none
    else
      some ((String.ofList first).map Char.toLower, (String.ofList second).map Char.toLower)
  | _ => none

/-- Whether a second name is a name, or has it as its suffix or before its suffix. -/
def fits (second name : String) : Bool :=
  match second.splitOn "+" with
  | [only] => only == name
  | ["", _] => false
  | parts => parts.getLast? == some name ||
      String.intercalate "+" parts.dropLast == name

/-- Whether a body of a type is JSON. -/
def isJson (text : String) : Bool :=
  match names? text with
  | some (first, second) => first == "application" && fits second "json"
  | none => false

end MediaType
end CacheTier
