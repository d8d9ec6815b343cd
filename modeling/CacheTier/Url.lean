import CacheTier.Url.Form

/-!
# Addresses of resources

The parts of an `http` address that a request is made of: who is asked, and for
what.  A path is kept as its segments, encoded and without `.` and `..`; a
backslash divides segments like a slash; tabs and line breaks count for nothing,
and neither do blanks and control characters at the ends of an address.
-/

namespace CacheTier

/-- An address whose scheme is `http` or `https`. -/
structure Url where
  scheme : String
  /-- The host and the port as they are written. -/
  authority : String
  segments : List String
  query : Option String
  deriving DecidableEq, Repr, Inhabited

namespace Url

/-- Whether a character is dropped at the ends of an address. -/
def isEdge (c : Char) : Bool := c.toNat ≤ 0x20

/-- Whether a character is dropped everywhere in an address. -/
def isIgnored (c : Char) : Bool := c == '\t' || c == '\n' || c == '\r'

/-- The characters of an address that count. -/
def essence (cs : List Char) : List Char :=
  ((((cs.dropWhile isEdge).reverse.dropWhile isEdge).reverse).filter (!isIgnored ·))

def isSlash (c : Char) : Bool := c == '/' || c == '\\'

/-- Whether a character ends the part of an address before the path. -/
def endsAuthority (c : Char) : Bool := isSlash c || c == '?' || c == '#'

/-- Whether a character stands for itself in a path. -/
def isPathPlain (c : Char) : Bool :=
  0x20 < c.toNat && c.toNat < 0x7f && c ∉ ['"', '#', '<', '>', '?', '\x60', '\x7b', '\x7d']

/-- Whether a character stands for itself in a query. -/
def isQueryPlain (c : Char) : Bool :=
  0x20 < c.toNat && c.toNat < 0x7f && c ∉ ['"', '#', '<', '>', '\'']

/-- The rest of a segment after a dot, which may be encoded. -/
def afterDot? : List Char → Option (List Char)
  | '.' :: rest => some rest
  | '%' :: '2' :: 'e' :: rest => some rest
  | '%' :: '2' :: 'E' :: rest => some rest
  | _ => none

/-- Whether a segment stands for its own place. -/
def isHere (segment : List Char) : Bool := afterDot? segment == some []

/-- Whether a segment stands for the place above. -/
def isAbove (segment : List Char) : Bool := (afterDot? segment).bind afterDot? == some []

/-- Adds segments to a path; a last one that is a place of its own leaves an empty
segment. -/
def resolve (path : List String) : List (List Char) → List String
  | [] => path
  | [segment] =>
    if isAbove segment then path.dropLast ++ [""]
    else if isHere segment then path ++ [""]
    else path ++ [String.ofList (Percent.encode isPathPlain segment)]
  | segment :: next :: rest =>
    if isAbove segment then resolve path.dropLast (next :: rest)
    else if isHere segment then resolve path (next :: rest)
    else resolve (path ++ [String.ofList (Percent.encode isPathPlain segment)]) (next :: rest)

/-- The segments of a path, without the slash it begins with. -/
def segmentsOf (path : List Char) : List String :=
  resolve [] ((path.map fun c => if c == '\\' then '/' else c).splitOn '/')

/-- The rest of an address after its scheme, if the scheme is known. -/
def scheme? (cs : List Char) : Option (String × List Char) :=
  match cs.span (· != ':') with
  | (scheme, ':' :: rest) =>
    let name := (String.ofList scheme).map Char.toLower
    if name == "http" || name == "https" then some (name, rest) else none
  | _ => none

/-- Reads an address. -/
def ofText? (text : String) : Option Url := do
  let (scheme, rest) ← scheme? (essence text.toList)
  let (authority, rest) := (rest.dropWhile isSlash).span (!endsAuthority ·)
  if authority.isEmpty then none
  else
    let (path, rest) := rest.span fun c => c != '?' && c != '#'
    let query := match rest with
      | '?' :: query =>
        some (String.ofList (Percent.encode isQueryPlain (query.takeWhile (· != '#'))))
      | _ => none
    return ⟨scheme, String.ofList authority, segmentsOf (path.drop 1), query⟩

/-- What a request asks for: the path and the query. -/
def target (url : Url) : String :=
  "/" ++ String.intercalate "/" url.segments ++
    match url.query with
    | some query => "?" ++ query
    | none => ""

/-- The address with a pair added to its query. -/
def withPair (url : Url) (name value : String) : Url :=
  let pair := Form.encodePair name value
  { url with query := some (match url.query with
    | some query => if query.isEmpty then pair else query ++ "&" ++ pair
    | none => pair) }

end Url
end CacheTier
