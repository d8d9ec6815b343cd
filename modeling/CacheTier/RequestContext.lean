import CacheTier.Text.Blank

/-!
# Request identifiers

Every request carries an identifier from process to process.  A caller's
identifier is adopted without the blanks at its ends; a blank one, or none,
stands for an identifier that is made up on the spot.
-/

namespace CacheTier

/-- The identifier that a request goes by. -/
inductive RequestContext where
  /-- The caller's identifier. -/
  | adopted (id : String)
  /-- A made-up identifier, told apart from others by a number. -/
  | generated (serial : Nat)
  deriving DecidableEq, Repr, Inhabited

namespace RequestContext

/-- The header that carries the identifier. -/
def header : String := "x-request-id"

/-- The length of a made-up identifier. -/
def generatedLength : Nat := 36

/-- Adopts an identifier unless it is missing or blank. -/
def ofCaller (supplied : Option String) (serial : Nat) : RequestContext :=
  match supplied.map Blank.trim with
  | some id => if id.isEmpty then .generated serial else .adopted id
  | none => .generated serial

/-- The text that stands for a made-up identifier. -/
def placeholder : String := "<generated>"

/-- The identifier as text; a made-up one is shown by a placeholder. -/
def text : RequestContext → String
  | adopted id => id
  | generated _ => placeholder

/-- The length of the identifier in bytes. -/
def byteLength : RequestContext → Nat
  | adopted id => id.utf8ByteSize
  | generated _ => generatedLength

/-- The identifier adopted once more by the next process. -/
def readopted (ctx : RequestContext) : RequestContext :=
  match ctx with
  | adopted id => ofCaller (some id) 0
  | generated serial => .generated serial

end RequestContext
end CacheTier
