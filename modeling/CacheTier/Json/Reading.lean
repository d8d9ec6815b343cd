import CacheTier.Json.Number
import CacheTier.Json.Parser

/-!
# Reading values out of JSON

Readers walk a parsed tree in the order of its text and stop at the first fault:
either the text is not well-formed there, or it is well-formed but of the wrong
shape.  A record can be written as an object, whose unknown fields are passed
over, or as an array of its fields in order.
-/

namespace CacheTier
namespace Json

/-- Why a value cannot be read. -/
inductive Fault where
  /-- The text is not well-formed. -/
  | syntaxFault
  /-- The text is well-formed but does not fit. -/
  | mismatch
  deriving DecidableEq, Repr, Inhabited

/-- The outcome of reading. -/
abbrev Reading (α : Type) := Except Fault α

namespace Value

/-- The fault of a value that has another shape than the one wanted. -/
def misfit {α : Type} : Value → Reading α
  | torn => .error .syntaxFault
  | text none => .error .syntaxFault
  | number n => .error (if n.value?.isNone then .syntaxFault else .mismatch)
  | _ => .error .mismatch

mutual

/-- Whether a text is well-formed throughout. -/
def isWhole : Value → Bool
  | torn => false
  | array items closed => closed && areWhole items
  | object fields closed => closed && fieldsAreWhole fields
  | _ => true

/-- Whether all items are well-formed. -/
def areWhole : List Value → Bool
  | [] => true
  | x :: xs => x.isWhole && areWhole xs

/-- Whether all fields are well-formed. -/
def fieldsAreWhole : List (Option String × Value) → Bool
  | [] => true
  | (_, x) :: rest => x.isWhole && fieldsAreWhole rest

end

/-- Passes over a value. -/
def skip (v : Value) : Reading Unit :=
  if v.isWhole then .ok () else .error .syntaxFault

mutual

/-- Whether every string, number and key has a value and at most `depth` arrays
and objects lie inside each other. -/
def isPlain : Nat → Value → Bool
  | _, torn => false
  | _, text none => false
  | _, number n => n.value?.isSome
  | 0, array .. => false
  | 0, object .. => false
  | depth + 1, array items closed => closed && arePlain depth items
  | depth + 1, object fields closed => closed && fieldsArePlain depth fields
  | _, _ => true

/-- Whether all items are plain. -/
def arePlain : Nat → List Value → Bool
  | _, [] => true
  | depth, x :: xs => x.isPlain depth && arePlain depth xs

/-- Whether all fields are plain. -/
def fieldsArePlain : Nat → List (Option String × Value) → Bool
  | _, [] => true
  | depth, (key, x) :: rest => key.isSome && x.isPlain depth && fieldsArePlain depth rest

end

/-- How many arrays and objects may lie inside each other. -/
def depthLimit : Nat := 127

/-- Takes a value in as a whole before its parts are looked at. -/
def takeIn (v : Value) : Reading Unit :=
  if v.isPlain depthLimit then .ok () else .error .syntaxFault

/-- A string. -/
def readText : Value → Reading String
  | text (some s) => .ok s
  | v => v.misfit

/-- A whole number of 64 bits. -/
def readWord : Value → Reading UInt64
  | number n => match n.value? with
    | some (.word w) => .ok w
    | _ => (number n).misfit
  | v => v.misfit

/-- A signed whole number of 64 bits. -/
def readInt : Value → Reading Int64
  | number n => match n.value? with
    | some (.word w) =>
      if w.toNat < Nat.pow 2 63 then .ok (Int64.ofNat w.toNat) else .error .mismatch
    | some (.negative i) => .ok i
    | _ => (number n).misfit
  | v => v.misfit

/-- A number of any kind as a float. -/
def readFloat : Value → Reading Float
  | number n => match n.value? with
    | some x => .ok x.toFloat
    | none => (number n).misfit
  | v => v.misfit

/-- A value that may be null. -/
def readOption {α : Type} (read : Value → Reading α) : Value → Reading (Option α)
  | null => .ok none
  | v => some <$> read v

/-- An array of values of one kind. -/
def readList {α : Type} (read : Value → Reading α) : Value → Reading (List α)
  | array items closed => do
    let xs ← items.mapM read
    if closed then return xs else .error .syntaxFault
  | v => v.misfit

end Value

/-- A field of a record that is filled in while it is read. -/
structure RecordField (σ : Type) where
  name : String
  /-- Whether the field has been read already. -/
  seen : σ → Bool
  /-- Reads the field into the record. -/
  read : σ → Value → Reading σ
  /-- Whether an array may end before the field. -/
  droppable : Bool := false

/-- A field that sets one optional part of a record. -/
def RecordField.of {σ α : Type} (name : String) (get : σ → Option α)
    (set : σ → α → σ) (read : Value → Reading α) : RecordField σ :=
  { name
    seen := fun s => (get s).isSome
    read := fun s v => set s <$> read v }

/-- The part of a record that must have been read. -/
def required {α : Type} : Option α → Reading α
  | some a => .ok a
  | none => .error .mismatch

namespace Value

/-- Reads the fields of an object in the order they are written. -/
def readFields {σ : Type} (fields : List (RecordField σ)) :
    List (Option String × Value) → σ → Reading σ
  | [], s => .ok s
  | (none, _) :: _, _ => .error .syntaxFault
  | (some key, v) :: rest, s => do
    let s ← match fields.find? (·.name == key) with
      | none => do v.skip; pure s
      | some field => if field.seen s then .error .mismatch else field.read s v
    readFields fields rest s

/-- Reads the items of an array as the fields of a record. -/
def readItems {σ : Type} (closed : Bool) :
    List (RecordField σ) → List Value → σ → Reading σ
  | [], [], s => if closed then .ok s else .error .syntaxFault
  | [], _ :: _, _ => .error .syntaxFault
  | field :: fields, [], s =>
    if !closed then .error .syntaxFault
    else if field.droppable then readItems closed fields [] s
    else .error .mismatch
  | field :: fields, v :: items, s => do
    let s ← field.read s v
    readItems closed fields items s

/-- Reads a record from an object or from an array of its fields. -/
def readRecord {σ : Type} (fields : List (RecordField σ)) (start : σ) : Value → Reading σ
  | object entries closed => do
    let s ← readFields fields entries start
    if closed then return s else .error .syntaxFault
  | array items closed => readItems closed fields items start
  | v => v.misfit

/-- Splits a tagged value into its tag and the value without the tag.  The tag is a
field of an object in any place, or the head of an array. -/
def splitTag (tag : String) (known : String → Bool) :
    Value → Reading (String × Value)
  | object entries closed =>
    match entries.filter (·.1 == some tag) with
    | [(_, v)] => do
      let name ← v.readText
      if known name then
        return (name, object (entries.filter (·.1 != some tag)) closed)
      else .error .mismatch
    | _ => .error .mismatch
  | array (v :: items) closed => do
    let name ← v.readText
    if known name then return (name, array items closed) else .error .mismatch
  | v => v.misfit

/-- Reads a tagged value, which is taken in as a whole first. -/
def readTagged {α : Type} (tag : String)
    (variants : List (String × (Value → Reading α))) (v : Value) : Reading α := do
  v.takeIn
  let (name, body) ← v.splitTag tag fun name => (variants.lookup name).isSome
  match variants.lookup name with
  | some read => read body
  | none => .error .mismatch

/-- Reads the one variant that an object names by its only key. -/
def readVariant {α : Type} (variants : List (String × (Value → Reading α))) :
    Value → Reading α
  | object ((some key, v) :: rest) closed =>
    match variants.lookup key with
    | none => .error .mismatch
    | some read => do
      let a ← read v
      if rest.isEmpty && closed then return a else .error .syntaxFault
  | object _ _ => .error .syntaxFault
  | v => v.misfit

/-- A record without fields of its own; unknown fields are passed over. -/
def readUnit {α : Type} (a : α) : Value → Reading α
  | object _ _ => .ok a
  | array [] _ => .ok a
  | v => v.misfit

end Value

/-- Reads a whole text; only spaces may follow the value. -/
def readAll {α : Type} (read : Value → Reading α) (cs : List Char) : Reading α := do
  let (v, rest) := parse cs
  let a ← read v
  if (skipSpace rest).isEmpty then return a else .error .syntaxFault

/-- Reads the value that a text begins with, whatever follows it. -/
def readFirst {α : Type} (read : Value → Reading α) (cs : List Char) : Reading α :=
  read (parse cs).1

end Json
end CacheTier
