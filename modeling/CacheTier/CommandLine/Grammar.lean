import CacheTier.Table

/-!
# Settings on a command line

A setting has a long name and a value behind an equals sign or in the next word,
which must not begin with a dash.  A variable of the environment stands in for a
setting that is not given, and a standard value for the variable.

A command line has two levels, the settings before the name of a command and those
behind it, and the shared settings may be given on both.  Words go before the
environment and the environment before the standard value; of two equals the one
behind the name counts.
-/

namespace CacheTier
namespace CommandLine

/-- Why a command line names nothing to run. -/
inductive Refusal where
  /-- The caller asks for help or for the version. -/
  | information
  /-- The words fit no command. -/
  | misuse
  deriving DecidableEq, Repr, Inhabited

/-- What a setting takes. -/
inductive Arity where
  /-- No value; naming the setting makes it true. -/
  | flag
  | one
  /-- Values with commas between them, as often as wanted. -/
  | many
  deriving DecidableEq, Repr, Inhabited

/-- A setting. -/
structure Setting where
  /-- The name behind the two dashes. -/
  name : String
  /-- The variable of the environment. -/
  envVar : String
  arity : Arity := .one
  /-- The values if nothing is given, unless something has to be given. -/
  standard : Option (List String)
  /-- Whether a text is a value. -/
  accepts : String → Bool := fun _ => true

/-- What a word is where a setting may stand. -/
inductive Word where
  /-- The mark that no settings follow. -/
  | stop
  | long (name : String) (value : Option String)
  /-- A single dash and letters, by the first of them. -/
  | short (letter : Char)
  | plain
  deriving DecidableEq, Repr, Inhabited

/-- Tells what a word is. -/
def Word.ofText (text : String) : Word :=
  match text.toList with
  | ['-', '-'] => .stop
  | '-' :: '-' :: rest =>
    let (name, value) := rest.span (· != '=')
    .long (String.ofList name) (if value.isEmpty then none else some (String.ofList value.tail))
  | '-' :: letter :: _ => .short letter
  | _ => .plain

/-- The values given for settings, by name. -/
abbrev Given := Table String (List String)

/-- A setting that was named with its value, before the value is taken in. -/
abbrev Pending := Option (Setting × String)

namespace Setting

/-- The values that a text holds. -/
def values (setting : Setting) (text : String) : Except Refusal (List String) :=
  let values := if setting.arity == .many then text.splitOn "," else [text]
  if values.all setting.accepts then .ok values else .error .misuse

/-- Takes a value in; only a setting with many values may be given again. -/
def give (setting : Setting) (text : String) (given : Given) : Except Refusal Given := do
  let values ← setting.values text
  match setting.arity, given.get? setting.name with
  | _, none => return given.insert setting.name values
  | .many, some earlier => return given.insert setting.name (earlier ++ values)
  | _, some _ => throw .misuse

end Setting

/-- Takes the value of the setting named last in. -/
def settle (given : Given) : Pending → Except Refusal Given
  | none => .ok given
  | some (setting, text) => setting.give text given

/-- The settings that may be named at one level. -/
structure Level where
  settings : List Setting
  /-- Whether the version can be asked for. -/
  tellsVersion : Bool

namespace Level

/-- What is asked for by a name or a letter instead of a command. -/
def asks (level : Level) : Word → Bool
  | .long "help" none | .short 'h' => true
  | .long "version" none | .short 'V' => level.tellsVersion
  | _ => false

/-- Takes the words up to the first that is no setting; the value named last is left to
be taken in. -/
def scan (level : Level) :
    Given → Pending → List String → Except Refusal (Given × Pending × List String)
  | given, pending, [] => .ok (given, pending, [])
  | given, pending, text :: rest => do
    let word := Word.ofText text
    match word with
    | .plain => return (given, pending, text :: rest)
    | .stop => if rest.isEmpty then return (given, pending, []) else throw .misuse
    | .short _ =>
      let _ ← settle given pending
      throw (if level.asks word then .information else .misuse)
    | .long name value =>
      let given ← settle given pending
      if level.asks word then throw .information
      match level.settings.find? (·.name == name) with
      | none => throw .misuse
      | some setting =>
        match setting.arity, value, rest with
        | .flag, none, rest => level.scan (← setting.give "true" given) none rest
        | .flag, some _, _ => throw .misuse
        | _, some value, rest => level.scan (← setting.give value given) none rest
        | _, none, [] => throw .misuse
        | _, none, value :: rest =>
          if Word.ofText value == .plain then level.scan given (some (setting, value)) rest
          else throw .misuse

end Level

/-- Where values come from, the weakest source first. -/
inductive Source where
  | standard
  | environment
  | words
  deriving DecidableEq, Repr, Inhabited

/-- The order of the sources. -/
def Source.strength : Source → Nat
  | standard => 0
  | environment => 1
  | words => 2

/-- Values with their source. -/
abbrev Sourced := Source × List String

/-- The values of a setting. -/
def Setting.resolve (setting : Setting) (environment : String → Option String)
    (given : Given) : Except Refusal Sourced :=
  match given.get? setting.name, environment setting.envVar, setting.standard with
  | some values, _, _ => .ok (.words, values)
  | none, some text, _ => do return (.environment, ← setting.values text)
  | none, none, some values => .ok (.standard, values)
  | none, none, none => .error .misuse

/-- The values of all settings of a level. -/
def Level.resolve (level : Level) (environment : String → Option String) (given : Given) :
    Except Refusal (List (String × Sourced)) :=
  level.settings.mapM fun setting => do
    return (setting.name, ← setting.resolve environment given)

/-- The stronger of two values, the second of equals. -/
def stronger (outer inner : Sourced) : Sourced :=
  if inner.1.strength < outer.1.strength then outer else inner

/-- The commands of a program. -/
structure Program where
  /-- The settings of all commands. -/
  shared : List Setting
  /-- The settings of each command, by its name. -/
  commands : List (String × List Setting)

namespace Program

/-- Whether there is help on what some words name. -/
def hasHelpOn (program : Program) : List String → Bool
  | [] => true
  | [topic] => topic == "help" || (program.commands.lookup topic).isSome
  | _ => false

/-- Reads the settings behind the name of a command. -/
def readInner (program : Program) (environment : String → Option String)
    (own : List Setting) (words : List String) : Except Refusal (List (String × Sourced)) := do
  let level : Level := ⟨program.shared ++ own, false⟩
  let (given, pending, rest) ← level.scan .empty none words
  if rest.isEmpty then level.resolve environment (← settle given pending) else throw .misuse

/-- Reads the name of a command and the values of its settings. -/
def read (program : Program) (environment : String → Option String) (words : List String) :
    Except Refusal (String × (String → List String)) := do
  let level : Level := ⟨program.shared, true⟩
  let (given, pending, rest) ← level.scan .empty none words
  match rest with
  | [] => throw .misuse
  | "help" :: topics => throw (if program.hasHelpOn topics then .information else .misuse)
  | name :: rest =>
    match program.commands.lookup name with
    | none => throw .misuse
    | some own =>
      let inner ← program.readInner environment own rest
      let outer ← level.resolve environment (← settle given pending)
      return (name, fun setting =>
        match outer.lookup setting, inner.lookup setting with
        | some a, some b => (stronger a b).2
        | _, found => (found.map Prod.snd).getD [])

end Program
end CommandLine
end CacheTier
