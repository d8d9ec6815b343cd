import CacheTier.CommandLine.Grammar
import CacheTier.Decimal.Reading
import CacheTier.Configuration
import CacheTier.Text.LowerCase

/-!
# The command line

Two commands: one runs a registry, the other a cache node.  Both share the settings
of the log, of the ring and of the prober.
-/

namespace CacheTier

/-- How much is logged. -/
inductive LogLevel where
  | error
  | warn
  | info
  | debug
  | trace
  deriving DecidableEq, Repr, Inhabited

namespace LogLevel

/-- The level with a name in any case; any other name stands for `info`. -/
def ofName (name : String) : LogLevel :=
  match LetterCase.lower name with
  | "error" => error
  | "warn" => warn
  | "debug" => debug
  | "trace" => trace
  | _ => info

/-- Whether what a process tells of itself is logged. -/
def tellsProgress : LogLevel → Bool
  | error | warn => false
  | _ => true

end LogLevel

/-- The settings of both commands. -/
structure SharedSettings where
  logLevel : LogLevel
  /-- Whether the log is written as JSON. -/
  logsJson : Bool
  virtualNodes : Nat
  minProbeInterval : Span
  probeTimeout : Span
  probeInterval : Span
  deriving DecidableEq, Repr, Inhabited

/-- The settings of a registry. -/
structure RegistrySettings where
  address : String
  /-- The address by which others reach the registry. -/
  advertised : Option String
  peers : List String
  livenessTimeout : Span
  sweepInterval : Span
  priorityAdjust : Float
  deriving Repr, Inhabited

/-- The settings of a cache node. -/
structure NodeSettings where
  address : String
  nodeId : String
  /-- The endpoints of the registry. -/
  registry : List String
  capacityBytes : UInt64
  policy : String
  pulseInterval : Span
  deriving DecidableEq, Repr, Inhabited

/-- What is to be run. -/
inductive Command where
  | registry (settings : RegistrySettings)
  | node (settings : NodeSettings)
  deriving Repr, Inhabited

/-- A command with the settings that all commands have. -/
structure Invocation where
  shared : SharedSettings
  command : Command
  deriving Repr, Inhabited

namespace CommandLine

/-- The number below `2^64` that a text stands for; a plus sign may stand before it. -/
def word? (text : String) : Option Nat :=
  let digits := match text.toList with
    | '+' :: rest => rest
    | cs => cs
  if digits.isEmpty || !digits.all Char.isDigit || UInt64.size ≤ Decimal.ofDigits digits then none
  else some (Decimal.ofDigits digits)

/-- A setting whose value is a number. -/
def counted (name envVar standard : String) : Setting :=
  { name, envVar, standard := some [standard], accepts := fun text => (word? text).isSome }

/-- A setting whose value is any text. -/
def worded (name envVar : String) (standard : Option (List String)) : Setting :=
  { name, envVar, standard }

/-- The settings of both commands. -/
def sharedSettings : List Setting := [
  worded "log-level" "LOG_LEVEL" (some ["info"]),
  { name := "log-json", envVar := "LOG_JSON", arity := .flag, standard := some ["false"]
    accepts := fun text => text == "true" || text == "false" },
  counted "virtual-nodes" "VIRTUAL_NODES" "150",
  counted "min-probe-interval-secs" "MIN_PROBE_INTERVAL_SECS" "5",
  counted "probe-timeout-ms" "PROBE_TIMEOUT_MS" "3000",
  counted "probe-interval-secs" "PROBE_INTERVAL_SECS" "30"]

/-- The settings of a registry. -/
def registrySettings : List Setting := [
  worded "api-addr" "API_ADDR" (some ["0.0.0.0:9100"]),
  worded "advertise-url" "ADVERTISE_URL" (some []),
  { name := "peers", envVar := "PEERS", arity := .many, standard := some [] },
  counted "liveness-timeout-secs" "LIVENESS_TIMEOUT_SECS" "30",
  counted "sweep-interval-secs" "SWEEP_INTERVAL_SECS" "5",
  { name := "priority-adjust", envVar := "PRIORITY_ADJUST", standard := some ["0.0"]
    accepts := fun text => (Decimal.ofText? text).isSome }]

/-- The settings of a cache node. -/
def nodeSettings : List Setting := [
  worded "api-addr" "API_ADDR" (some ["0.0.0.0:9200"]),
  worded "node-id" "NODE_ID" none,
  { name := "registry", envVar := "REGISTRY", arity := .many, standard := none },
  counted "capacity-bytes" "CAPACITY_BYTES" "536870912",
  worded "policy" "EVICTION_POLICY" (some ["lru"]),
  counted "pulse-interval-secs" "PULSE_INTERVAL_SECS" "5"]

/-- The program of the fleet. -/
def program : Program :=
  ⟨sharedSettings, [("registry", registrySettings), ("node", nodeSettings)]⟩

section Values

variable (values : String → List String)

/-- The one value of a setting. -/
def text (name : String) : String := (values name).headD ""

/-- The number that a setting has. -/
def number (name : String) : Nat := (word? (text values name)).getD 0

/-- The settings of both commands from the values of the program's. -/
def toShared : SharedSettings where
  logLevel := .ofName (text values "log-level")
  logsJson := text values "log-json" == "true"
  virtualNodes := number values "virtual-nodes"
  minProbeInterval := .ofSeconds (number values "min-probe-interval-secs")
  probeTimeout := .ofMillis (number values "probe-timeout-ms")
  probeInterval := .ofSeconds (max 1 (number values "probe-interval-secs"))

/-- The settings of a registry from the values of the program's. -/
def toRegistry : RegistrySettings where
  address := text values "api-addr"
  advertised := (values "advertise-url").head?
  peers := values "peers"
  livenessTimeout := .ofSeconds (number values "liveness-timeout-secs")
  sweepInterval := .ofSeconds (number values "sweep-interval-secs")
  priorityAdjust := (Decimal.ofText? (text values "priority-adjust")).getD 0

/-- The settings of a cache node from the values of the program's. -/
def toNode : NodeSettings where
  address := text values "api-addr"
  nodeId := text values "node-id"
  registry := values "registry"
  capacityBytes := UInt64.ofNat (number values "capacity-bytes")
  policy := text values "policy"
  pulseInterval := .ofSeconds (max 1 (number values "pulse-interval-secs"))

end Values

/-- Reads what is to be run from the environment and the words of a command line. -/
def read (environment : String → Option String) (words : List String) :
    Except Refusal Invocation := do
  let (name, values) ← program.read environment words
  return ⟨toShared values,
    if name == "node" then .node (toNode values) else .registry (toRegistry values)⟩

end CommandLine
end CacheTier
