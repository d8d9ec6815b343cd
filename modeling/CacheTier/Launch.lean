import CacheTier.CommandLine
import CacheTier.Net.SocketAddress
import CacheTier.Rest.NodeService
import CacheTier.Rest.RegistryService
import CacheTier.Transport

/-!
# Launching a process

From what is to be run to the service of a process: its settings are checked, what
it tells of itself is logged, and it is built.  The first fault ends the launch.
-/

namespace CacheTier

/-- Why a process does not start. -/
inductive LaunchFailure where
  | fleet (cause : FleetError)
  | emptyNodeId
  | invalidAddress (text : String)
  deriving DecidableEq, Repr, Inhabited

/-- The text shown for a process that does not start. -/
def LaunchFailure.text : LaunchFailure → String
  | fleet cause => "Error: " ++ cause.message
  | emptyNodeId => "Error: --node-id must not be empty"
  | invalidAddress text =>
    "Error: Invalid REST API address: " ++ text ++
      "\n\nCaused by:\n    invalid socket address syntax"

/-- What a process does. -/
inductive Service where
  | registry (service : RegistryService)
  /-- A node, with its way to the registry. -/
  | node (id : NodeId) (service : NodeService) (transport : Transport) (prober : Prober)

/-- The beginning of a process. -/
structure Launch where
  /-- What the process has told of itself, in order. -/
  messages : List String
  outcome : Except LaunchFailure Service

namespace Launch

/-- The name of the program. -/
def programName : String := "cache-fleet"

/-- The configuration that both commands begin with. -/
def configuration (shared : SharedSettings) : Configuration where
  ring := ⟨shared.virtualNodes⟩
  prober := { minInterval := shared.minProbeInterval, timeout := shared.probeTimeout }

/-- Rejects a configuration that no process can work with. -/
def check (config : Configuration) : Except LaunchFailure Unit :=
  config.check.mapError .fleet

/-- The address to listen on. -/
def address (text : String) : Except LaunchFailure SocketAddress :=
  match SocketAddress.ofText? text with
  | some address => .ok address
  | none => .error (.invalidAddress text)

/-- Some texts as they are logged. -/
def listed (texts : List String) : String :=
  Inspection.bracketed (texts.map Inspection.quoted)

/-- What a registry is built from. -/
def registryConfiguration (shared : SharedSettings) (settings : RegistrySettings) :
    Configuration :=
  let config := configuration shared
  { config with registry := { config.registry with
      livenessTimeout := settings.livenessTimeout
      sweepInterval := settings.sweepInterval
      priorityAdjust := settings.priorityAdjust } }

/-- The prober of the other authorities, if there are any. -/
def peerProber (config : Configuration) (peers : List String) :
    Except FleetError (Option Prober) :=
  if peers.isEmpty then .ok none else some <$> Prober.create "registry-peers" peers config.prober

/-- Builds a registry. -/
def buildRegistry (config : Configuration) (settings : RegistrySettings) :
    Except LaunchFailure Service :=
  ((peerProber config settings.peers).mapError .fleet).map fun peers =>
    .registry {
      registry := .create config.forRegistry
      peers, advertised := settings.advertised }

/-- Launches a registry. -/
def registry (shared : SharedSettings) (settings : RegistrySettings) : Launch :=
  let config := registryConfiguration shared settings
  match check config *> address settings.address with
  | .error failure => ⟨[], .error failure⟩
  | .ok address => {
      messages := [
        "  REST API: " ++ address.text,
        "  Liveness timeout: " ++ settings.livenessTimeout.text,
        "  Peers: " ++ listed settings.peers]
      outcome := buildRegistry config settings }

/-- What a cache node is built from. -/
def nodeConfiguration (shared : SharedSettings) (settings : NodeSettings) :
    Except LaunchFailure Configuration := do
  let policy ← (PolicyKind.ofName? settings.policy).mapError .fleet
  let config := { configuration shared with
    store := { capacityBytes := settings.capacityBytes, policy } }
  check config
  return config

/-- The identifier that a node announces. -/
def nodeId (text : String) : Except LaunchFailure NodeId :=
  let id : NodeId := ⟨Blank.trim text⟩
  if id.isEmpty then .error .emptyNodeId else .ok id

/-- Builds a cache node. -/
def buildNode (config : Configuration) (settings : NodeSettings) (id : NodeId) :
    Except FleetError Service := do
  let store ← Store.ofConfig config.store
  let prober ← Prober.create "registry" settings.registry config.prober
  return .node id { store } ⟨prober.service, config.transport⟩ prober

/-- Launches a cache node. -/
def node (shared : SharedSettings) (settings : NodeSettings) : Launch :=
  let prepared : Except LaunchFailure (Configuration × NodeId × SocketAddress) := do
    let config ← nodeConfiguration shared settings
    return (config, ← nodeId settings.nodeId, ← address settings.address)
  match prepared with
  | .error failure => ⟨[], .error failure⟩
  | .ok (config, id, address) => {
      messages := [
        "  Node ID: " ++ id.text,
        "  REST API: " ++ address.text,
        "  Capacity: " ++ toString config.store.capacityBytes.toNat ++ " bytes (" ++
          config.store.policy.name ++ ")",
        "  Registry: " ++ listed settings.registry]
      outcome := (buildNode config settings id).mapError .fleet }

/-- Launches what is to be run. -/
def ofInvocation (invocation : Invocation) : Launch :=
  let launch := match invocation.command with
    | .registry settings => registry invocation.shared settings
    | .node settings => node invocation.shared settings
  { launch with
    messages := ("Starting " ++ programName ++ " v" ++ Rest.version) :: launch.messages }

end Launch

namespace Service

/-- What a process tells when it begins to serve. -/
def listening : String := "REST API listening"

/-- What a process tells when it is interrupted; `dropped` tells whether the registry
has dropped its node at its request. -/
def farewell (dropped : Bool) : Service → List String
  | registry _ => ["REST server shutting down", "Registry shutdown complete"]
  | node .. =>
    ["REST server shutting down"] ++ (if dropped then ["Deregistered from registry"] else []) ++
      ["Cache node shutdown complete"]

/-- Answers a request, if the process does not panic over it. -/
def handle (request : Request) : Service → Service × Option Response
  | registry service =>
    let (service, response) := service.handle request
    (registry service, response)
  | node id service transport prober =>
    let (service, response) := service.handle request
    (node id service transport prober, some response)

end Service

/-- What can be seen of a process from outside. -/
structure ProcessReport where
  exitCode : Nat
  errors : String
  /-- What the process has told of itself. -/
  messages : List String
  /-- Whether the messages are written as JSON. -/
  isJson : Bool
  deriving DecidableEq, Repr, Inhabited

namespace ProcessReport

/-- How the program is used. -/
def usage : String := "Usage: " ++ Launch.programName ++ " [OPTIONS] <COMMAND>"

/-- What is seen of a process whose words name nothing to run. -/
def ofRefusal : CommandLine.Refusal → ProcessReport
  | .information => ⟨0, "", [], false⟩
  | .misuse => ⟨2, usage, [], false⟩

/-- What is seen of a process that is interrupted while it serves, if it comes to that. -/
def ofLaunch (shared : SharedSettings) (launch : Launch) (dropped : Bool) : ProcessReport :=
  let (exitCode, errors, more) := match launch.outcome with
    | .error failure => (1, failure.text, [])
    | .ok service => (0, "", Service.listening :: service.farewell dropped)
  { exitCode, errors, isJson := shared.logsJson
    messages := if shared.logLevel.tellsProgress then launch.messages ++ more else [] }

/-- What is seen of a process by its environment and its words. -/
def ofWords (environment : String → Option String) (words : List String) (dropped : Bool) :
    ProcessReport :=
  match CommandLine.read environment words with
  | .error refusal => ofRefusal refusal
  | .ok invocation => ofLaunch invocation.shared (.ofInvocation invocation) dropped

end ProcessReport
end CacheTier
