import CacheTier.Client
import CacheTier.Prober.Rehearsal
import CacheTier.Rest.RegistryService
import CacheTier.Transport

/-!
# Rehearsals of a transport

A transport and a client over it, among registries that can be reached under their
addresses.  A prober on the clock of its own rehearsal names the endpoints.  An
exchange takes no time; the cycles that it leads to run afterwards or in a pause.
-/

namespace CacheTier

/-- A client and its prober among registries. -/
structure TransportScene where
  prober : ProberRehearsal
  client : RegistryClient
  /-- The registries by the hosts that they can be reached at. -/
  services : Table String RegistryService

namespace TransportScene

/-- Lets the registry at an address answer a request. -/
def send (scene : TransportScene) (url : Url) (request : Request) :
    TransportScene × Exchange :=
  match scene.services.get? url.authority with
  | none => (scene, .broken)
  | some service =>
    let (service, response) := service.handle request
    ({ scene with services := scene.services.insert url.authority service },
      .ofResponse? response)

/-- The scene as surroundings of a transport. -/
def surroundings : Surroundings TransportScene where
  current scene :=
    let prober := scene.prober.scene.prober
    let (url, demands) := prober.current
    ({ scene with prober := scene.prober.prepare prober demands }, url)
  report scene url :=
    let (prober, _, demands) := scene.prober.scene.prober.markFailed url
    { scene with prober := scene.prober.prepare prober demands }
  send := send
  now scene := scene.prober.agenda.now
  pause scene time := { scene with prober := scene.prober.sleep time }
  jitter _ := .even

/-- Lets the cycles run that an operation has led to. -/
def settled {α : Type} (result : TransportScene × α) : TransportScene × α :=
  ({ result.1 with prober := result.1.prober.settle }, result.2)

/-- Meets what a client demands, one thing after another, in at most `fuel` steps. -/
def meet (t : Transport) :
    Nat → List ClientDemand → TransportScene → TransportScene × List (Nat × ClientResult)
  | 0, _, scene => (scene, [])
  | _, [], scene => (scene, [])
  | fuel + 1, demand :: rest, scene =>
    let now := scene.prober.agenda.now
    match demand with
    | .finish task result =>
      let (scene, results) := meet t fuel rest scene
      (scene, (task, result) :: results)
    | .fetch task known =>
      let (scene, reply) := t.fetch surroundings (.generated 0) known scene
      let (client, more) := scene.client.deliver task reply .even now
      meet t fuel (more ++ rest) { scene with client }
    | .resume task | .start task =>
      let (client, more) := scene.client.resume task now
      meet t fuel (rest ++ more) { scene with client }

/-- Makes a call and waits for its answer. -/
def call (t : Transport) (call : ClientCall) (scene : TransportScene) :
    TransportScene × Option ClientResult :=
  let (client, task) := scene.client.submit call
  let (scene, results) :=
    meet t (8 * (client.tasks.size + 1)) [.resume task] { scene with client }
  settled (scene, results.lookup task)

end TransportScene
end CacheTier
