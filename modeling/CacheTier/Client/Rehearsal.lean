import CacheTier.Agenda
import CacheTier.Client

/-!
# Rehearsals of a client

A client in front of a registry whose answers may be delayed or replaced, on a
clock that moves only when everything waits for time.  A reply is decided at the
moment of its delivery.
-/

namespace CacheTier

/-- What a fetch is answered with. -/
inductive SourceMode where
  /-- The registry's own answer. -/
  | registry
  | failing (cause : FleetError)
  | unchanged (checksum : String)
  | full (snapshot : Snapshot)

/-- The work of a client's calls. -/
inductive ClientWork where
  | resume (task : Nat)
  | deliver (task : Nat) (known : Option String)
  deriving DecidableEq, Repr, Inhabited

namespace ClientWork

/-- The call that a piece of work belongs to. -/
def task : ClientWork → Nat
  | resume task => task
  | deliver task _ => task

end ClientWork

/-- A client and everything around it but the clock. -/
structure ClientScene where
  client : RegistryClient
  registry : Registry
  mode : SourceMode
  /-- How long a fetch takes. -/
  delay : Span
  /-- The calls that are waited for. -/
  foreground : List Nat
  /-- The calls started in the background, in the order of their numbers. -/
  started : List Nat
  /-- The checksums sent with the fetches, in order. -/
  requests : List (Option String)
  /-- The answers to calls, in order. -/
  results : List (Nat × ClientResult)

namespace ClientScene

/-- The reply to a fetch at this moment. -/
def reply (scene : ClientScene) (known : Option String) : Except FleetError SnapshotReply :=
  match scene.mode with
  | .registry => .ok (scene.registry.snapshot known)
  | .failing cause => .error cause
  | .unchanged checksum => .ok (.unchanged checksum)
  | .full snapshot => .ok (.full snapshot)

/-- The work that a demand of the client leads to, made during a step of a call. -/
def meet (actor : Nat) (now : Span) (scene : ClientScene) :
    ClientDemand → ClientScene × List (Moment × ClientWork)
  | .fetch task known =>
    let moment := if scene.delay == .zero then .first else .later (now + scene.delay)
    ({ scene with requests := scene.requests ++ [known] }, [(moment, .deliver task known)])
  | .resume task =>
    let together := actor ∈ scene.foreground && task ∈ scene.foreground
    (scene, [(if together then .first else .last, .resume task)])
  | .start task => (scene, [(.last, .resume task)])
  | .finish task result => ({ scene with results := scene.results ++ [(task, result)] }, [])

/-- Lets the client take a step of a call. -/
def step (actor : Nat) (now : Span) (scene : ClientScene)
    (result : RegistryClient × List ClientDemand) :
    ClientScene × List (Moment × ClientWork) :=
  result.2.foldl (fun (scene, works) demand =>
    let (scene, more) := scene.meet actor now demand
    (scene, works ++ more)) ({ scene with client := result.1 }, [])

/-- Does a piece of work. -/
def perform (now : Span) (work : ClientWork) (scene : ClientScene) :
    ClientScene × List (Moment × ClientWork) :=
  match work with
  | .resume task => scene.step task now (scene.client.resume task now)
  | .deliver task known =>
    scene.step task now (scene.client.deliver task (scene.reply known) .even now)

/-- Whether a piece of work belongs to a call that is waited for. -/
def isForeground (scene : ClientScene) (work : ClientWork) : Bool :=
  work.task ∈ scene.foreground

/-- The answer to a call, once there is one. -/
def result? (scene : ClientScene) (task : Nat) : Option ClientResult :=
  scene.results.lookup task

/-- Whether all calls that are waited for have been answered. -/
def isAnswered (scene : ClientScene) : Bool :=
  scene.foreground.all fun task => (scene.result? task).isSome

end ClientScene

/-- A client's scene with its clock. -/
structure ClientRehearsal where
  scene : ClientScene
  agenda : Agenda ClientWork

namespace ClientRehearsal

/-- The rehearsal of a client in front of a registry. -/
def create (client : RegistryClient) (registry : Registry) : ClientRehearsal where
  scene := {
    client, registry
    mode := .registry, delay := .zero
    foreground := [], started := [], requests := [], results := [] }
  agenda := .empty

/-- The pieces of work that the calls under way may lead to, at most. -/
def effort (r : ClientRehearsal) : Nat :=
  8 * (r.agenda.size + r.scene.client.tasks.size + 1)

/-- Does the work within a horizon. -/
def run (r : ClientRehearsal) (horizon : Agenda.Horizon ClientScene) : ClientRehearsal :=
  let duty := ⟨ClientScene.perform, ClientScene.isForeground⟩
  let (scene, agenda) := Agenda.work duty horizon r.effort r.scene r.agenda
  ⟨scene, agenda⟩

/-- Does all the work that waits for no time. -/
def settle (r : ClientRehearsal) : ClientRehearsal := r.run (.through r.agenda.now)

/-- Takes a call in. -/
def submit (r : ClientRehearsal) (call : ClientCall) : ClientRehearsal × Nat :=
  let (client, task) := r.scene.client.submit call
  (⟨{ r.scene with client }, r.agenda.add [(.last, .resume task)]⟩, task)

/-- Takes several calls in, in order. -/
def submitAll (r : ClientRehearsal) (calls : List ClientCall) : ClientRehearsal × List Nat :=
  calls.foldl (fun (r, tasks) call =>
    let (r, task) := r.submit call
    (r, tasks ++ [task])) (r, [])

/-- Makes some calls at the same time and waits for all of them. -/
def call (r : ClientRehearsal) (calls : List ClientCall) :
    ClientRehearsal × List ClientResult :=
  let (r, tasks) := r.submitAll calls
  let r := { r with scene := { r.scene with foreground := tasks } : ClientRehearsal }
  let r := r.run (.until ClientScene.isAnswered)
  (r, tasks.filterMap r.scene.result?)

/-- Starts a call in the background and gives its number. -/
def start (r : ClientRehearsal) (call : ClientCall) : ClientRehearsal × Nat :=
  let number := r.scene.started.length
  let (r, task) := r.submit call
  let scene := { r.scene with started := r.scene.started ++ [task] }
  (settle { r with scene }, number)

/-- Lets time pass. -/
def sleep (r : ClientRehearsal) (time : Span) : ClientRehearsal :=
  let goal := r.agenda.now + time.roundedToMillis
  let r := r.run (.through goal)
  { r with agenda := { r.agenda with now := goal } }

/-- Answers fetches in another way and after another time from now on. -/
def answerWith (r : ClientRehearsal) (mode : SourceMode) (delay : Span) : ClientRehearsal :=
  { r with scene := { r.scene with mode, delay } }

/-- Changes the registry. -/
def withRegistry (r : ClientRehearsal) (registry : Registry) : ClientRehearsal :=
  { r with scene := { r.scene with registry } }

/-- The answers to calls in the background, by the numbers of the calls. -/
def startedResults (r : ClientRehearsal) : List (Nat × ClientResult) :=
  r.scene.results.filterMap fun (task, result) =>
    (r.scene.started.idxOf? task).map (·, result)

/-- Forgets what was recorded, before the next step. -/
def forget (r : ClientRehearsal) : ClientRehearsal :=
  { r with scene := { r.scene with requests := [], results := [], foreground := [] } }

end ClientRehearsal
end CacheTier
