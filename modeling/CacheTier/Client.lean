import CacheTier.Client.Retry
import CacheTier.Text.Inspection

/-!
# The registry client

A client routes keys by its own copy of the registry's ring.  While the copy is
empty, callers wait for one fetch at a time; once it is older than its time to
live, one fetch goes on in the background and the old copy serves meanwhile.

A call runs until it waits for its turn or for a reply, and goes on from there
when it is resumed or the reply is delivered.  Between two such steps of one call
there may be any number of steps of others.
-/

namespace CacheTier

/-- What a client holds of the registry. -/
structure ClientCache where
  ring : FleetRing
  checksum : Option String
  nodes : List NodeRecord
  /-- When a reply last confirmed the copy. -/
  refreshedAt : Option Span

namespace ClientCache

/-- The copy before any reply. -/
def cold (config : ClientConfig) : ClientCache :=
  ⟨.ofConfig Digest.ofText config.ring, none, [], none⟩

/-- The ring with a list of nodes, added in the order of the list. -/
def ringOf (config : ClientConfig) (nodes : List NodeRecord) : FleetRing :=
  nodes.foldl (fun ring node => (ring.add node.id node.priority).1)
    (.ofConfig Digest.ofText config.ring)

/-- The copy of a snapshot that is delivered at a time. -/
def ofSnapshot (config : ClientConfig) (snapshot : Snapshot) (now : Span) : ClientCache :=
  ⟨ringOf config snapshot.nodes, some snapshot.checksum, snapshot.nodes, some now⟩

/-- The copy after a reply that a checksum is current. -/
def confirmed (cache : ClientCache) (checksum : String) (now : Span) : ClientCache :=
  if cache.checksum == some checksum then { cache with refreshedAt := some now } else cache

/-- Whether the copy has outlived its time, or was never delivered. -/
def isStale (cache : ClientCache) (config : ClientConfig) (now : Span) : Bool :=
  match cache.refreshedAt with
  | some time => config.softTtl ≤ now - time
  | none => true

/-- Whether there is nothing to route by and the registry has to be asked. -/
def isCold (cache : ClientCache) (config : ClientConfig) (now : Span) : Bool :=
  cache.ring.isEmpty && cache.isStale config now

/-- The node that serves a key by this copy. -/
def route (cache : ClientCache) (key : String) : Except FleetError NodeId :=
  match cache.ring.route? key with
  | some id => .ok id
  | none => .error (.routingUnavailable "registry reports no cache nodes")

end ClientCache

/-- What a fetch did to the copy. -/
inductive RefreshOutcome where
  | unchanged
  /-- The copy was replaced by one of this many nodes. -/
  | rebuilt (nodes : Nat)
  deriving DecidableEq, Repr, Inhabited

/-- The running totals of a client. -/
structure ClientCounters where
  fetches : UInt64 := 0
  unchanged : UInt64 := 0
  rebuilds : UInt64 := 0
  failures : UInt64 := 0
  deriving DecidableEq, Repr, Inhabited

/-- What a caller asks of a client. -/
inductive ClientCall where
  | locate (key : String)
  | refresh
  /-- A refresh that the client has started itself. -/
  | background
  deriving DecidableEq, Repr, Inhabited

/-- Where a call stands. -/
inductive CallStage where
  /-- The call has not run yet. -/
  | begun
  /-- The call waits for its turn to fetch. -/
  | queued
  /-- The call waits for a reply. -/
  | fetching
  deriving DecidableEq, Repr, Inhabited

/-- A call that has not been answered. -/
structure ClientTask where
  call : ClientCall
  stage : CallStage
  deriving DecidableEq, Repr, Inhabited

/-- The answer to a call. -/
inductive ClientResult where
  | located (result : Except FleetError NodeId)
  | refreshed (result : Except FleetError RefreshOutcome)

/-- What a client asks of its surroundings. -/
inductive ClientDemand where
  /-- Ask the registry for a snapshot, with the checksum of the present copy. -/
  | fetch (task : Nat) (known : Option String)
  /-- Resume a call whose turn has come. -/
  | resume (task : Nat)
  /-- Start a call in the background. -/
  | start (task : Nat)
  /-- Give a call its answer. -/
  | finish (task : Nat) (result : ClientResult)

/-- The copy of the registry together with the calls under way. -/
structure RegistryClient where
  config : ClientConfig
  cache : ClientCache
  retry : RetrySchedule
  /-- Set while a background refresh is under way. -/
  refreshing : Bool
  /-- The call that may fetch while the copy is cold. -/
  turn : Option Nat
  /-- The calls that wait for their turn, in the order of their arrival. -/
  waiting : List Nat
  tasks : Table Nat ClientTask
  nextTask : Nat
  counters : ClientCounters

namespace RegistryClient

/-- The client that has not fetched anything. -/
def create (config : ClientConfig) : RegistryClient where
  config := config
  cache := .cold config
  retry := .start config
  refreshing := false
  turn := none
  waiting := []
  tasks := .empty
  nextTask := 0
  counters := {}

/-- Whether the copy is cold at a time. -/
def isCold (client : RegistryClient) (now : Span) : Bool :=
  client.cache.isCold client.config now

/-- Takes a call in, to be resumed at the caller's convenience, and numbers it. -/
def submit (client : RegistryClient) (call : ClientCall) : RegistryClient × Nat :=
  ({ client with
    tasks := client.tasks.insert client.nextTask ⟨call, .begun⟩
    nextTask := client.nextTask + 1 }, client.nextTask)

/-- Answers a call. -/
def finish (client : RegistryClient) (task : Nat) (result : ClientResult) :
    RegistryClient × List ClientDemand :=
  ({ client with tasks := client.tasks.erase task }, [.finish task result])

/-- Answers a call by the present copy. -/
def finishByRoute (client : RegistryClient) (task : Nat) (key : String) :
    RegistryClient × List ClientDemand :=
  client.finish task (.located (client.cache.route key))

/-- Passes the turn on to the call that has waited longest. -/
def passTurn (client : RegistryClient) : RegistryClient × List ClientDemand :=
  match client.waiting with
  | [] => ({ client with turn := none }, [])
  | task :: rest => ({ client with turn := some task, waiting := rest }, [.resume task])

/-- Does one thing after another. -/
def andThen (first : RegistryClient × List ClientDemand)
    (next : RegistryClient → RegistryClient × List ClientDemand) :
    RegistryClient × List ClientDemand :=
  let (client, demands) := next first.1
  (client, first.2 ++ demands)

/-- Asks the registry on behalf of a call. -/
def beginFetch (client : RegistryClient) (task : Nat) (call : ClientCall) :
    RegistryClient × List ClientDemand :=
  let counters := { client.counters with fetches := client.counters.fetches + 1 }
  ({ client with counters, tasks := client.tasks.insert task ⟨call, .fetching⟩ },
    [.fetch task client.cache.checksum])

/-- What a caller is told who may not ask the registry before a pause is over. -/
def pauseFailure (wait : Span) : FleetError :=
  .routingUnavailable ("no cached ring, registry retry in " ++ wait.text)

/-- What a caller is told whose fetch failed. -/
def fetchFailure (cause : FleetError) : FleetError :=
  .routingUnavailable ("no cached ring and registry fetch failed: " ++ cause.message)

/-- Goes on with a look-up whose turn has come: it fetches only if the copy is still
cold and no pause is running. -/
def takeTurn (client : RegistryClient) (task : Nat) (key : String) (now : Span) :
    RegistryClient × List ClientDemand :=
  if client.isCold now then
    match client.retry.remaining? now with
    | some wait =>
      andThen client.passTurn (·.finish task (.located (.error (pauseFailure wait))))
    | none => client.beginFetch task (.locate key)
  else andThen client.passTurn (·.finishByRoute task key)

/-- Starts a background refresh unless one is under way or a pause is running. -/
def startRefresh (client : RegistryClient) (now : Span) :
    RegistryClient × List ClientDemand :=
  if client.refreshing || (client.retry.remaining? now).isSome then (client, [])
  else
    let (client, task) := { client with refreshing := true }.submit .background
    (client, [.start task])

/-- Begins a look-up. -/
def beginLocate (client : RegistryClient) (task : Nat) (key : String) (now : Span) :
    RegistryClient × List ClientDemand :=
  if key.isEmpty then
    client.finish task (.located (.error (.invalidArgument "block key must not be empty")))
  else if client.isCold now then
    match client.turn with
    | none => { client with turn := some task }.takeTurn task key now
    | some _ =>
      ({ client with
        waiting := client.waiting ++ [task]
        tasks := client.tasks.insert task ⟨.locate key, .queued⟩ }, [])
  else if client.cache.isStale client.config now then
    andThen (client.startRefresh now) (·.finishByRoute task key)
  else client.finishByRoute task key

/-- Runs a call that has not run yet, or one whose turn has come. -/
def resume (client : RegistryClient) (task : Nat) (now : Span) :
    RegistryClient × List ClientDemand :=
  match client.tasks.get? task with
  | some ⟨.locate key, .begun⟩ => client.beginLocate task key now
  | some ⟨call, .begun⟩ => client.beginFetch task call
  | some ⟨.locate key, .queued⟩ =>
    if client.turn == some task then client.takeTurn task key now else (client, [])
  | _ => (client, [])

/-- Takes a reply into the copy. -/
def absorb (client : RegistryClient) (reply : SnapshotReply) (now : Span) :
    RegistryClient × RefreshOutcome :=
  match reply with
  | .unchanged checksum =>
    ({ client with
      cache := client.cache.confirmed checksum now
      counters := { client.counters with unchanged := client.counters.unchanged + 1 } },
      .unchanged)
  | .full snapshot =>
    ({ client with
      cache := .ofSnapshot client.config snapshot now
      counters := { client.counters with rebuilds := client.counters.rebuilds + 1 } },
      .rebuilt snapshot.nodes.length)

/-- Takes the end of a fetch in: a failure leaves the copy and starts a pause, a reply
ends the pause. -/
def conclude (client : RegistryClient) (reply : Except FleetError SnapshotReply)
    (jitter : Jitter) (now : Span) :
    RegistryClient × Except FleetError RefreshOutcome :=
  match reply with
  | .error cause =>
    ({ client with
      retry := client.retry.failed client.config now jitter
      counters := { client.counters with failures := client.counters.failures + 1 } },
      .error cause)
  | .ok reply =>
    let (client, outcome) := { client with retry := .start client.config }.absorb reply now
    (client, .ok outcome)

/-- Answers the look-up that a fetch was made for. -/
def finishLocate (client : RegistryClient) (task : Nat) (key : String)
    (outcome : Except FleetError RefreshOutcome) : RegistryClient × List ClientDemand :=
  match outcome with
  | .error cause =>
    if client.cache.ring.isEmpty then
      client.finish task (.located (.error (fetchFailure cause)))
    else client.finishByRoute task key
  | .ok _ => client.finishByRoute task key

/-- Delivers the end of a fetch to the call that waits for it. -/
def deliver (client : RegistryClient) (task : Nat) (reply : Except FleetError SnapshotReply)
    (jitter : Jitter) (now : Span) : RegistryClient × List ClientDemand :=
  match client.tasks.get? task with
  | some ⟨call, .fetching⟩ =>
    let (client, outcome) := client.conclude reply jitter now
    match call with
    | .locate key => andThen client.passTurn (·.finishLocate task key outcome)
    | .refresh => client.finish task (.refreshed outcome)
    | .background => { client with refreshing := false }.finish task (.refreshed outcome)
  | _ => (client, [])

/-- The client as a line of text. -/
def summary (client : RegistryClient) : String :=
  "RegistryClient \x7b checksum: " ++
    Inspection.optional Inspection.quoted client.cache.checksum ++
    ", nodes: " ++ toString client.cache.ring.size ++ " \x7d"

end RegistryClient
end CacheTier
