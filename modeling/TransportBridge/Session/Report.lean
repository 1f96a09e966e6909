import TransportBridge.Session.Exec

/-!
Contract: a whole session, and what it reports.

After each operation a report tells its answer, what has happened meanwhile,
and how everything stands. A panic that no operation stops is the answer of the
operation at the top; the session goes on after it. Targets without a name do
not show in reports.
-/

namespace TransportBridge.Session

structure Setup where
  config : Config
  runtime : ManagedRuntime
  engineTurns : List EngineTurn
  ops : List Op

/-- A depth that no operation of the session reaches. -/
def Setup.fuel (setup : Setup) : Nat :=
  2 * (Op.totalWeight setup.ops + EngineTurn.totalWeight setup.engineTurns) + 2

/-- What a report shows of a moment. -/
inductive Line where
  | noted (notice : Notice)
  | callback (target : String) (handle : Handle) (event : SocketEvent) (attached : Option Bool)
  | engineAsked (address : Address) (framing : Framing)
  | engineCalled (handle : Handle) (call : EngineCall)
  | factoryAsked (handle : Handle) (address : Address) (options : Bytes)
  | hookRan (hook : Hook)
  | acted (act : Act)

def Stage.line? (stage : Stage) : Moment Act → Option Line
  | .noted notice => some (.noted notice)
  | .callback peer target event attached => do
    return .callback (← (← stage.role? target).name) peer.handle event attached
  | .engineAsked address framing => some (.engineAsked address framing)
  | .engineCalled _ handle call => some (.engineCalled handle call)
  | .factoryAsked factory handle address options =>
    match stage.factories[factory.index]? with
    | some (.scripted _) => some (.factoryAsked handle address options)
    | _ => none
  | .hookRan hook => some (.hookRan hook)
  | .marked act => some (.acted act)

structure PeerView where
  name : String
  life : Lifecycle
  targetAlive : Bool

structure Report where
  answer : Answer
  lines : List Line
  peers : List PeerView
  metrics : Metrics
  registered : Nat
  runtime : Option RuntimeView

def viewPeer (world : World Stage Act) (binding : String × Peer) : PeerView :=
  let peer := binding.2
  let targetAlive := (world.entry? peer.entry).any fun entry =>
    isAlive world entry.target
  ⟨binding.1, world.life peer.entry, targetAlive⟩

def Report.of (answer : Answer) (world : World Stage Act) : Report where
  answer
  lines := world.trace.toList.filterMap world.host.line?
  peers := world.host.peers.map (viewPeer world)
  metrics := world.own.metrics
  registered := world.own.registry.size
  runtime := world.runtime.view? world.thread

/-- Runs one operation at the top, with an empty trace. -/
def runTop (fuel : Nat) (op : Op) (world : World Stage Act) : Report × World Stage Act :=
  let (outcome, next) := exec fuel none op { world with trace := #[] }
  match outcome with
  | .ok answer => (.of answer next, next)
  | .error panic => (.of (.panicked panic) next, next)

def runAll (fuel : Nat) : List Op → World Stage Act → List Report → List Report
  | [], _, reports => reports.reverse
  | op :: rest, world, reports =>
    let (report, next) := runTop fuel op world
    runAll fuel rest next (report :: reports)

def Setup.world (setup : Setup) (config : Config) : World Stage Act where
  config
  runtime := setup.runtime
  host := { engineTurns := setup.engineTurns }

/-- Runs a session. There is none without usable settings. -/
def Setup.run (setup : Setup) : Except BridgeError (List Report) := do
  let config ← setup.config.validate
  return runAll setup.fuel setup.ops (setup.world config) []

end TransportBridge.Session
