import TransportBridge.Conformance.Engine
import TransportBridge.Conformance.Recording
import TransportBridge.Session.Op

/-!
Contract: who and what is on stage while a session runs.

Owns: the recording engine, the recordings of all targets, the turns that are
still to be played, the factories, and the names under which a session knows
targets, connections and pins.

Does not own: the bridge. A stage is the host's part of a world.
-/

namespace TransportBridge.Session

/-- What an operation has to say. -/
inductive Answer where
  | done
  /-- The operation names somebody who is not there. -/
  | noPeer
  | absent
  | flag (value : Bool)
  | count (value : Nat)
  | handle (handle : Handle)
  | bytes (bytes : Bytes)
  | text (text : String)
  | peerState (handle : Handle) (state : SocketState) (pendingWrite unackedReceive : Nat)
  | lookup (bound targetAlive : Bool) (size : Nat)
  | keeper (result : Answer) (metrics : Metrics)
  | calls (records : List EngineRecord)
  | recording (recording : Recording)
  | created (targets : List (Handle × Recording))
  | failed (error : BridgeError)
  | panicked (panic : Panic)
  | each (answers : List Answer)

/-- A scripted operation has come to its end. -/
structure Act where
  op : Op
  answer : Answer

/-- A callback target. One that a recording factory has made has no name. -/
structure Role where
  name : Option String
  recording : Recording
  turns : List Turn

inductive FactoryRole where
  | scripted (answers : List FactoryAnswer)
  | recording (created : List (Handle × TargetId)) (refusal : Option ErrorRecord)

/-- Things by name; the newest of a name counts. -/
abbrev Names (α : Type) := List (String × α)

def Names.bind {α : Type} (names : Names α) (name : String) (value : α) : Names α :=
  (name, value) :: names.filter (·.1 ≠ name)

def Names.find? {α : Type} (names : Names α) (name : String) : Option α :=
  names.lookup name

structure Stage where
  engine : RecordingEngine := {}
  engineTurns : List EngineTurn := []
  cast : Array Role := #[]
  factories : Array FactoryRole := #[]
  /-- The recording factory that was installed last. -/
  recordingFactory : Option FactoryId := none
  targets : Names TargetId := []
  peers : Names Peer := []
  pins : Names TargetId := []
  /-- Targets whose recordings are at hand apart from any name. -/
  atHand : List TargetId := []
  threadCount : Nat := 0

namespace Stage

def role? (stage : Stage) (target : TargetId) : Option Role :=
  stage.cast[target.index]?

def addRole (stage : Stage) (role : Role) : TargetId × Stage :=
  (⟨stage.cast.size⟩, { stage with cast := stage.cast.push role })

/-- Brings a target on stage under its name, and tells which one had the name
before. -/
def addTarget (stage : Stage) : TargetSpec → (TargetId × Option TargetId) × Stage
  | .mk name cooperative turns =>
    let (target, stage) := stage.addRole ⟨some name, { cooperative }, turns⟩
    ((target, stage.targets.find? name),
      { stage with targets := stage.targets.bind name target })

def addFactory (stage : Stage) (factory : FactoryRole) : FactoryId × Stage :=
  (⟨stage.factories.size⟩, { stage with factories := stage.factories.push factory })

def recording? (stage : Stage) (name : String) : Option (TargetId × Recording) := do
  let target ← stage.targets.find? name
  let role ← stage.role? target
  return (target, role.recording)

def record (stage : Stage) (target : TargetId) (peer : Peer) (event : SocketEvent) : Stage :=
  { stage with
    cast := stage.cast.modify target.index fun role =>
      { role with recording := role.recording.record peer event } }

def reply? (stage : Stage) (target : TargetId) (event : SocketEvent) : Option SocketCall := do
  (← stage.role? target).recording.reply? event

/-- The first turn for an event, and the turns that are left. -/
def takeTurn (event : EventKind) : List Turn → List Op × List Turn
  | [] => ([], [])
  | .mk cue ops :: rest =>
    if cue = event then (ops, rest)
    else
      let (taken, left) := takeTurn event rest
      (taken, .mk cue ops :: left)

def takeTargetTurn (stage : Stage) (target : TargetId) (event : EventKind) : List Op × Stage :=
  match stage.role? target with
  | none => ([], stage)
  | some role =>
    let (ops, turns) := takeTurn event role.turns
    (ops, { stage with cast := stage.cast.modify target.index fun role => { role with turns } })

def takeEngineTurns (cue : EngineCue) : List EngineTurn → List Op × List EngineTurn
  | [] => ([], [])
  | turn :: rest =>
    if turn.cue = cue then (turn.ops, rest)
    else
      let (taken, left) := takeEngineTurns cue rest
      (taken, turn :: left)

def takeEngineTurn (stage : Stage) (cue : EngineCue) : List Op × Stage :=
  let (ops, engineTurns) := takeEngineTurns cue stage.engineTurns
  (ops, { stage with engineTurns })

/-- The next answer of a scripted factory. One that has none left declines, and
gives no reason. -/
def takeFactoryAnswer (stage : Stage) (factory : FactoryId) : FactoryAnswer × Stage :=
  match stage.factories[factory.index]? with
  | some (.scripted (answer :: rest)) =>
    (answer, { stage with
      factories := stage.factories.setIfInBounds factory.index (.scripted rest) })
  | _ => (.decline [] .success, stage)

/-- The state of the recording factory that was installed last. -/
def recordingFactory? (stage : Stage) :
    Option (FactoryId × List (Handle × TargetId) × Option ErrorRecord) := do
  let factory ← stage.recordingFactory
  match stage.factories[factory.index]? with
  | some (.recording created refusal) => some (factory, created, refusal)
  | _ => none

/-- Takes from a recording factory the targets that it has made. -/
def takeCreated (stage : Stage) (factory : FactoryId) : List TargetId × Stage :=
  match stage.factories[factory.index]? with
  | some (.recording created refusal) =>
    (created.map (·.2), { stage with
      factories := stage.factories.setIfInBounds factory.index (.recording [] refusal) })
  | _ => ([], stage)

end Stage

abbrev SessionM := BridgeM Stage Act

def getStage : SessionM Stage :=
  return (← get).host

def changeStage {α : Type} (step : Stage → α × Stage) : SessionM α := fun world =>
  let (result, host) := step world.host
  (.ok result, { world with host })

def updateStage (step : Stage → Stage) : SessionM Unit :=
  changeStage fun stage => ((), step stage)

end TransportBridge.Session
