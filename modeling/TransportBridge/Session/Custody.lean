import TransportBridge.Bridge.Custody
import TransportBridge.Session.Stage

/-!
Contract: what a session holds, and the operations that change its holds.

A session holds registrations under the names of connections, and each target's
recording knows the registration of its last event. It holds targets under the
names of pins, and recording factories hold the targets that they have made. A
recording is kept by its target, by the name that it has last, and while it is
at hand.

Every operation here that replaces a hold lets go of what was held before,
after the new hold is taken.
-/

namespace TransportBridge.Session

/-! ## Holds -/

namespace Stage

/-- A pin or a factory holds the target. -/
def keeps (stage : Stage) (target : TargetId) : Bool :=
  stage.pins.any (·.2 = target) || stage.factories.any fun
    | .recording created _ => created.any (·.2 = target)
    | .scripted _ => false

/-- The target's recording is kept, whatever becomes of the target. -/
def remembers (stage : Stage) (target : TargetId) : Bool :=
  stage.targets.any (·.2 = target) || stage.atHand.contains target

def knows (stage : Stage) (entry : EntryId) : Bool :=
  stage.peers.any (·.2.entry = entry) || stage.cast.any fun role =>
    role.recording.peer.any (·.entry = entry)

/-- Has a recording that nobody keeps forget its connection. -/
def forget (target : TargetId) (stage : Stage) : Option EntryId × Stage :=
  if stage.keeps target || stage.remembers target then (none, stage)
  else
    (((stage.role? target).bind (·.recording.peer)).map (·.entry), { stage with
      cast := stage.cast.modify target.index fun role =>
        { role with recording := { role.recording with peer := none } } })

end Stage

instance : Custodian Stage where
  knows := Stage.knows
  forget := Stage.forget

/-- Somebody holds the target. -/
def isAlive (world : World Stage Act) (target : TargetId) : Bool :=
  world.keeps target || world.host.keeps target

/-! ## Changes of holds -/

/-- Brings a target on stage under its name. -/
def castTarget (spec : TargetSpec) : SessionM TargetId := do
  let (target, before) ← changeStage (·.addTarget spec)
  before.forM Custody.letGoOfTarget
  return target

/-- Names a connection. -/
def bindPeer (name : String) (peer : Peer) : SessionM Unit := do
  let before ← changeStage fun stage =>
    (stage.peers.find? name, { stage with peers := stage.peers.bind name peer })
  before.forM fun peer => Custody.letGo peer.entry

def bindPin (name : String) (target : TargetId) : SessionM Unit := do
  let before ← changeStage fun stage =>
    (stage.pins.find? name, { stage with pins := stage.pins.bind name target })
  before.forM Custody.letGoOfTarget

/-- Drops a pin, and tells whether there was one of the name. -/
def dropPin (name : String) : SessionM Bool := do
  let before ← changeStage fun stage =>
    (stage.pins.find? name, { stage with pins := stage.pins.filter (·.1 ≠ name) })
  before.forM Custody.letGoOfTarget
  return before.isSome

/-- Lets go of a factory, which holds what it has made for as long as it is
installed or known as the recording factory. -/
def dismiss (factory : FactoryId) : SessionM Unit := do
  let world ← get
  unless world.factory = some factory ∨ world.host.recordingFactory = some factory do
    let created ← changeStage (·.takeCreated factory)
    created.forM Custody.letGoOfTarget

/-- Installs a factory in place of any other. -/
def install (factory : FactoryRole) : SessionM FactoryId := do
  let id ← changeStage (·.addFactory factory)
  let before := (← get).factory
  modify fun world => { world with factory := some id }
  before.forM dismiss
  return id

def installRecordingFactory : SessionM Unit := do
  let id ← install (.recording [] none)
  let before ← changeStage fun stage =>
    (stage.recordingFactory, { stage with recordingFactory := some id })
  before.forM dismiss

/-- Has a target record an event. Its recording knows the connection of this
event from then on, and no other. -/
def recordEvent (peer : Peer) (target : TargetId) (event : SocketEvent) : SessionM Unit := do
  let before ← changeStage fun stage =>
    ((stage.role? target).bind (·.recording.peer), stage.record target peer event)
  before.forM fun peer => Custody.letGo peer.entry

/-- Keeps a target's recording at hand while `body` runs. -/
def withRecording {α : Type} (target : TargetId) (body : SessionM α) : SessionM α :=
  ensuring
    (do
      updateStage fun stage => { stage with atHand := target :: stage.atHand }
      body)
    (do
      updateStage fun stage => { stage with atHand := stage.atHand.erase target }
      Custody.letGoOfTarget target)

end TransportBridge.Session
