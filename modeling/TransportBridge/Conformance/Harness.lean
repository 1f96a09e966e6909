import TransportBridge.Session.Exec

/-!
Contract: a bridge with a recording engine and a simulated runtime, and the way
that tests open a connection on it.

Opening asks for an outbound connection and delivers its open request at once.
Settings or steps that fail end the test by a panic that tells which one failed.
-/

namespace TransportBridge.Conformance

open Session

/-- Deeper than replies of cooperative targets and echoes of the engine go. -/
def runner : Runner :=
  exec 8

/-- The endpoint that tests connect to. -/
def syncAddress : Address :=
  ⟨"wss", "x.example", 443, "/db/_blipsync"⟩

def newWorld (config : Config) : Except Panic (World Stage Act) :=
  match config.validate with
  | .ok config => .ok { config, runtime := .simulated {}, host := {} }
  | .error error => .error (.text ("测试配置非法：" ++ error.message))

/-- A connection of a test, with the target that records its events. -/
structure Opened where
  peer : Peer
  target : TargetId

/-- A target that does nothing but record, or that cooperates. -/
def plainTarget (cooperative : Bool) : TargetSpec :=
  .mk "" cooperative []

/-- Asks for a connection. A test has the recordings of its targets at hand. -/
def requestOutbound (address : Address) (spec : TargetSpec) :
    SessionM (Except BridgeError Peer × TargetId) := do
  let target ← castTarget spec
  updateStage fun stage => { stage with atHand := target :: stage.atHand }
  let outcome ← (Registration.openOutbound (host runner) address none target).run
  return (outcome, target)

def deliver (handle : Handle) (event : NativeEvent) : SessionM (Except BridgeError Unit) :=
  (Delivery.dispatch (host runner) handle event).run

def call (peer : Peer) (call : SocketCall) : SessionM (Except BridgeError (Option Nat)) :=
  (Socket.invoke (host runner) peer call).run

def openConnection (address : Address) (spec : TargetSpec) : SessionM Opened := do
  let (outcome, target) ← requestOutbound address spec
  match outcome with
  | .error error => throw (.text ("打开出站连接失败：" ++ error.message))
  | .ok peer =>
    match ← deliver peer.handle (.openRequest address (.transferable [])) with
    | .error error => throw (.text ("on_open 投递失败：" ++ error.message))
    | .ok () => return ⟨peer, target⟩

/-- What is done to a harness before the connection is opened. -/
inductive Preparation where
  | refuse (error : ErrorRecord)
  | reuse (handle : Handle)
  | openIdle (address : Address)
  | control (order : RuntimeControl)

def Preparation.perform : Preparation → SessionM Unit
  | .refuse error =>
    updateStage fun stage => { stage with engine := { stage.engine with refusal := some error } }
  | .reuse handle =>
    updateStage fun stage => { stage with engine := { stage.engine with reuse := some handle } }
  | .openIdle address => do
    let _ ← openConnection address (plainTarget false)
  | .control order =>
    modify fun world => { world with runtime := world.runtime.control world.thread order }

/-- How things stand when the connection is open. -/
structure HarnessReport where
  peer : String
  recording : Recording
  engineCalls : Nat
  metrics : Metrics
  registered : Nat

def openPrepared (preparations : List Preparation) (address : Address)
    (cooperative : Bool) : SessionM HarnessReport := do
  preparations.forM Preparation.perform
  let opened ← openConnection address (plainTarget cooperative)
  let recording ← recordingOf opened.target
  let world ← get
  return {
    peer := inspectPeer world opened.peer
    recording
    engineCalls := world.host.engine.records.size
    metrics := world.own.metrics
    registered := world.own.registry.size }

/-- The outcome of a whole test, with the notices that it left. -/
def harnessReport (config : Config) (preparations : List Preparation) (address : Address)
    (cooperative : Bool) : Except Panic HarnessReport × List Notice :=
  match newWorld config with
  | .error panic => (.error panic, [])
  | .ok world =>
    let (outcome, last) := openPrepared preparations address cooperative world
    (outcome, notices last.trace)

end TransportBridge.Conformance
