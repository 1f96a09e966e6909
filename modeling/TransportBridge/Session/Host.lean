import TransportBridge.Session.Custody

/-!
Contract: the host of a session, which plays the turns that are written for it.

A target records each event before its turn and replies if it is cooperative,
the engine records each call before its turn and echoes a closed call if it is
told to, and a factory plays the turn of its answer before it gives it. All of
them act by operations of the session; how an operation runs is the `Runner`'s
affair.
-/

namespace TransportBridge.Session

/-- Runs an operation on behalf of a connection, if there is one. -/
abbrev Runner := Option Peer → Op → SessionM Answer

/-- Plays a turn: its operations in order, each leaving a mark when it has come
to its end. -/
def play (run : Runner) (self : Option Peer) (ops : List Op) : SessionM Unit :=
  ops.forM fun op => do
    let answer ← run self op
    witness (.marked ⟨op, answer⟩)

/-- Has a target record an event, and reply if it is cooperative. How the reply
fares is of no interest to it. -/
def tellTarget (run : Runner) (peer : Peer) (target : TargetId) (event : SocketEvent) :
    SessionM Unit := do
  let reply? := (← getStage).reply? target event
  recordEvent peer target event
  if let some reply := reply? then
    let _ ← run (some peer) (.socket .self reply)

def callTarget (run : Runner) (peer : Peer) (target : TargetId) (event : SocketEvent) :
    SessionM Unit := do
  tellTarget run peer target event
  play run (some peer) (← changeStage (·.takeTargetTurn target event.kind))

def createHandle (run : Runner) (address : Address) (framing : Framing) :
    SessionM (Except ErrorRecord Handle) := do
  let answer ← changeStage fun stage =>
    let (answer, engine) := stage.engine.create address framing
    (answer, { stage with engine })
  play run none (← changeStage (·.takeEngineTurn .createHandle))
  return answer

/-- Answers a closed call with a closed event of the same record. -/
def echo (run : Runner) (handle : Handle) (error : ErrorRecord) : SessionM Unit := do
  if (← getStage).engine.echoesClosed then
    let _ ← run none (.native (.literal handle.raw)
      (.closed error.domain.raw error.code (messageBytes error.message)))

def callEngine (run : Runner) (handle : Handle) (call : EngineCall) : SessionM Unit := do
  updateStage fun stage => { stage with engine := stage.engine.record handle call }
  if let .closed error := call then
    echo run handle error
  let ops ← changeStage (·.takeEngineTurn (.ofCall call))
  match (← get).peer? handle with
  | some peer => Custody.holding peer.entry (play run (some peer) ops)
  | none => play run none ops

def createTarget (run : Runner) (factory : FactoryId) (handle : Handle) :
    SessionM (Except ErrorRecord TargetId) := do
  match (← getStage).factories[factory.index]? with
  | some (.recording _ (some error)) => return .error error
  | some (.recording created none) =>
    let target ← changeStage fun stage =>
      let (target, stage) := stage.addRole ⟨none, { cooperative := true }, []⟩
      (target, { stage with
        factories := stage.factories.setIfInBounds factory.index
          (.recording (created ++ [(handle, target)]) none) })
    return .ok target
  | _ =>
    match ← changeStage (·.takeFactoryAnswer factory) with
    | .accept ops target =>
      play run none ops
      return .ok (← castTarget target)
    | .decline ops error =>
      play run none ops
      return .error error

def host (run : Runner) : Host Stage Act where
  callback := callTarget run
  createHandle := createHandle run
  engine := callEngine run
  createTarget factory handle _ _ := createTarget run factory handle

end TransportBridge.Session
