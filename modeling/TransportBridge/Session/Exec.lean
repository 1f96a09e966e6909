import TransportBridge.Session.Host

/-!
Contract: how a session's operations run.

`exec` runs one operation; what it sets off inside the bridge comes back to the
host, which plays the turns that are written for it by running operations in
their turn. The first argument bounds the depth of that nesting. A run that
hits the bound panics, and `Setup.fuel` is a bound that no session reaches:
between two nested turns lie at most two more calls, a reply of a cooperative
target or an echo of the engine.
-/

namespace TransportBridge.Session

open References Registration

/-! ## References -/

def PeerRef.find (self : Option Peer) : PeerRef → SessionM (Option Peer)
  | .self => return self
  | .named name => return (← getStage).peers.find? name

def HandleRef.find (self : Option Peer) : HandleRef → SessionM (Option Handle)
  | .self => return self.map (·.handle)
  | .ofPeer name => return ((← getStage).peers.find? name).map (·.handle)
  | .literal raw => return Handle.ofRaw? raw

/-- The connection whose kept entry a reference names. The running turn has
kept none, so its handle is looked up. -/
def PeerRef.findKept (self : Option Peer) : PeerRef → SessionM (Option Peer)
  | .self => do
    let world ← get
    return self.bind fun peer => world.peer? peer.handle
  | .named name => return (← getStage).peers.find? name

/-- Runs an operation on a connection, which it holds meanwhile. -/
def withPeer (self : Option Peer) (ref : PeerRef) (body : Peer → SessionM Answer) :
    SessionM Answer := do
  match ← ref.find self with
  | some peer => Custody.holding peer.entry (body peer)
  | none => return .noPeer

def withHandle (self : Option Peer) (ref : HandleRef)
    (body : Handle → SessionM Answer) : SessionM Answer := do
  match ← ref.find self with
  | some handle => body handle
  | none => return .noPeer

/-! ## Operations -/

def settle {α : Type} (call : Call Stage Act α) (answer : α → Answer) :
    SessionM Answer := do
  match ← call.run with
  | .ok result => return answer result
  | .error error => return .failed error

/-- Names the connection that a call yields. -/
def settlePeer (name : String) (call : Call Stage Act Peer) : SessionM Answer := do
  match ← call.run with
  | .ok peer =>
    bindPeer name peer
    return .handle peer.handle
  | .error error => return .failed error

def peerState (peer : Peer) : SessionM Answer := do
  let life := (← get).life peer.entry
  return .peerState peer.handle life.state life.pendingWrite life.unackedReceive

def countOrDone : Option Nat → Answer
  | some references => .count references
  | none => .done

def withRecordingFactory
    (body : FactoryId → List (Handle × TargetId) → Option ErrorRecord → SessionM Answer) :
    SessionM Answer := do
  match (← getStage).recordingFactory? with
  | some (factory, created, refusal) => body factory created refusal
  | none => return .noPeer

/-- What a target has recorded. -/
def recordingOf (target : TargetId) : SessionM Recording :=
  return (((← getStage).role? target).map (·.recording)).getD {}

def bindPinned (handle : Handle) (pin : String) (spec : TargetSpec) :
    SessionM Answer := do
  let target ← castTarget spec
  match ← bind? handle target with
  | some _ =>
    bindPin pin target
    return .done
  | none =>
    Custody.letGoOfTarget target
    return .failed (.duplicateHandle handle)

def lookupHandle (handle : Handle) : SessionM Answer := do
  let world ← get
  let registry := world.own.registry
  let targetAlive := ((registry.lookup? handle).bind world.entry?).any fun entry =>
    isAlive world entry.target
  return .lookup (registry.contains handle) targetAlive registry.size

def keep (peer : Peer) (call : KeeperCall) : SessionM Answer := do
  let result ←
    match call with
    | .retain => settle (retain .foreign peer) .count
    | .release => settle (release .foreign peer) fun _ => .done
    | .releaseNative => settle (releaseNative .foreign peer) fun _ => .done
  return .keeper result (← get).foreign.metrics

def controlEngine (self : Option Peer) : EngineOp → SessionM Answer
  | .echo enabled => do
    updateStage fun stage => { stage with engine := { stage.engine with echoesClosed := enabled } }
    return .done
  | .refuseCreate error => do
    updateStage fun stage => { stage with engine := { stage.engine with refusal := some error } }
    return .done
  | .reuse ref => withHandle self ref fun handle => do
    updateStage fun stage => { stage with engine := { stage.engine with reuse := some handle } }
    return .done
  | .allocate =>
    changeStage fun stage =>
      let (handle, engine) := stage.engine.allocate
      (.handle handle, { stage with engine })
  | .calls none => return .calls (← getStage).engine.records.toList
  | .calls (some ref) => withHandle self ref fun handle =>
    return .calls ((← getStage).engine.callsFor handle)
  | .written ref => withHandle self ref fun handle =>
    return .bytes ((← getStage).engine.written handle)
  | .closedCount ref => withHandle self ref fun handle =>
    return .count ((← getStage).engine.closedCount handle)

def inspectEntry (world : World Stage Act) (handle : Handle) (entry : EntryId) : String :=
  Inspect.openRecord "HandleEntry" [("handle", handle.inspect),
    ("lifecycle", (world.life entry).inspect handle)]

def inspectPeer (world : World Stage Act) (peer : Peer) : String :=
  Inspect.record "SocketPeer" [("handle", peer.handle.inspect),
    ("state", (world.life peer.entry).state.render)]

def inspectSubject (self : Option Peer) : Subject → SessionM Answer
  | .bridge => do
    let world ← get
    return .text (Inspect.openRecord "TransportManager"
      [("registered", toString world.own.registry.size), ("config", world.config.inspect)])
  | .dispatcher => do
    return .text (Inspect.record "CallbackDispatcher"
      [("registered", toString (← get).own.registry.size)])
  | .config => return .text (← get).config.inspect
  | .metrics => return .text (← get).own.metrics.inspect
  | .entry ref => withPeer self ref fun _ => do
    let kept ← ref.findKept self
    let world ← get
    return .text (Inspect.optional (kept.map fun peer =>
      inspectEntry world peer.handle peer.entry))
  | .peer ref => withPeer self ref fun peer => do
    return .text (inspectPeer (← get) peer)

/-- Runs operations one by one and stops each one's panic. -/
def runEach (run : Runner) (ops : List Op) : SessionM (List Answer) :=
  ops.mapM fun op => do
    match ← catchPanic (run none op) with
    | .ok answer => return answer
    | .error panic => return .panicked panic

def onNewThread (run : Runner) (ops : List Op) : SessionM Answer := do
  let thread := (← get).thread
  let count ← changeStage fun stage =>
    (stage.threadCount + 1, { stage with threadCount := stage.threadCount + 1 })
  modify fun world => { world with thread := ⟨count⟩ }
  let answers ← runEach run ops
  modify fun world => { world with thread }
  return .each answers

/-- Runs an operation a number of times and gives the last answer. -/
def runAgain (body : SessionM Answer) : Nat → Answer → SessionM Answer
  | 0, last => return last
  | times + 1, _ => do runAgain body times (← body)

def perform (run : Runner) (self : Option Peer) : Op → SessionM Answer
  | .openOutbound name address framing spec => do
    let target ← castTarget spec
    settlePeer name (openOutbound (host run) address framing target)
  | .adoptInbound ref name spec => withHandle self ref fun handle => do
    let target ← castTarget spec
    settlePeer name (adoptInbound handle target)
  | .findPeer ref name => withHandle self ref fun handle => do
    match (← get).peer? handle with
    | some peer =>
      bindPeer name peer
      return .handle handle
    | none => return .absent
  | .native ref event => withHandle self ref fun handle =>
    settle (Delivery.dispatch (host run) handle event) fun _ => .done
  | .socket ref call => withPeer self ref fun peer =>
    settle (Socket.invoke (host run) peer call) countOrDone
  | .peerState ref => withPeer self ref peerState
  | .setFactory answers => do
    let _ ← install (.scripted answers)
    return .done
  | .setRecordingFactory => do
    installRecordingFactory
    return .done
  | .refuseFactory error => withRecordingFactory fun factory created _ => do
    updateStage fun stage => { stage with
      factories := stage.factories.setIfInBounds factory.index (.recording created (some error)) }
    return .done
  | .factoryCreated => withRecordingFactory fun _ created _ =>
    return .created (← created.mapM fun (handle, target) =>
      return (handle, ← recordingOf target))
  | .factoryTarget ref => withHandle self ref fun handle =>
    withRecordingFactory fun _ created _ =>
      match created.lookup handle with
      | some target => return .recording (← recordingOf target)
      | none => return .absent
  | .bindPinned ref pin spec => withHandle self ref fun handle => bindPinned handle pin spec
  | .dropPin pin => return .flag (← dropPin pin)
  | .unbind ref => withHandle self ref fun handle =>
    return .flag (← unregister .own handle)
  | .lookup ref => withHandle self ref lookupHandle
  | .keeper ref call => do
    match ← ref.findKept self with
    | some peer => Custody.holding peer.entry (keep peer call)
    | none => return .noPeer
  | .engine op => controlEngine self op
  | .recording name => do
    match (← getStage).recording? name with
    | some (_, recording) => return .recording recording
    | none => return .noPeer
  | .poke name ref event => do
    match (← getStage).recording? name with
    | none => return .noPeer
    | some (target, _) => withRecording target <| withPeer self ref fun peer => do
      tellTarget run peer target event
      return .done
  | .inspect subject => inspectSubject self subject
  | .panic message => throw (.text message)
  | .thread ops => onNewThread run ops
  | .again times body => runAgain (run self body) times .absent
  | .runtime control => do
    modify fun world => { world with runtime := world.runtime.control world.thread control }
    return .done

/-- Runs an operation with a bound on the depth of nested operations. -/
def exec : Nat → Runner
  | 0 => fun _ _ => throw .exhausted
  | depth + 1 => perform (exec depth)

end TransportBridge.Session
