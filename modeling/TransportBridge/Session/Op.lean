import TransportBridge.Bridge.Delivery
import TransportBridge.Bridge.Socket

/-!
Contract: the operations that a session is written in.

A session is a list of operations. Targets, the engine and factories carry
operations, too: each call of a target's callback, of the engine or of a
factory plays the next turn that is written for it, so that an operation may
run inside another to any depth. `weight` bounds how many can: it counts the
turns of everything that an operation can bring on stage.
-/

namespace TransportBridge.Session

/-- A connection in a script: the one that the running turn belongs to, or one
with a name. -/
inductive PeerRef where
  | self
  | named (name : String)
deriving DecidableEq, Repr

inductive HandleRef where
  | self
  | ofPeer (name : String)
  | literal (raw : UInt64)
deriving DecidableEq, Repr

/-- The calls of the engine that can have turns. -/
inductive EngineCue where
  | createHandle
  | opened
  | httpResponse
  | write
  | completedReceive
  | closeRequest
  | closed
deriving DecidableEq, Repr

def EngineCue.ofCall : EngineCall → EngineCue
  | .opened => opened
  | .httpResponse _ _ => httpResponse
  | .write _ => write
  | .completedReceive _ => completedReceive
  | .closeRequest _ _ => closeRequest
  | .closed _ => closed

inductive EngineOp where
  | echo (enabled : Bool)
  | refuseCreate (error : ErrorRecord)
  | reuse (handle : HandleRef)
  | allocate
  | calls (handle : Option HandleRef)
  | written (handle : HandleRef)
  | closedCount (handle : HandleRef)
deriving DecidableEq, Repr

/-- A call of a keeper who shares the entries of the bridge, but neither its
registry nor its counters. -/
inductive KeeperCall where
  | retain
  | release
  | releaseNative
deriving DecidableEq, Repr

inductive Subject where
  | bridge
  | dispatcher
  | config
  | metrics
  | entry (peer : PeerRef)
  | peer (peer : PeerRef)
deriving DecidableEq, Repr

mutual

inductive Op where
  | openOutbound (name : String) (address : Address) (framing : Option Framing)
      (target : TargetSpec)
  | adoptInbound (handle : HandleRef) (name : String) (target : TargetSpec)
  | findPeer (handle : HandleRef) (name : String)
  | native (handle : HandleRef) (event : NativeEvent)
  | socket (peer : PeerRef) (call : SocketCall)
  | peerState (peer : PeerRef)
  | setFactory (answers : List FactoryAnswer)
  | setRecordingFactory
  | refuseFactory (error : ErrorRecord)
  | factoryCreated
  | factoryTarget (handle : HandleRef)
  /-- Binds a handle behind the bridge's back; the pin is kept by its name. -/
  | bindPinned (handle : HandleRef) (pin : String) (target : TargetSpec)
  | dropPin (pin : String)
  | unbind (handle : HandleRef)
  | lookup (handle : HandleRef)
  | keeper (peer : PeerRef) (call : KeeperCall)
  | engine (op : EngineOp)
  | recording (target : String)
  /-- Tells a target of an event past the bridge. -/
  | poke (target : String) (peer : PeerRef) (event : SocketEvent)
  | inspect (subject : Subject)
  | panic (message : String)
  /-- Runs operations one by one on a thread of their own. -/
  | thread (ops : List Op)
  | again (times : Nat) (body : Op)
  | runtime (control : RuntimeControl)

inductive TargetSpec where
  | mk (name : String) (cooperative : Bool) (turns : List Turn)

/-- What a target does on one call of a callback. -/
inductive Turn where
  | mk (event : EventKind) (ops : List Op)

/-- What a factory does when it is asked. -/
inductive FactoryAnswer where
  | accept (ops : List Op) (target : TargetSpec)
  | decline (ops : List Op) (error : ErrorRecord)

end

/-- What the engine does on one call. -/
structure EngineTurn where
  cue : EngineCue
  ops : List Op

mutual

def Op.weight : Op → Nat
  | .openOutbound _ _ _ target => 1 + target.weight
  | .adoptInbound _ _ target => 1 + target.weight
  | .bindPinned _ _ target => 1 + target.weight
  | .setFactory answers => 1 + FactoryAnswer.totalWeight answers
  | .thread ops => 1 + Op.totalWeight ops
  | .again times body => 1 + times * body.weight
  | _ => 1

def Op.totalWeight : List Op → Nat
  | [] => 0
  | op :: rest => op.weight + Op.totalWeight rest

def TargetSpec.weight : TargetSpec → Nat
  | .mk _ _ turns => Turn.totalWeight turns

def Turn.weight : Turn → Nat
  | .mk _ ops => 1 + Op.totalWeight ops

def Turn.totalWeight : List Turn → Nat
  | [] => 0
  | turn :: rest => turn.weight + Turn.totalWeight rest

def FactoryAnswer.weight : FactoryAnswer → Nat
  | .accept ops target => 1 + Op.totalWeight ops + target.weight
  | .decline ops _ => 1 + Op.totalWeight ops

def FactoryAnswer.totalWeight : List FactoryAnswer → Nat
  | [] => 0
  | answer :: rest => answer.weight + FactoryAnswer.totalWeight rest

end

def EngineTurn.weight (turn : EngineTurn) : Nat :=
  1 + Op.totalWeight turn.ops

def EngineTurn.totalWeight : List EngineTurn → Nat
  | [] => 0
  | turn :: rest => turn.weight + EngineTurn.totalWeight rest

end TransportBridge.Session
