import TransportBridge.Bridge.Attachment
import TransportBridge.Bridge.Registration
import TransportBridge.Message

/-!
Contract: the five entry points of the native side.

Each finds the handle's entry, has the lifecycle accept the event, and calls
the target in a managed execution context. An event that is not accepted is
not delivered. Where no context can be had, the event is dropped, and what its
acceptance has changed is taken back, a write completion excepted.

An entry point holds the registration that it has found to its end, and the
target while it is called.
-/

namespace TransportBridge

/-- What the native side reports about a handle, before anything is decoded. -/
inductive NativeEvent where
  | openRequest (address : Address) (options : NativeBuffer Hook)
  | writeCompleted (byteCount : Nat)
  | received (data : NativeBuffer Hook)
  | closeRequest (status : Int) (message : Bytes)
  | closed (domain code : Int) (message : Bytes)
deriving DecidableEq, Repr

namespace Delivery

open References Registration

variable {σ μ α : Type}

/-- Calls the target's callback. -/
def invoke (host : Host σ μ) (peer : Peer) (target : TargetId) (event : SocketEvent) :
    BridgeM σ μ Unit := do
  witness (.callback peer target event (← get).attached?)
  host.callback peer target event

def undoing (peer : Peer) (step : Lifecycle → Lifecycle) : BridgeM σ μ Unit :=
  change peer.entry fun life => ((), step life)

/-- Drops a buffer after `body`, however `body` ends. -/
def thenDropping (buffer : NativeBuffer Hook) (body : Call σ μ α) : Call σ μ α :=
  body.ensuring (dropBuffer buffer)

def dropIfAny (buffer : Option (NativeBuffer Hook)) : BridgeM σ μ Unit :=
  buffer.forM dropBuffer

def noteIfAny (notice : Option Notice) : BridgeM σ μ Unit :=
  notice.forM note

/-- Accepts received bytes. A borrowed buffer goes into the account with them;
if they are refused, it is dropped before the refusal is reported. -/
def enterReceived (peer : Peer) (byteCount : Nat)
    (retained : Option (NativeBuffer Hook)) : Call σ μ TargetId := do
  match ← effect (attempt peer.entry (Lifecycle.acceptReceived byteCount retained)) with
  | .ok target => return target
  | .error refusal =>
    effect (dropIfAny retained)
    reject .own (refusal.toError peer.handle)

variable [Custodian σ]

/-- Delivers an accepted event. It is counted as dispatched when the callback
has returned, and as dropped when there was no context to call it in. -/
def deliver (host : Host σ μ) (peer : Peer) (target : TargetId) (event : SocketEvent) :
    Call σ μ Unit := do
  let size := if (← get).config.logPayloadSizes then some event.payloadSize else none
  effect (note (.dispatching peer.handle event.kind size))
  let context := Attachment.withAttachedContext event.name fun _ =>
    invoke host peer target event
  match ← effect (Custody.holdingTarget target context) with
  | .ok () => effect (count .own Metrics.countDispatched)
  | .error error =>
    effect do
      count .own Metrics.countDropped
      note (.eventDropped peer.handle event.kind error)
    throw error

/-- Delivers an event; if that fails, `undo` takes its acceptance back. -/
def deliverOr (host : Host σ μ) (peer : Peer) (target : TargetId) (event : SocketEvent)
    (undo : BridgeM σ μ Unit) : Call σ μ Unit := do
  match ← effect (deliver host peer target event).run with
  | .ok () => return ()
  | .error error =>
    effect undo
    throw error

/-- The open request of a handle. A handle that is not bound is offered to the
factory. The options are taken over before anything else happens, and dropped
after everything else. -/
def onOpen (host : Host σ μ) (handle : Handle) (address : Address)
    (options : NativeBuffer Hook) : Call σ μ Unit :=
  match options.transfer with
  | .error violation =>
    thenDropping options (reject .own (.invariantViolation none violation))
  | .ok (bytes, spent) =>
    thenDropping spent do
      let peer ←
        match (← get).peer? handle with
        | some peer => pure peer
        | none => adoptFromFactory host handle address bytes
      Call.holding peer.entry do
        let target ← checked .own peer Lifecycle.beginOpen
        deliverOr host peer target (.openRequest address bytes)
          (undoing peer Lifecycle.abortOpen)
        if ← effect (change peer.entry Lifecycle.finishOpen) then
          effect (note (.opened handle))

/-- Bytes written earlier have left. -/
def onWriteCompleted (host : Host σ μ) (handle : Handle) (byteCount : Nat) :
    Call σ μ Unit := do
  let peer ← lookup handle .writeCompleted
  Call.holding peer.entry do
    let target ← checked .own peer (Lifecycle.acceptWriteCompleted byteCount)
    deliver host peer target (.writeCompleted byteCount)

/-- Bytes have come in. A transferable buffer is taken over; a borrowed one is
read, and kept until its bytes are acknowledged. -/
def onReceived (host : Host σ μ) (handle : Handle) (data : NativeBuffer Hook) :
    Call σ μ Unit := do
  match ← effect (lookup handle .received).run with
  | .error error => thenDropping data (throw error)
  | .ok peer =>
    Call.holding peer.entry do
      match data.transfer with
      | .error violation =>
        thenDropping data (reject .own (.invariantViolation none violation))
      | .ok (bytes, spent) =>
        let retained :=
          match spent.ownership with
          | .borrowed => some spent
          | .transferable => none
        let target ← enterReceived peer data.size retained
        deliverOr host peer target (.received bytes) do
          dropIfAny (← change peer.entry (Lifecycle.abortReceived data.size))

/-- The other end, or the native side itself, asks for a close. -/
def onCloseRequest (host : Host σ μ) (handle : Handle) (status : Int) (message : Bytes) :
    Call σ μ Unit := do
  let peer ← lookup handle .closeRequest
  Call.holding peer.entry do
    let (target, before) ← checked .own peer Lifecycle.acceptCloseRequest
    let (text, notice) := decodeOrPlaceholder message
    effect (noteIfAny notice)
    deliverOr host peer target (.closeRequest status text)
      (undoing peer (Lifecycle.abortCloseRequest before))

/-- Gives the native reference up after a callback that has panicked. -/
def releaseAfterPanic (peer : Peer) : BridgeM σ μ Unit := do
  note (.closedCallbackPanicked peer.handle)
  let _ ← (releaseNative .own peer).run

/-- The end of the connection. The native reference is given up once the
callback is over, also when it panics; if the event was not delivered, it is
kept for the next attempt. -/
def onClosed (host : Host σ μ) (handle : Handle) (domain code : Int) (message : Bytes) :
    Call σ μ Unit := do
  let peer ← lookup handle .closed
  Call.holding peer.entry do
    let (error, notice) := translate domain code message
    effect (noteIfAny notice)
    let (target, before) ← checked .own peer Lifecycle.beginClose
    let delivered := (deliver host peer target (.closed error)).run
    match ← effect (onPanic delivered (releaseAfterPanic peer)) with
    | .ok () => releaseNative .own peer
    | .error error =>
      effect (undoing peer (Lifecycle.abortClose before))
      throw error

/-- The entry point of an event. -/
def dispatch (host : Host σ μ) (handle : Handle) : NativeEvent → Call σ μ Unit
  | .openRequest address options => onOpen host handle address options
  | .writeCompleted byteCount => onWriteCompleted host handle byteCount
  | .received data => onReceived host handle data
  | .closeRequest status message => onCloseRequest host handle status message
  | .closed domain code message => onClosed host handle domain code message

end Delivery

end TransportBridge
