import TransportBridge.Bridge.Registration

/-!
Contract: the calls that the managed side makes on a connection.

Each is checked against the handle's life first and forwarded to the native
engine second. Nothing is held while the engine is called, so the engine may
deliver events from inside the call.
-/

namespace TransportBridge

/-- A call of the managed side on a connection. -/
inductive SocketCall where
  | opened
  | httpResponse (status : Int) (headers : Bytes)
  | write (data : Bytes)
  | completedReceive (byteCount : Nat)
  | closeRequest (status : Int) (message : String)
  | closed (error : ErrorRecord)
  | retain
  | release
deriving DecidableEq, Repr

namespace Socket

open References Registration

variable {σ μ : Type}

/-- Calls the engine on behalf of a peer's registration. -/
def forwardFor (host : Host σ μ) (peer : Peer) (call : EngineCall) : BridgeM σ μ Unit :=
  forward host (some peer.entry) peer.handle call

/-- Confirms that the managed side is ready. Only the first confirmation is
forwarded. -/
def opened (host : Host σ μ) (peer : Peer) : Call σ μ Unit := do
  if ← checked .own peer Lifecycle.markReady then
    effect (forwardFor host peer .opened)

def gotHttpResponse (host : Host σ μ) (peer : Peer) (status : Int) (headers : Bytes) :
    Call σ μ Unit := do
  checked .own peer Lifecycle.checkHandshake
  effect (forwardFor host peer (.httpResponse status headers))

/-- Writes bytes, as far as the limit on unconfirmed bytes allows. -/
def write (host : Host σ μ) (peer : Peer) (data : Bytes) : Call σ μ Unit := do
  let limit := (← get).config.maxPendingWriteBytes
  checked .own peer (Lifecycle.recordWrite data.length limit)
  effect (forwardFor host peer (.write data))

/-- Acknowledges received bytes. Buffers that are free by it are dropped before
the engine hears of it. -/
def completedReceive (host : Host σ μ) (peer : Peer) (byteCount : Nat) : Call σ μ Unit := do
  let freed ← checked .own peer (Lifecycle.acknowledgeReceive byteCount)
  effect (freed.forM dropBuffer)
  effect (forwardFor host peer (.completedReceive byteCount))

def closeRequested (host : Host σ μ) (peer : Peer) (status : Int) (message : String) :
    Call σ μ Unit := do
  checked .own peer Lifecycle.requestClose
  effect (forwardFor host peer (.closeRequest status message))

/-- Finishes the close. Only the first call before the closed event is
forwarded; any other is ignored and is no error. -/
def closed (host : Host σ μ) (peer : Peer) (error : ErrorRecord) : BridgeM σ μ Unit := do
  if ← change peer.entry Lifecycle.markManagedClosed then
    forwardFor host peer (.closed error)
  else
    note (.repeatedCloseIgnored peer.handle)

/-- Makes a call. Retaining gives the number of references, any other call
nothing. -/
def invoke [Custodian σ] (host : Host σ μ) (peer : Peer) : SocketCall → Call σ μ (Option Nat)
  | .opened => do opened host peer; return none
  | .httpResponse status headers => do gotHttpResponse host peer status headers; return none
  | .write data => do write host peer data; return none
  | .completedReceive byteCount => do completedReceive host peer byteCount; return none
  | .closeRequest status message => do closeRequested host peer status message; return none
  | .closed error => do effect (closed host peer error); return none
  | .retain => return some (← retain .own peer)
  | .release => do release .own peer; return none

end Socket

end TransportBridge
