import TransportBridge.Bridge.World

/-!
Contract: a native engine that opens no sockets and records what it is told.

Handles are handed out like heap addresses, at a fixed distance. One request
can be refused, and one can be answered with a given handle, as an engine does
that uses an address again. With the echo on, a closed call is answered by a
closed event from inside that call.
-/

namespace TransportBridge

/-- One call that the engine has received. A request is recorded with the
handle that it was answered with; a refused one is not recorded. -/
inductive EngineRecord where
  | created (handle : Handle) (address : Address) (framing : Framing)
  | called (handle : Handle) (call : EngineCall)
deriving DecidableEq, Repr

def EngineRecord.handle : EngineRecord → Handle
  | created handle _ _ => handle
  | called handle _ => handle

namespace RecordingEngine

theorem firstRaw_ne_zero : (0x1000 : UInt64) ≠ 0 := by decide

/-- The handle that is handed out first. -/
def firstHandle : Handle :=
  ⟨0x1000, firstRaw_ne_zero⟩

end RecordingEngine

structure RecordingEngine where
  /-- The handle that is handed out next. -/
  next : Handle := RecordingEngine.firstHandle
  records : Array EngineRecord := #[]
  echoesClosed : Bool := false
  refusal : Option ErrorRecord := none
  reuse : Option Handle := none

namespace RecordingEngine

/-- Hands out a handle. After the last address the first one comes again. -/
def allocate (engine : RecordingEngine) : Handle × RecordingEngine :=
  (engine.next, { engine with
    next := (Handle.ofRaw? (engine.next.raw + 0x10)).getD firstHandle })

/-- Answers a request. An ordered refusal comes before an ordered handle, and
each order holds once. -/
def create (engine : RecordingEngine) (address : Address) (framing : Framing) :
    Except ErrorRecord Handle × RecordingEngine :=
  match engine.refusal with
  | some error => (.error error, { engine with refusal := none })
  | none =>
    let (handle, engine) :=
      match engine.reuse with
      | some handle => (handle, { engine with reuse := none })
      | none => engine.allocate
    (.ok handle, { engine with
      records := engine.records.push (.created handle address framing) })

def record (engine : RecordingEngine) (handle : Handle) (call : EngineCall) : RecordingEngine :=
  { engine with records := engine.records.push (.called handle call) }

def callsFor (engine : RecordingEngine) (handle : Handle) : List EngineRecord :=
  engine.records.toList.filter (·.handle = handle)

/-- All bytes written to a handle, in order. -/
def written (engine : RecordingEngine) (handle : Handle) : Bytes :=
  engine.records.toList.flatMap fun
    | .called owner (.write data) => if owner = handle then data else []
    | _ => []

def closedCount (engine : RecordingEngine) (handle : Handle) : Nat :=
  engine.records.toList.countP fun
    | .called owner (.closed _) => owner = handle
    | _ => false

end RecordingEngine

end TransportBridge
