import TransportBridge.BridgeError
import TransportBridge.NativeBuffer

/-!
Contract: one native buffer under a list of operations, with the number of runs
of every hook that was ever attached to it.

Hooks are told apart by the order of attachment. Once the buffer is dropped,
nothing can be done to it.
-/

namespace TransportBridge.Drill

inductive BufferOp where
  | attachHook
  | transfer
  | view
  | size
  | isEmpty
  | isTransferred
  | isBorrowed
  | inspect
  | drop
deriving DecidableEq, Repr

inductive BufferAnswer where
  | done
  | dropped
  | flag (value : Bool)
  | count (value : Nat)
  | bytes (value : Bytes)
  | text (value : String)
  | failed (error : BridgeError)
deriving DecidableEq, Repr

structure BufferDrill where
  /-- None after the drop. -/
  buffer : Option (NativeBuffer Nat)
  /-- The runs of each hook, in the order of attachment. -/
  runs : List Nat := []
deriving DecidableEq, Repr

namespace BufferDrill

def ofBytes : Except Violation Bytes → BufferAnswer
  | .ok data => .bytes data
  | .error violation => .failed (.invariantViolation none violation)

def countRun (runs : List Nat) (hook : Nat) : List Nat :=
  runs.modify hook (· + 1)

def applyTo (drill : BufferDrill) (buffer : NativeBuffer Nat) :
    BufferOp → BufferAnswer × BufferDrill
  | .attachHook =>
    (.done, ⟨some (buffer.withRelease drill.runs.length), drill.runs ++ [0]⟩)
  | .transfer =>
    (ofBytes (buffer.transfer.map (·.1)), { drill with buffer := some buffer.spent })
  | .view => (ofBytes buffer.view, drill)
  | .size => (.count buffer.size, drill)
  | .isEmpty => (.flag buffer.isEmpty, drill)
  | .isTransferred => (.flag buffer.isTransferred, drill)
  | .isBorrowed => (.flag (buffer.ownership = .borrowed), drill)
  | .inspect => (.text buffer.inspect, drill)
  | .drop =>
    (.done, ⟨none, buffer.dropped.foldl countRun drill.runs⟩)

def apply (drill : BufferDrill) (op : BufferOp) : BufferAnswer × BufferDrill :=
  match drill.buffer with
  | some buffer => drill.applyTo buffer op
  | none => (.dropped, drill)

/-- Each operation's answer, with the runs of all hooks after it. -/
def run (drill : BufferDrill) : List BufferOp → List (BufferAnswer × List Nat)
  | [] => []
  | op :: rest =>
    let (answer, next) := drill.apply op
    (answer, next.runs) :: next.run rest

end BufferDrill

end TransportBridge.Drill
