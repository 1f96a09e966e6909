import TransportBridge.Endpoint
import TransportBridge.ErrorRecord
import TransportBridge.Text.Utf8

/-!
Contract: the five events that the native engine delivers to a managed target.

For one handle their order is: the open request first, then any number of
stream events (write completions, received bytes, close requests), and the
closed event last.
-/

namespace TransportBridge

inductive EventKind where
  | openRequest
  | writeCompleted
  | received
  | closeRequest
  | closed
deriving DecidableEq, Repr

namespace EventKind

def all : List EventKind :=
  [openRequest, writeCompleted, received, closeRequest, closed]

/-- The name used in diagnostics and as the label of the runtime attachment. -/
def name : EventKind → String
  | openRequest => "on_open"
  | writeCompleted => "on_write_completed"
  | received => "on_received"
  | closeRequest => "on_close_requested"
  | closed => "on_closed"

def ofName? (name : String) : Option EventKind :=
  all.find? (·.name = name)

end EventKind

inductive SocketEvent where
  | openRequest (address : Address) (options : Bytes)
  | writeCompleted (byteCount : Nat)
  | received (data : Bytes)
  | closeRequest (status : Int) (message : String)
  | closed (error : ErrorRecord)
deriving DecidableEq, Repr

namespace SocketEvent

def kind : SocketEvent → EventKind
  | openRequest _ _ => .openRequest
  | writeCompleted _ => .writeCompleted
  | received _ => .received
  | closeRequest _ _ => .closeRequest
  | closed _ => .closed

def name (event : SocketEvent) : String :=
  event.kind.name

/-- Bytes that the event carries or reports; text counts in its encoded size. -/
def payloadSize : SocketEvent → Nat
  | openRequest _ options => options.length
  | writeCompleted byteCount => byteCount
  | received data => data.length
  | closeRequest _ message => message.utf8ByteSize
  | closed error => error.message.utf8ByteSize

def inspect : SocketEvent → String
  | openRequest address options =>
    Inspect.record "Open" [("address", address.inspect), ("options", Inspect.bytes options)]
  | writeCompleted byteCount =>
    Inspect.record "WriteCompleted" [("byte_count", toString byteCount)]
  | received data => Inspect.record "Received" [("data", Inspect.bytes data)]
  | closeRequest status message =>
    Inspect.record "CloseRequested" [("status", toString status),
      ("message", Inspect.text message)]
  | closed error => Inspect.record "Closed" [("error", error.inspect)]

end SocketEvent

end TransportBridge
