/-!
Contract: the states of a handle and the steps between them.

A handle advances `created → opening → opened → closePending → closed →
disposed`. From every state before `closed` a close may be requested or
delivered at once; `disposed` is left by nobody.
-/

namespace TransportBridge

inductive SocketState where
  | created
  | opening
  | opened
  | closePending
  | closed
  | disposed
deriving DecidableEq, Repr

namespace SocketState

def all : List SocketState :=
  [created, opening, opened, closePending, closed, disposed]

def canMoveTo : SocketState → SocketState → Bool
  | created, opening | created, closePending | created, closed => true
  | opening, opened | opening, closePending | opening, closed => true
  | opened, closePending | opened, closed => true
  | closePending, closePending | closePending, closed => true
  | closed, disposed => true
  | _, _ => false

def isTerminal (state : SocketState) : Bool :=
  state == disposed

/-- The final event has been delivered. -/
def isClosed : SocketState → Bool
  | closed | disposed => true
  | _ => false

/-- Write completions, received bytes and close requests may be delivered. -/
def acceptsStreamEvents : SocketState → Bool
  | opening | opened | closePending => true
  | _ => false

/-- Takes the step if it is allowed, and stays otherwise. -/
def moveIfAllowed (state next : SocketState) : SocketState :=
  if state.canMoveTo next then next else state

/-- The states after each attempted step. -/
def walk (state : SocketState) : List SocketState → List SocketState
  | [] => []
  | next :: rest =>
    let moved := state.moveIfAllowed next
    moved :: walk moved rest

def render : SocketState → String
  | created => "Created"
  | opening => "Opening"
  | opened => "Open"
  | closePending => "ClosePending"
  | closed => "Closed"
  | disposed => "Disposed"

end SocketState

end TransportBridge
