import TransportBridge.Bridge.Socket

/-!
Contract: a callback target that records its events and checks their order.

The order is: the open request once and first, the closed event last. An event
out of order is recorded like any other and leaves a violation; the first rule
that it breaks names it. A cooperative target answers: it confirms an open
request, and acknowledges what it receives.
-/

namespace TransportBridge

/-- How an event breaks the order. -/
inductive OrderViolation where
  | afterClosed (event : EventKind)
  | openedTwice
  | beforeOpen (event : EventKind)
deriving DecidableEq, Repr

def OrderViolation.message : OrderViolation → String
  | afterClosed event => event.name ++ " delivered after on_closed"
  | openedTwice => "on_open delivered twice"
  | beforeOpen event => event.name ++ " delivered before on_open"

structure Recording where
  cooperative : Bool := false
  events : Array SocketEvent := #[]
  violations : Array OrderViolation := #[]
  /-- The connection of the last event; none after a closed event. -/
  peer : Option Peer := none

namespace Recording

def saw (recording : Recording) (kind : EventKind) : Bool :=
  recording.events.any (·.kind = kind)

/-- The rule that an event breaks when it comes next. -/
def violation? (recording : Recording) (event : EventKind) : Option OrderViolation :=
  if recording.saw .closed then some (.afterClosed event)
  else
    match event with
    | .openRequest => if recording.saw .openRequest then some .openedTwice else none
    | .closed => none
    | _ => if recording.saw .openRequest then none else some (.beforeOpen event)

def record (recording : Recording) (peer : Peer) (event : SocketEvent) : Recording :=
  { recording with
    events := recording.events.push event
    violations := recording.violations ++ (recording.violation? event.kind).toArray
    peer := if event.kind = .closed then none else some peer }

/-- What a cooperative target does on an event. -/
def reply? (recording : Recording) : SocketEvent → Option SocketCall
  | .openRequest _ _ => if recording.cooperative then some .opened else none
  | .received data =>
    if recording.cooperative then some (.completedReceive data.length) else none
  | _ => none

def eventNames (recording : Recording) : List String :=
  recording.events.toList.map SocketEvent.name

/-- All received bytes, in order. -/
def received (recording : Recording) : Bytes :=
  recording.events.toList.flatMap fun
    | .received data => data
    | _ => []

/-- The error record of the first closed event. -/
def closedError? (recording : Recording) : Option ErrorRecord :=
  recording.events.toList.findSome? fun
    | .closed error => some error
    | _ => none

def isClosed (recording : Recording) : Bool :=
  recording.closedError?.isSome

end Recording

end TransportBridge
