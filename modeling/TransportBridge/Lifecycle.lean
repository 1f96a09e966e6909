import TransportBridge.Identity
import TransportBridge.NativeBuffer

/-!
Contract: the life of one registered handle, as a machine of atomic steps.

Owns: the state, the references of both sides, the readiness rendezvous, the
flow accounts of both directions, the queue of unacknowledged receives and the
pin on the callback target.

Does not own: the handle's identity, the order in which steps are taken, and
the effects that follow from them. Each step is one critical section: nothing
happens between its first check and its last change. A step that is refused
yields a `Refusal` and no new lifecycle, so a refused step changes nothing.
-/

namespace TransportBridge

/-- Bytes of one receive that are still unacknowledged, with the borrowed
buffer that they keep from being freed. -/
structure PendingReceive where
  remaining : Nat
  buffer : Option (NativeBuffer Hook)
deriving DecidableEq, Repr

structure Lifecycle where
  state : SocketState := .created
  /-- The reference of the native side, held from the start until `on_closed`
  is over. -/
  nativeRef : Bool := true
  managedRefs : Nat := 0
  /-- The `on_open` callback has returned. -/
  openDispatched : Bool := false
  /-- The managed side has confirmed that it is ready. -/
  managedReady : Bool := false
  /-- The managed side has finished its close. -/
  managedClosed : Bool := false
  /-- The managed side has asked for a close. -/
  managedCloseRequested : Bool := false
  /-- Bytes written and not yet confirmed. -/
  pendingWrite : Nat := 0
  /-- Bytes received and not yet acknowledged. -/
  unackedReceive : Nat := 0
  /-- Unacknowledged receives, oldest first. -/
  receives : List PendingReceive := []
  pin : Option TargetId := none
deriving DecidableEq, Repr

/-- What is left to do when the last reference is gone. It is produced once,
by the step that disposes of the lifecycle. -/
structure Teardown where
  pin : Option TargetId
  buffers : List (NativeBuffer Hook)
deriving DecidableEq, Repr

namespace Lifecycle

/-- The outcome of a step: a refusal, or a result with the next lifecycle. -/
abbrev Step (α : Type) := Except Refusal (α × Lifecycle)

def violated {α : Type} (violation : Violation) : Step α :=
  .error (.violation violation)

def retainCount (life : Lifecycle) : Nat :=
  (if life.nativeRef then 1 else 0) + life.managedRefs

/-- Takes hold of the callback target for the rest of the lifecycle. -/
def adoptPin (target : TargetId) (life : Lifecycle) : Step Unit :=
  if life.pin.isSome then violated .targetPinnedTwice
  else .ok ((), { life with pin := some target })

/-! ## Events from the native side -/

def pinnedTarget (life : Lifecycle) : Except Refusal TargetId :=
  match life.pin with
  | some target => .ok target
  | none => .error (.violation .targetNotPinned)

/-- The target of a stream event, which is accepted from the open request on
and until the closed event. -/
def streamTarget (event : EventKind) (life : Lifecycle) : Except Refusal TargetId :=
  if life.state.acceptsStreamEvents then life.pinnedTarget
  else if life.state = .created then .error (.violation (.beforeOpen event))
  else .error (.violation (.afterClosed event))

def beginOpen (life : Lifecycle) : Step TargetId :=
  if life.state ≠ .created then violated (.openInState life.state)
  else life.pinnedTarget.map fun target => (target, { life with state := .opening })

/-- Notes that the `on_open` callback has returned, and tells whether the
connection is open by that: the managed side was ready before. -/
def finishOpen (life : Lifecycle) : Bool × Lifecycle :=
  if life.state = .opening ∧ life.managedReady then
    (true, { life with openDispatched := true, state := .opened })
  else (false, { life with openDispatched := true })

/-- Takes back an open request that was not delivered. -/
def abortOpen (life : Lifecycle) : Lifecycle :=
  if life.state = .opening ∧ ¬ life.openDispatched then { life with state := .created } else life

/-- Confirms written bytes, at most those that are unconfirmed. -/
def acceptWriteCompleted (byteCount : Nat) (life : Lifecycle) : Step TargetId :=
  match life.streamTarget .writeCompleted with
  | .error refusal => .error refusal
  | .ok target =>
    if life.pendingWrite < byteCount then
      violated (.completionExceeds byteCount life.pendingWrite)
    else .ok (target, { life with pendingWrite := life.pendingWrite - byteCount })

/-- Enters received bytes into the account. A borrowed buffer stays with them
until they are acknowledged or the lifecycle is torn down. -/
def acceptReceived (byteCount : Nat) (retained : Option (NativeBuffer Hook))
    (life : Lifecycle) : Step TargetId :=
  (life.streamTarget .received).map fun target => (target, { life with
    unackedReceive := life.unackedReceive + byteCount
    receives := life.receives ++ [⟨byteCount, retained⟩] })

/-- Takes back the newest receive if it is untouched, and gives back its
buffer. -/
def abortReceived (byteCount : Nat) (life : Lifecycle) :
    Option (NativeBuffer Hook) × Lifecycle :=
  match life.receives.getLast? with
  | some newest =>
    if newest.remaining = byteCount then
      (newest.buffer, { life with
        unackedReceive := life.unackedReceive - byteCount
        receives := life.receives.dropLast })
    else (none, life)
  | none => (none, life)

/-- Gives the state before it, for `abortCloseRequest`. -/
def acceptCloseRequest (life : Lifecycle) : Step (TargetId × SocketState) :=
  (life.streamTarget .closeRequest).map fun target =>
    ((target, life.state), { life with state := .closePending })

/-- Takes back a close request that was not delivered, unless the managed side
has begun to close by itself. -/
def abortCloseRequest (before : SocketState) (life : Lifecycle) : Lifecycle :=
  if life.state = .closePending ∧ ¬ life.managedClosed ∧ ¬ life.managedCloseRequested then
    { life with state := before }
  else life

/-- Gives the state before it, for `abortClose`. -/
def beginClose (life : Lifecycle) : Step (TargetId × SocketState) :=
  if life.state.isClosed then violated (.closedTwice life.state)
  else
    life.pinnedTarget.map fun target => ((target, life.state), { life with state := .closed })

/-- Takes back a close that was not delivered. -/
def abortClose (before : SocketState) (life : Lifecycle) : Lifecycle :=
  if life.state = .closed ∧ life.nativeRef then { life with state := before } else life

/-! ## Calls from the managed side -/

def misplaced {α : Type} (life : Lifecycle) (operation : String) : Step α :=
  .error (.invalidState life.state operation)

/-- Confirms readiness and tells whether the native side is still to hear of
it. The connection is open once the `on_open` callback has returned, too. -/
def markReady (life : Lifecycle) : Step Bool :=
  match life.state with
  | .opening =>
    if life.managedReady then .ok (false, life)
    else .ok (true, { life with
      managedReady := true
      state := if life.openDispatched then .opened else .opening })
  | .opened => .ok (false, life)
  | _ => life.misplaced "opened"

def checkHandshake (life : Lifecycle) : Step Unit :=
  if life.state = .opening ∨ life.state = .opened then .ok ((), life)
  else life.misplaced "got_http_response"

/-- Enters written bytes into the account. The limit does not bind a write
while nothing is unconfirmed, so no frame is too large for ever. -/
def recordWrite (byteCount limit : Nat) (life : Lifecycle) : Step Unit :=
  if ¬ life.state.acceptsStreamEvents then life.misplaced "write"
  else if 0 < life.pendingWrite ∧ limit < life.pendingWrite + byteCount then
    .error (.backpressure life.pendingWrite limit)
  else .ok ((), { life with pendingWrite := life.pendingWrite + byteCount })

/-- Takes bytes off the oldest receives. Receives that are used up leave the
queue, empty ones with them, and their buffers come back in arrival order. -/
def consume : Nat → List PendingReceive → List (NativeBuffer Hook) × List PendingReceive
  | _, [] => ([], [])
  | byteCount, oldest :: rest =>
    if byteCount < oldest.remaining then
      ([], { oldest with remaining := oldest.remaining - byteCount } :: rest)
    else
      let (freed, left) := consume (byteCount - oldest.remaining) rest
      (oldest.buffer.toList ++ freed, left)

/-- Acknowledges received bytes, at most those that are unacknowledged, and
gives back the buffers that no unacknowledged byte needs. -/
def acknowledgeReceive (byteCount : Nat) (life : Lifecycle) : Step (List (NativeBuffer Hook)) :=
  if life.state.isClosed then life.misplaced "completed_receive"
  else if life.unackedReceive < byteCount then
    violated (.acknowledgementExceeds byteCount life.unackedReceive)
  else
    let (freed, left) := consume byteCount life.receives
    .ok (freed, { life with
      unackedReceive := life.unackedReceive - byteCount
      receives := left })

def requestClose (life : Lifecycle) : Step Unit :=
  if life.state.isClosed then life.misplaced "close_requested"
  else .ok ((), { life with managedCloseRequested := true, state := .closePending })

/-- Finishes the managed side's close and tells whether the native side is to
hear of it: once, and not after its own closed event. -/
def markManagedClosed (life : Lifecycle) : Bool × Lifecycle :=
  if life.managedClosed ∨ life.state.isClosed then (false, life)
  else (true, { life with managedClosed := true, state := .closePending })

/-! ## References -/

/-- Disposes of a closed lifecycle that nobody refers to. -/
def tryTeardown (life : Lifecycle) : Option Teardown × Lifecycle :=
  if life.retainCount ≠ 0 ∨ life.state ≠ .closed then (none, life)
  else
    (some ⟨life.pin, life.receives.filterMap (·.buffer)⟩, { life with
      state := .disposed
      pendingWrite := 0
      unackedReceive := 0
      receives := []
      pin := none })

/-- Adds a managed reference and gives the number of all references. -/
def retain (life : Lifecycle) : Step Nat :=
  match life.state with
  | .disposed => violated .retainDisposed
  | .closed => violated .retainClosed
  | _ =>
    let next := { life with managedRefs := life.managedRefs + 1 }
    .ok (next.retainCount, next)

def release (life : Lifecycle) : Step (Option Teardown) :=
  if life.state = .disposed then violated .releaseDisposed
  else if life.managedRefs = 0 then violated .releaseUnmatched
  else .ok { life with managedRefs := life.managedRefs - 1 }.tryTeardown

/-- Gives up the native side's reference, which only a closed lifecycle may. -/
def releaseNative (life : Lifecycle) : Step (Option Teardown) :=
  if ¬ life.nativeRef then violated .nativeReleasedTwice
  else if life.state ≠ .closed then violated (.nativeReleasedIn life.state)
  else .ok { life with nativeRef := false }.tryTeardown

/-- Gives up the borrowed buffers, in arrival order, and the pin. Nobody has a
lifecycle any more that is abandoned. -/
def abandon (life : Lifecycle) : (List (NativeBuffer Hook) × Option TargetId) × Lifecycle :=
  ((life.receives.filterMap (·.buffer), life.pin),
    { life with unackedReceive := 0, receives := [], pin := none })

def inspect (handle : Handle) (life : Lifecycle) : String :=
  Inspect.record "HandleLifecycle" [("handle", handle.inspect), ("state", life.state.render),
    ("retain_count", toString life.retainCount)]

end Lifecycle

end TransportBridge
