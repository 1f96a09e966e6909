import TransportBridge.Conformance.Case

/-!
Contract: the cases on a handle's life: references, teardown, events after the
end, unknown handles, back pressure, acknowledgement and closing.
-/

namespace TransportBridge.Conformance

open Session

private def success : NativeEvent :=
  .closed ErrorDomain.liteCore.raw successCode []

private def fullSession : SessionM Unit := do
  let ⟨peer, target⟩ ← openUsual true
  let handle := peer.handle
  demandState peer .opened
  let _ ← accepted (← call peer (.write (messageBytes "hello")))
  demand (((← get).life peer.entry).pendingWrite = 5) "five bytes pending"
  accepted (← deliver handle (.writeCompleted 5))
  demand (((← get).life peer.entry).pendingWrite = 0) "no bytes pending"
  accepted (← deliver handle (.received (.transferable (messageBytes "world"))))
  demand ((← recordingOf target).received = messageBytes "world") "received bytes"
  demand (((← get).life peer.entry).unackedReceive = 0) "all bytes acknowledged"
  accepted (← deliver handle (.closeRequest CloseCode.normal (messageBytes "bye")))
  demandState peer .closePending
  let _ ← accepted (← call peer (.closed (.ofCloseCode CloseCode.normal (some "bye"))))
  accepted (← deliver handle success)
  demandState peer .disposed
  demandBound handle false
  demandMetrics (fun m => m.registered = 1 ∧ m.disposed = 1 ∧ m.invariantViolations = 0)
    "one registration, one disposal, no violation"
  demandEvents target [.openRequest, .writeCompleted, .received, .closeRequest, .closed]
  demand ((← recordingOf target).closedError?.any ErrorRecord.isSuccess) "an orderly close"
  let engine := (← getStage).engine
  demand ((engine.callsFor handle).length = 5) "five calls of the engine"
  demand (engine.written handle = messageBytes "hello") "written bytes"
  demand (engine.closedCount handle = 1) "one closed call"

private def lateReferences : SessionM Unit := do
  let ⟨peer, _⟩ ← openUsual true
  demand ((← accepted (← call peer .retain)) = some 2) "two references"
  accepted (← deliver peer.handle
    (.closed ErrorDomain.webSocket.raw 1001 (messageBytes "going away")))
  demandState peer .closed
  demandBound peer.handle true
  demandInvariant (← call peer .retain) "retain after the closed event"
  let _ ← accepted (← call peer .release)
  demandState peer .disposed
  demandInvariant (← call peer .release) "release after the disposal"
  demandMetrics (fun m => m.disposed = 1 ∧ m.invariantViolations = 2)
    "one disposal, two violations"

private def eventsAfterClosed : SessionM Unit := do
  let ⟨peer, target⟩ ← openUsual true
  let handle := peer.handle
  let _ ← accepted (← call peer .retain)
  accepted (← deliver handle
    (.closed ErrorDomain.network.raw NetworkCode.connectionReset (messageBytes "reset")))
  demandInvariant (← deliver handle (.received (.transferable [1, 2, 3])))
    "received bytes after the closed event"
  demandInvariant (← deliver handle (.closed 5 18 (messageBytes "again"))) "a second closed event"
  let _ ← accepted (← call peer .release)
  demandError (← deliver handle (.writeCompleted 1)) (· = .unknownHandle handle)
    "a disposed handle is unknown"
  demandEvents target [.openRequest, .closed]

private def unknownHandles : SessionM Unit := do
  let stray ← allocateHandle
  let buffer : NativeBuffer Hook := .borrowed (List.replicate 16 0)
  demandError (← deliver stray (.received (buffer.withRelease "stray"))) (·.kind = .usage)
    "bytes for an unknown handle"
  demandReleased "stray" 1
  demandError (← deliver stray (.openRequest syncAddress (.transferable [])))
    (· = .unknownHandle stray) "an open request without a factory"
  demandMetrics (·.dropped = 2) "two dropped events"

private def perform (op : Op) : SessionM Answer :=
  runner none op

private def inboundOpen : SessionM Unit := do
  let _ ← perform .setRecordingFactory
  let inbound ← allocateHandle
  accepted (← deliver inbound (.openRequest syncAddress (.transferable (messageBytes "opts"))))
  match (← getStage).recordingFactory?.bind fun (_, created, _) => created.lookup inbound with
  | none => demand false "a target made by the factory"
  | some target => demandEvents target [.openRequest]
  match (← get).peer? inbound with
  | none => demand false "a registered handle"
  | some peer => demandState peer .opened
  let _ ← perform (.refuseFactory ⟨.network, NetworkCode.connectionRefused, "busy"⟩)
  let refused ← allocateHandle
  demandError (← deliver refused (.openRequest syncAddress (.transferable [])))
    (·.kind = .nativeEngine) "a request that the factory declines"
  demandBound refused false

private def writeBackpressure : SessionM Unit := do
  let ⟨peer, _⟩ ← openUsual true
  let handle := peer.handle
  let _ ← accepted (← call peer (.write (messageBytes "abcdef")))
  demandError (← call peer (.write (messageBytes "ghij"))) (· = .writeBackpressure handle 6 8)
    "back pressure"
  demand ((← getStage).engine.written handle = messageBytes "abcdef") "written bytes"
  accepted (← deliver handle (.writeCompleted 6))
  let _ ← accepted (← call peer (.write (messageBytes "ghij")))
  demandInvariant (← deliver handle (.writeCompleted 10)) "completion of unwritten bytes"

private def borrowedBytes (size : Nat) (hook : Hook) : NativeEvent :=
  .received ((NativeBuffer.borrowed (List.replicate size 7)).withRelease hook)

private def boundedAcknowledgement : SessionM Unit := do
  let ⟨peer, target⟩ ← openUsual false
  let handle := peer.handle
  accepted (← deliver handle (borrowedBytes 10 "first"))
  demand ((← recordingOf target).received = List.replicate 10 7) "received bytes"
  demand (((← get).life peer.entry).unackedReceive = 10) "ten unacknowledged bytes"
  demandReleased "first" 0
  demandInvariant (← call peer (.completedReceive 11)) "acknowledgement of unreceived bytes"
  let _ ← accepted (← call peer (.completedReceive 10))
  demandReleased "first" 1
  accepted (← deliver handle (borrowedBytes 4 "second"))
  accepted (← deliver handle (.closed 6 1006 []))
  demandState peer .disposed
  demandReleased "second" 1

private def closedOnce : SessionM Unit := do
  let ⟨peer, _⟩ ← openUsual true
  let handle := peer.handle
  let close : SocketCall := .closed (.ofCloseCode CloseCode.goingAway (some "shutdown"))
  let _ ← accepted (← call peer close)
  let _ ← accepted (← call peer close)
  demand ((← closedCount handle) = 1) "one closed call"
  let _ ← accepted (← call peer .retain)
  let _ ← perform (.engine (.echo true))
  accepted (← deliver handle (.closed 6 CloseCode.goingAway (messageBytes "shutdown")))
  let _ ← accepted (← call peer close)
  demand ((← closedCount handle) = 1) "still one closed call"
  let _ ← accepted (← call peer .release)
  demandMetrics (·.disposed = 1) "one disposal"

private def collidingOutbound : SessionM Unit := do
  let ⟨peer, target⟩ ← openUsual true
  let handle := peer.handle
  (Preparation.reuse handle).perform
  let (outcome, _) ← requestOutbound syncAddress (plainTarget false)
  demandError outcome (· = .duplicateHandle handle) "a handle in use"
  demand ((← closedCount handle) = 1) "one closed call"
  match ((← getStage).engine.callsFor handle).getLast? with
  | some (.called _ (.closed error)) =>
    demand (error.domain = .webSocket) "the domain of the close"
    demand (error.code = CloseCode.cannotFulfill) "the code of the close"
  | _ => demand false "a closed call at the end"
  demandState peer .opened
  demand ((← get).own.registry.size = 1) "one registration"
  demandEvents target [.openRequest]

def lifecycleSuite : Suite where
  name := "lifecycle"
  cases := [
    { name := "full_session_disposes_exactly_once", body := fullSession },
    { name := "late_retain_and_release_after_dispose_are_rejected", body := lateReferences },
    { name := "events_on_closed_handles_are_never_delivered", body := eventsAfterClosed },
    { name := "unknown_handles_drop_events", body := unknownHandles },
    { name := "inbound_open_consults_socket_factory", body := inboundOpen },
    { name := "write_backpressure_limits_pending_bytes"
      config := { maxPendingWriteBytes := 8 }
      body := writeBackpressure },
    { name := "receive_acknowledgement_is_bounded", body := boundedAcknowledgement },
    { name := "managed_close_is_forwarded_once", body := closedOnce },
    { name := "unregistered_outbound_handle_is_closed", body := collidingOutbound }]

end TransportBridge.Conformance
