import TransportBridge.Conformance.Case

/-!
Contract: the cases on execution contexts: threads are attached for a callback
and no longer, events without a context are dropped and can be delivered again,
and panics leave nothing attached.
-/

namespace TransportBridge.Conformance

open Session

private def counted (attaches detaches : Nat) (view : RuntimeView) : Bool :=
  view.attachCount = attaches ∧ view.detachCount = detaches

private def detachedThread : SessionM Unit := do
  let ⟨peer, _⟩ ← openUsual true
  demandAttached (counted 1 1) "one attachment, one detachment"
  accepted (← deliver peer.handle (.received (.transferable (List.replicate 3 1))))
  demandAttached (counted 2 2) "two attachments, two detachments"
  demandAttached (! ·.attached) "a detached thread"

private def attachedThread : SessionM Unit := do
  control .attachThread
  let ⟨peer, _⟩ ← openUsual true
  accepted (← deliver peer.handle (.closeRequest 1000 []))
  demandAttached (counted 0 0) "no attachment, no detachment"
  demandAttached (·.attached) "an attached thread"

private def attachFailure : SessionM Unit := do
  let ⟨peer, target⟩ ← openUsual false
  let handle := peer.handle
  control (.failNextAttach (-3))
  demandError (← deliver handle (.received (.transferable (List.replicate 8 5))))
    (· = .runtimeAttachment "on_received" (.attachFailed (-3))) "a failed attachment"
  demandEvents target [.openRequest]
  demandState peer .opening
  demand (((← get).life peer.entry).unackedReceive = 0) "no unacknowledged bytes"
  accepted (← deliver handle (.received (.transferable (List.replicate 2 6))))
  demand ((← recordingOf target).received = List.replicate 2 6) "received bytes"
  demandMetrics (fun m => m.attachFailures = 1 ∧ m.dropped = 1) "one failure, one dropped event"

private def isPendingFault : BridgeError → Bool
  | .runtimeAttachment _ .pendingFault => true
  | _ => false

private def pendingFault : SessionM Unit := do
  let ⟨peer, target⟩ ← openUsual true
  let _ ← accepted (← call peer (.write (messageBytes "abc")))
  control .injectFault
  demandError (← deliver peer.handle (.writeCompleted 3)) isPendingFault "a pending fault"
  demandEvents target [.openRequest]
  demandAttached (counted 2 2) "detached again"

private def isAttachError (error : BridgeError) : Bool :=
  error.code = "bridge.runtime.attach"

private def closedRedelivery : SessionM Unit := do
  let ⟨peer, target⟩ ← openUsual true
  let handle := peer.handle
  let reset : NativeEvent := .closed 5 18 (messageBytes "reset")
  control (.failNextAttach (-1))
  demandError (← deliver handle reset) isAttachError "a failed attachment"
  demandState peer .opened
  demandBound handle true
  demand (! (← recordingOf target).isClosed) "no closed event"
  accepted (← deliver handle reset)
  demandState peer .disposed
  demandMetrics (·.disposed = 1) "one disposal"

private def detachFailure : SessionM Unit := do
  let ⟨peer, target⟩ ← openUsual true
  control (.failDetach true)
  accepted (← deliver peer.handle (.received (.transferable (messageBytes "ok"))))
  demand ((← recordingOf target).received = messageBytes "ok") "received bytes"

/-- A target that confirms its open request and panics on one event. -/
private def panickingTarget (event : EventKind) (message : String) : TargetSpec :=
  .mk "" false [.mk .openRequest [.socket .self .opened], .mk event [.panic message]]

private def demandPanic (body : SessionM (Except BridgeError Unit)) : SessionM Unit := do
  match ← catchPanic body with
  | .ok _ => demand false "a panic that reaches the caller"
  | .error _ => return ()

private def balanced (view : RuntimeView) : Bool :=
  view.attachCount = view.detachCount

private def panickingCallback : SessionM Unit := do
  let ⟨peer, _⟩ ← openConnection syncAddress
    (panickingTarget .received "managed callback failed")
  demandPanic (deliver peer.handle (.received (.transferable [0])))
  demandAttached balanced "as many detachments as attachments"
  demandAttached (! ·.attached) "a detached thread"

private def panickingClosed : SessionM Unit := do
  let ⟨peer, _⟩ ← openConnection syncAddress
    (panickingTarget .closed "managed close handler failed")
  let handle := peer.handle
  demandPanic (deliver handle (.closed 1 0 []))
  demandState peer .disposed
  demandBound handle false
  demandMetrics (·.disposed = 1) "one disposal"
  demandAttached balanced "as many detachments as attachments"
  demandError (← deliver handle (.closed 1 0 [])) (· = .unknownHandle handle)
    "a disposed handle is unknown"

private def closeRequestFailure : SessionM Unit := do
  let ⟨peer, target⟩ ← openUsual false
  let handle := peer.handle
  let request : NativeEvent := .closeRequest 1001 (messageBytes "going away")
  demandState peer .opening
  control (.failNextAttach (-3))
  demandError (← deliver handle request) isAttachError "a failed attachment"
  demandState peer .opening
  demandEvents target [.openRequest]
  let _ ← accepted (← call peer .opened)
  demandState peer .opened
  accepted (← deliver handle request)
  demandState peer .closePending
  demandEvents target [.openRequest, .closeRequest]

def attachmentSuite : Suite where
  name := "attachment"
  cases := [
    { name := "detached_native_thread_attaches_per_callback", body := detachedThread },
    { name := "host_attached_thread_stays_attached", body := attachedThread },
    { name := "attach_failure_drops_event_and_keeps_handle", body := attachFailure },
    { name := "pending_fault_skips_callback", body := pendingFault },
    { name := "on_closed_attach_failure_allows_redelivery", body := closedRedelivery },
    { name := "detach_failure_still_delivers", body := detachFailure },
    { name := "panicking_callback_still_detaches", body := panickingCallback },
    { name := "panicking_on_closed_still_disposes", body := panickingClosed },
    { name := "close_request_attach_failure_keeps_handshake_open"
      body := closeRequestFailure }]

end TransportBridge.Conformance
