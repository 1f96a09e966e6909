import TransportBridge.Handle
import TransportBridge.SocketEvent
import TransportBridge.SocketState

/-!
Contract: everything that can go wrong in the bridge, as causes.

`Violation` lists the broken invariants, `Refusal` what one handle's lifecycle
answers to a step that it does not take, `BridgeError` what a caller of the
bridge receives. Wording, stable codes and kinds are functions of the cause.
-/

namespace TransportBridge

/-- A broken invariant: a fault of the caller, never passed over in silence. -/
inductive Violation where
  | bufferReadAfterTransfer
  | bufferTransferredTwice
  | targetNotPinned
  | targetPinnedTwice
  | openInState (state : SocketState)
  | beforeOpen (event : EventKind)
  | afterClosed (event : EventKind)
  | completionExceeds (byteCount pending : Nat)
  | closedTwice (state : SocketState)
  | acknowledgementExceeds (byteCount unacknowledged : Nat)
  | retainDisposed
  | retainClosed
  | releaseDisposed
  | releaseUnmatched
  | nativeReleasedTwice
  | nativeReleasedIn (state : SocketState)
  | stated (detail : String)
deriving DecidableEq, Repr

namespace Violation

def message : Violation → String
  | bufferReadAfterTransfer => "native buffer read after ownership transfer"
  | bufferTransferredTwice => "native buffer transferred twice"
  | targetNotPinned => "callback target is not pinned"
  | targetPinnedTwice => "callback target pinned twice"
  | openInState state => "on_open delivered in state " ++ state.render
  | beforeOpen event => event.name ++ " delivered before on_open"
  | afterClosed event => event.name ++ " dispatched after on_closed"
  | completionExceeds byteCount pending =>
    s!"write completion of {byteCount} bytes exceeds {pending} pending bytes"
  | closedTwice state => "on_closed delivered twice (state " ++ state.render ++ ")"
  | acknowledgementExceeds byteCount unacknowledged =>
    s!"completed_receive({byteCount}) exceeds {unacknowledged} unacknowledged bytes"
  | retainDisposed => "retain on a disposed handle"
  | retainClosed => "retain after on_closed was dispatched"
  | releaseDisposed => "release on a disposed handle"
  | releaseUnmatched => "release without a matching retain"
  | nativeReleasedTwice => "native reference released twice"
  | nativeReleasedIn state => "native reference released in state " ++ state.render
  | stated detail => detail

end Violation

/-- Why a managed execution context could not be had. -/
inductive AttachFailure where
  | attachFailed (status : Int)
  | environmentUnavailable (status : Int)
  | pendingFault
deriving DecidableEq, Repr

def AttachFailure.inspect : AttachFailure → String
  | attachFailed status => Inspect.tuple "AttachFailed" (toString status)
  | environmentUnavailable status => Inspect.tuple "EnvironmentUnavailable" (toString status)
  | pendingFault => "PendingFault"

/-- Why message bytes are not text. -/
inductive TranscodingFault where
  | malformed (offset size : Nat)
  | stated (detail : String)
deriving DecidableEq, Repr

def TranscodingFault.message : TranscodingFault → String
  | malformed offset size => s!"invalid byte sequence at offset {offset} of {size}"
  | stated detail => detail

/-- Why settings are not usable. -/
inductive ConfigFault where
  | zeroWriteLimit
  | unreadable
  | stated (detail : String)
deriving DecidableEq, Repr

def ConfigFault.message : ConfigFault → String
  | zeroWriteLimit => "max_pending_write_bytes must be greater than zero"
  | unreadable => "the document does not hold bridge settings"
  | stated detail => detail

inductive ErrorKind where
  | nativeEngine
  | invariantViolation
  | runtimeAttachment
  | transcoding
  | usage
  | config
deriving DecidableEq, Repr

inductive BridgeError where
  | duplicateHandle (handle : Handle)
  | unknownHandle (handle : Handle)
  | invariantViolation (handle : Option Handle) (violation : Violation)
  | runtimeAttachment (operation : String) (failure : AttachFailure)
  | transcoding (fault : TranscodingFault)
  | nativeEngine (error : ErrorRecord)
  | writeBackpressure (handle : Handle) (pending limit : Nat)
  | invalidState (handle : Handle) (state : SocketState) (operation : String)
  | config (fault : ConfigFault)
deriving DecidableEq, Repr

namespace BridgeError

def kind : BridgeError → ErrorKind
  | duplicateHandle _ | invariantViolation _ _ => .invariantViolation
  | unknownHandle _ | writeBackpressure _ _ _ | invalidState _ _ _ => .usage
  | runtimeAttachment _ _ => .runtimeAttachment
  | transcoding _ => .transcoding
  | nativeEngine _ => .nativeEngine
  | config _ => .config

/-- The stable code: `bridge`, the area, the meaning. -/
def code : BridgeError → String
  | duplicateHandle _ => "bridge.registry.duplicate"
  | unknownHandle _ => "bridge.registry.unknown"
  | invariantViolation _ _ => "bridge.lifecycle.invariant"
  | runtimeAttachment _ _ => "bridge.runtime.attach"
  | transcoding _ => "bridge.translate.transcode"
  | nativeEngine _ => "bridge.native.error"
  | writeBackpressure _ _ _ => "bridge.flow.write_backpressure"
  | invalidState _ _ _ => "bridge.lifecycle.invalid_state"
  | config _ => "bridge.config.invalid"

def isInvariantViolation (error : BridgeError) : Bool :=
  error.kind == .invariantViolation

private def handleLabel : Option Handle → String
  | some handle => handle.render
  | none => "<no handle>"

def message : BridgeError → String
  | duplicateHandle handle => "transport handle " ++ handle.render ++ " is already registered"
  | unknownHandle handle => "no transport registered for " ++ handle.render
  | invariantViolation handle violation =>
    "bridge invariant violated for " ++ handleLabel handle ++ ": " ++ violation.message
  | runtimeAttachment operation failure =>
    "runtime attachment failed during `" ++ operation ++ "`: " ++ failure.inspect
  | transcoding fault => "message transcoding failed: " ++ fault.message
  | nativeEngine error => "native engine error: " ++ error.render
  | writeBackpressure handle pending limit =>
    "write backpressure on " ++ handle.render ++ s!": {pending} bytes pending, limit {limit}"
  | invalidState handle state operation =>
    "operation `" ++ operation ++ "` not permitted on " ++ handle.render ++ " in state " ++
      state.render
  | config fault => "invalid bridge configuration: " ++ fault.message

def inspect : BridgeError → String
  | duplicateHandle handle => Inspect.record "DuplicateHandle" [("handle", handle.inspect)]
  | unknownHandle handle => Inspect.record "UnknownHandle" [("handle", handle.inspect)]
  | invariantViolation handle violation =>
    Inspect.record "InvariantViolation" [
      ("handle", Inspect.optional (handle.map Handle.inspect)),
      ("detail", Inspect.text violation.message)]
  | runtimeAttachment operation failure =>
    Inspect.record "RuntimeAttachment" [("operation", Inspect.text operation),
      ("reason", failure.inspect)]
  | transcoding fault => Inspect.record "Transcoding" [("detail", Inspect.text fault.message)]
  | nativeEngine error => Inspect.tuple "NativeEngine" error.inspect
  | writeBackpressure handle pending limit =>
    Inspect.record "WriteBackpressure" [("handle", handle.inspect),
      ("pending", toString pending), ("limit", toString limit)]
  | invalidState handle state operation =>
    Inspect.record "InvalidState" [("handle", handle.inspect), ("state", state.render),
      ("operation", Inspect.text operation)]
  | config fault => Inspect.record "Config" [("detail", Inspect.text fault.message)]

end BridgeError

/-- What a lifecycle answers to a step that it does not take. It does not know
its handle; `toError` adds it. -/
inductive Refusal where
  | violation (cause : Violation)
  | invalidState (state : SocketState) (operation : String)
  | backpressure (pending limit : Nat)
deriving DecidableEq, Repr

def Refusal.toError (handle : Handle) : Refusal → BridgeError
  | violation cause => .invariantViolation (some handle) cause
  | invalidState state operation => .invalidState handle state operation
  | backpressure pending limit => .writeBackpressure handle pending limit

end TransportBridge
