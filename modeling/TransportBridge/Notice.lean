import TransportBridge.BridgeError

/-!
Contract: the records that the bridge writes to the host's log.

A record is told by its cause; level, wording and fields follow from it.
-/

namespace TransportBridge

inductive Level where
  | error
  | warn
  | debug
deriving DecidableEq, Repr

def Level.render : Level → String
  | error => "ERROR"
  | warn => "WARN"
  | debug => "DEBUG"

/-- The target that all bridge records carry. -/
def logTarget : String := "c4_bridge::network"

inductive FieldValue where
  | number (value : Int)
  | text (value : String)
deriving DecidableEq, Repr

inductive Notice where
  | invariantViolated (error : BridgeError)
  | callRejected (error : BridgeError)
  | teardownUnregistered (handle : Handle)
  | disposed (handle : Handle) (freedBuffers : Nat)
  | registered (handle : Handle)
  | outboundRefused (address : Address) (error : ErrorRecord)
  | outboundCreated (handle : Handle) (address : Address) (framing : Framing)
  | outboundUnregistered (handle : Handle) (error : BridgeError)
  | inboundDeclined (handle : Handle) (error : ErrorRecord)
  | unknownHandle (handle : Handle) (event : EventKind)
  | dispatching (handle : Handle) (event : EventKind) (bytes : Option Nat)
  | eventDropped (handle : Handle) (event : EventKind) (error : BridgeError)
  | opened (handle : Handle)
  | closedCallbackPanicked (handle : Handle)
  | repeatedCloseIgnored (handle : Handle)
  | contextUnavailable (operation : String) (failure : AttachFailure)
  | faultPending (operation : String)
  | detachFailed (operation : String) (status : Int)
  | placeholderUsed (error : BridgeError)
deriving DecidableEq, Repr

namespace Notice

def level : Notice → Level
  | invariantViolated _ | teardownUnregistered _ | faultPending _ => .error
  | outboundRefused _ _ | outboundUnregistered _ _ | inboundDeclined _ _ | unknownHandle _ _
  | eventDropped _ _ _ | closedCallbackPanicked _ | contextUnavailable _ _ | detachFailed _ _
  | placeholderUsed _ => .warn
  | callRejected _ | disposed _ _ | registered _ | outboundCreated _ _ _ | dispatching _ _ _
  | opened _ | repeatedCloseIgnored _ => .debug

def message : Notice → String
  | invariantViolated _ => "bridge invariant violated"
  | callRejected _ => "bridge call rejected"
  | teardownUnregistered _ => "teardown found no registry entry"
  | disposed _ _ => "transport disposed"
  | registered _ => "transport registered"
  | outboundRefused _ _ => "native engine refused outbound transport"
  | outboundCreated _ _ _ => "outbound transport created"
  | outboundUnregistered _ _ => "outbound transport not registered; closing native handle"
  | inboundDeclined _ _ => "socket factory declined inbound transport"
  | unknownHandle _ _ => "event dropped: unknown transport handle"
  | dispatching _ _ _ => "dispatching transport event"
  | eventDropped _ _ _ => "event dropped"
  | opened _ => "transport open"
  | closedCallbackPanicked _ => "on_closed callback panicked; releasing native reference"
  | repeatedCloseIgnored _ => "repeated close ignored"
  | contextUnavailable _ _ => "managed runtime context unavailable"
  | faultPending _ => "managed runtime has a pending fault; callback skipped"
  | detachFailed _ _ => "failed to detach thread from managed runtime"
  | placeholderUsed _ => "native message replaced by placeholder"

private def handleField (handle : Handle) : String × FieldValue :=
  ("handle", .text handle.render)

private def eventField (event : EventKind) : String × FieldValue :=
  ("event", .text event.name)

private def codeField (error : BridgeError) : String × FieldValue :=
  ("code", .text error.code)

private def causeFields (error : BridgeError) : List (String × FieldValue) :=
  [codeField error, ("error", .text error.message)]

private def recordField (error : ErrorRecord) : String × FieldValue :=
  ("error", .text error.render)

private def operationField (operation : String) : String × FieldValue :=
  ("operation", .text operation)

def fields : Notice → List (String × FieldValue)
  | invariantViolated error | callRejected error | placeholderUsed error => causeFields error
  | teardownUnregistered handle | registered handle | opened handle
  | closedCallbackPanicked handle | repeatedCloseIgnored handle => [handleField handle]
  | disposed handle freedBuffers =>
    [handleField handle, ("freed_buffers", .number freedBuffers)]
  | outboundRefused address error => [("address", .text address.render), recordField error]
  | outboundCreated handle address framing =>
    [handleField handle, ("address", .text address.render), ("framing", .number framing.raw)]
  | outboundUnregistered handle error => [handleField handle, codeField error]
  | inboundDeclined handle error => [handleField handle, recordField error]
  | unknownHandle handle event => [handleField handle, eventField event]
  | dispatching handle event bytes =>
    [handleField handle, eventField event] ++
      (bytes.map fun count => ("bytes", FieldValue.number count)).toList
  | eventDropped handle event error => [handleField handle, eventField event, codeField error]
  | contextUnavailable operation failure =>
    [operationField operation, ("reason", .text failure.inspect)]
  | faultPending operation => [operationField operation]
  | detachFailed operation status => [operationField operation, ("status", .number status)]

end Notice

end TransportBridge
