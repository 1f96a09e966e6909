import TransportBridge.Conformance.Case

/-!
Contract: the cases on error records and messages that cross the boundary.
-/

namespace TransportBridge.Conformance

open Session

private def demandClosedWith (target : TargetId) (wanted : ErrorRecord → Bool) :
    SessionM Unit := do
  demand ((← recordingOf target).closedError?.any wanted) "the record of the closed event"

private def verbatimRecord : SessionM Unit := do
  let ⟨peer, target⟩ ← openUsual true
  accepted (← deliver peer.handle (.closed ErrorDomain.network.raw NetworkCode.connectionRefused
    (messageBytes "connection refused")))
  demandClosedWith target
    (· = ⟨.network, NetworkCode.connectionRefused, "connection refused"⟩)
  let ⟨other, otherTarget⟩ ← openUsual true
  accepted (← deliver other.handle (.closed 42 (-7) []))
  demandClosedWith otherTarget fun error => error.domain = .other 42 ∧ error.code = -7

private def hasPlaceholder : SocketEvent → Bool
  | .closeRequest status message =>
    status = CloseCode.protocolError ∧ message = undecodablePlaceholder
  | _ => false

private def undecodableMessages : SessionM Unit := do
  let ⟨peer, target⟩ ← openUsual true
  accepted (← deliver peer.handle (.closeRequest CloseCode.protocolError [0xff, 0xfe]))
  accepted (← deliver peer.handle (.closed 6 CloseCode.protocolError [0xc3, 0x28]))
  demand ((← recordingOf target).events[1]?.any hasPlaceholder) "a close request in words"
  demandClosedWith target fun error =>
    error.code = CloseCode.protocolError ∧ error.message = undecodablePlaceholder

private def httpCloseCodes : SessionM Unit := do
  let ⟨peer, _⟩ ← openUsual true
  let headers := messageBytes "Content-Length: 0\r\n"
  let _ ← accepted (← call peer (.httpResponse 403 headers))
  let _ ← accepted (← call peer (.closed (.ofCloseCode 403 (some "forbidden"))))
  let calls := (← getStage).engine.callsFor peer.handle
  demand (calls.contains (.called peer.handle (.httpResponse 403 headers)))
    "the handshake response"
  let forwarded : EngineRecord :=
    .called peer.handle (.closed ⟨.webSocket, CloseCode.policyError, "forbidden"⟩)
  demand (calls.contains forwarded) "a close for a violated policy"

private def isUnknownHost : BridgeError → Bool
  | .nativeEngine error => error.domain = .network ∧ error.code = NetworkCode.unknownHost
  | _ => false

private def refusedOutbound : SessionM Unit := do
  (Preparation.refuse ⟨.network, NetworkCode.unknownHost, "unknown host"⟩).perform
  let (outcome, _) ← requestOutbound syncAddress (plainTarget false)
  demandError outcome isUnknownHost "the engine's refusal"
  demand (← get).own.registry.isEmpty "an empty registry"

def messageSuite : Suite where
  name := "translation"
  cases := [
    { name := "native_error_triple_reaches_target_verbatim", body := verbatimRecord },
    { name := "undecodable_messages_use_placeholder", body := undecodableMessages },
    { name := "http_close_codes_are_forwarded_as_policy_errors", body := httpCloseCodes },
    { name := "refused_outbound_surfaces_native_error", body := refusedOutbound }]

end TransportBridge.Conformance
