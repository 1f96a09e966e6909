import TransportBridge.ErrorDomain

/-!
Contract: the error record that both sides exchange: a domain, a code and a
message.

Domain and code are what callers branch on and cross the boundary unchanged;
the message is for diagnosis only.
-/

namespace TransportBridge

structure ErrorRecord where
  domain : ErrorDomain
  code : Int
  message : String
deriving DecidableEq, Repr

namespace ErrorRecord

/-- The record of an orderly close. -/
def success : ErrorRecord :=
  ⟨.liteCore, successCode, ""⟩

/-- The record that a close code stands for: a normal close is success, an
HTTP status is a violated policy, and any other code is kept. -/
def ofCloseCode (code : Int) (reason : Option String) : ErrorRecord :=
  if code = CloseCode.normal then success
  else
    { domain := .webSocket
      code := if HttpStatus.contains code then CloseCode.policyError else code
      message := reason.getD "" }

/-- Success is told by domain and code alone; a message does not matter. -/
def isSuccess (record : ErrorRecord) : Bool :=
  record.domain == .liteCore && record.code == successCode

def render (record : ErrorRecord) : String :=
  record.domain.render ++ "/" ++ toString record.code ++ ": " ++ record.message

def inspect (record : ErrorRecord) : String :=
  Inspect.record "ManagedError" [("domain", record.domain.inspect),
    ("code", toString record.code), ("message", Inspect.text record.message)]

end ErrorRecord

end TransportBridge
