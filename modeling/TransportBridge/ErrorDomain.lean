import TransportBridge.Text.Inspect

/-!
Contract: where an error comes from, and the codes that the bridge itself
knows.

Numbers agree with the native engine and cross the boundary unchanged. A
domain without a name of its own keeps its number, so `raw` inverts `ofRaw`.
-/

namespace TransportBridge

inductive ErrorDomain where
  | liteCore
  | posix
  | sqlite
  | fleece
  | network
  | webSocket
  | mbedTls
  | other (raw : Int)
deriving DecidableEq, Repr

namespace ErrorDomain

def ofRaw (raw : Int) : ErrorDomain :=
  if raw = 1 then liteCore
  else if raw = 2 then posix
  else if raw = 3 then sqlite
  else if raw = 4 then fleece
  else if raw = 5 then network
  else if raw = 6 then webSocket
  else if raw = 7 then mbedTls
  else other raw

def raw : ErrorDomain → Int
  | liteCore => 1
  | posix => 2
  | sqlite => 3
  | fleece => 4
  | network => 5
  | webSocket => 6
  | mbedTls => 7
  | other raw => raw

def render : ErrorDomain → String
  | liteCore => "LiteCore"
  | posix => "POSIX"
  | sqlite => "SQLite"
  | fleece => "Fleece"
  | network => "Network"
  | webSocket => "WebSocket"
  | mbedTls => "mbedTLS"
  | other raw => Inspect.tuple "Domain" (toString raw)

def inspect : ErrorDomain → String
  | liteCore => "LiteCore"
  | posix => "Posix"
  | sqlite => "Sqlite"
  | fleece => "Fleece"
  | network => "Network"
  | webSocket => "WebSocket"
  | mbedTls => "MbedTls"
  | other raw => Inspect.tuple "Other" (toString raw)

theorem raw_ofRaw (number : Int) : (ofRaw number).raw = number := by
  unfold ofRaw
  repeat' split
  all_goals simp_all [ErrorDomain.raw]

end ErrorDomain

/-! Close codes of the WebSocket protocol and the engine's extensions. -/

namespace CloseCode

def normal : Int := 1000
def goingAway : Int := 1001
def protocolError : Int := 1002
def dataError : Int := 1003
def noCode : Int := 1005
def abnormalClose : Int := 1006
def badMessageFormat : Int := 1007
def policyError : Int := 1008
def messageTooBig : Int := 1009
def missingExtension : Int := 1010
def cannotFulfill : Int := 1011
def tlsFailure : Int := 1015
def userTransient : Int := 4001
def userPermanent : Int := 4002

def all : List Int :=
  [normal, goingAway, protocolError, dataError, noCode, abnormalClose, badMessageFormat,
    policyError, messageTooBig, missingExtension, cannotFulfill, tlsFailure, userTransient,
    userPermanent]

end CloseCode

/-! Codes of the network domain. -/

namespace NetworkCode

def dnsFailure : Int := 1
def unknownHost : Int := 2
def timeout : Int := 3
def invalidUrl : Int := 4
def tooManyRedirects : Int := 5
def tlsHandshakeFailed : Int := 6
def tlsCertExpired : Int := 7
def tlsCertUntrusted : Int := 8
def tlsCertRevoked : Int := 14
def connectionReset : Int := 18
def connectionRefused : Int := 19
def notConnected : Int := 22
def hostUnreachable : Int := 24

def all : List Int :=
  [dnsFailure, unknownHost, timeout, invalidUrl, tooManyRedirects, tlsHandshakeFailed,
    tlsCertExpired, tlsCertUntrusted, tlsCertRevoked, connectionReset, connectionRefused,
    notConnected, hostUnreachable]

end NetworkCode

/-! The open interval of HTTP status codes: both ends are outside it. -/

namespace HttpStatus

def lower : Int := 100
def upper : Int := 600

def contains (code : Int) : Bool :=
  lower < code && code < upper

end HttpStatus

/-- The code of success in the engine's own domain. -/
def successCode : Int := 0

end TransportBridge
