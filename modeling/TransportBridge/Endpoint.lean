import TransportBridge.Text.Inspect

/-!
Contract: where a connection goes and how its bytes are framed.
-/

namespace TransportBridge

/-- The target of a connection. The parts are kept as given; nothing is
normalized. -/
structure Address where
  scheme : String
  host : String
  port : Nat
  path : String
deriving DecidableEq, Repr

namespace Address

def render (address : Address) : String :=
  address.scheme ++ "://" ++ address.host ++ ":" ++ toString address.port ++ address.path

def inspect (address : Address) : String :=
  Inspect.record "Address" [("scheme", Inspect.text address.scheme),
    ("host", Inspect.text address.host), ("port", toString address.port),
    ("path", Inspect.text address.path)]

end Address

/-- Who frames the messages: the engine as a WebSocket client (masked), nobody,
or the engine as a WebSocket server (unmasked). -/
inductive Framing where
  | webSocketClient
  | unframed
  | webSocketServer
deriving DecidableEq, Repr

namespace Framing

/-- The number that crosses the native boundary. -/
def raw : Framing → Int
  | webSocketClient => 0
  | unframed => 1
  | webSocketServer => 2

def ofRaw? (raw : Int) : Option Framing :=
  if raw = 0 then some webSocketClient
  else if raw = 1 then some unframed
  else if raw = 2 then some webSocketServer
  else none

def inspect : Framing → String
  | webSocketClient => "WebSocketClient"
  | unframed => "None"
  | webSocketServer => "WebSocketServer"

/-- The word for a framing in a settings document. -/
def settingName : Framing → String
  | webSocketClient => "web_socket_client"
  | unframed => "none"
  | webSocketServer => "web_socket_server"

def ofSettingName? (name : String) : Option Framing :=
  [webSocketClient, unframed, webSocketServer].find? (·.settingName = name)

theorem ofRaw?_raw (framing : Framing) : ofRaw? framing.raw = some framing := by
  cases framing <;> rfl

end Framing

end TransportBridge
