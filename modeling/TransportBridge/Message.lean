import TransportBridge.Notice

/-!
Contract: native message bytes as managed text, and native error triples as
error records.

Decoding is exact or fails. Translating never fails: a message that is not
text gives way to a fixed placeholder and one log record, while domain and
code are kept as they are.
-/

namespace TransportBridge

/-- Stands in for message bytes that are not text. -/
def undecodablePlaceholder : String := "<undecodable native message>"

/-- The text's bytes as the native side receives them. -/
def messageBytes (message : String) : Bytes :=
  Utf8.encode message.toList

def decodeMessage (bytes : Bytes) : Except BridgeError String :=
  match Utf8.decode bytes with
  | .ok characters => .ok (String.ofList characters)
  | .error offset => .error (.transcoding (.malformed offset bytes.length))

/-- Text of the message, and the log record that a placeholder leaves. -/
def decodeOrPlaceholder (bytes : Bytes) : String × Option Notice :=
  match decodeMessage bytes with
  | .ok text => (text, none)
  | .error error => (undecodablePlaceholder, some (.placeholderUsed error))

def translate (domain code : Int) (message : Bytes) : ErrorRecord × Option Notice :=
  let (text, notice) := decodeOrPlaceholder message
  (⟨.ofRaw domain, code, text⟩, notice)

end TransportBridge
