import TransportBridge.BridgeError
import TransportBridge.Toml.Reader

/-!
Contract: the bridge's settings, given directly or read from a document.

A setting that is not given has its default; one that is not known is refused.
Reading does not check values beyond their form, `validate` does.
-/

namespace TransportBridge

structure Config where
  /-- Outgoing bytes that one handle may have unconfirmed. -/
  maxPendingWriteBytes : Nat := 1024 * 1024
  /-- The framing of outbound connections that name none. -/
  defaultFraming : Framing := .unframed
  /-- Whether the log tells the size of each event. -/
  logPayloadSizes : Bool := false
deriving DecidableEq, Repr

namespace Config

def validate (config : Config) : Except BridgeError Config :=
  if config.maxPendingWriteBytes = 0 then .error (.config .zeroWriteLimit) else .ok config

/-- A framing is named by a word, or by a table whose one key is the word and
holds nothing. -/
private def framing? : Toml.Value → Option Framing
  | .text name => Framing.ofSettingName? name
  | .table _ [(name, detail)] =>
    if detail.isEmptyCollection then Framing.ofSettingName? name else none
  | _ => none

private def withEntry (config : Config) (entry : String × Toml.Value) : Option Config :=
  if entry.1 = "max_pending_write_bytes" then
    match entry.2 with
    | .integer number =>
      if 0 ≤ number then some { config with maxPendingWriteBytes := number.toNat } else none
    | _ => none
  else if entry.1 = "default_framing" then
    (framing? entry.2).map fun framing => { config with defaultFraming := framing }
  else if entry.1 = "log_payload_sizes" then
    match entry.2 with
    | .boolean value => some { config with logPayloadSizes := value }
    | _ => none
  else none

/-- Reads and checks a settings document. -/
def ofDocument (source : String) : Except BridgeError Config :=
  match (Toml.read? source).bind (·.foldlM withEntry {}) with
  | some config => config.validate
  | none => .error (.config .unreadable)

def inspect (config : Config) : String :=
  Inspect.record "BridgeConfig" [
    ("max_pending_write_bytes", toString config.maxPendingWriteBytes),
    ("default_framing", config.defaultFraming.inspect),
    ("log_payload_sizes", Inspect.bool config.logPayloadSizes)]

end Config

end TransportBridge
