import TransportBridge.Bridge.References

/-!
Contract: the three ways in which a handle comes to have a callback target.

An outbound connection asks the engine for a handle; an inbound one is adopted
with a target at hand, or with one from the factory on its open request. All
three bind the handle first and pin the target second, in two separate steps.
-/

namespace TransportBridge.Registration

open References

variable {σ μ : Type}

/-- Binds a free handle to a new entry, which does not hold its target yet. -/
def bind? (handle : Handle) (target : TargetId) : BridgeM σ μ (Option Peer) := fun world =>
  let id : EntryId := ⟨world.entries.size⟩
  match world.own.registry.insert? handle id with
  | none => (.ok none, world)
  | some registry =>
    (.ok (some ⟨id, handle⟩), { world with
      own := { world.own with registry }
      entries := world.entries.push ⟨handle, target, {}⟩ })

/-- The error record that a native handle is closed with when it cannot be
registered. -/
def unregisteredRecord (error : BridgeError) : ErrorRecord :=
  { domain := .webSocket
    code := CloseCode.cannotFulfill
    message := "transport could not be registered: " ++ error.message }

/-- Calls the engine for a handle, on behalf of a registration or of none. -/
def forward (host : Host σ μ) (source : Option EntryId) (handle : Handle) (call : EngineCall) :
    BridgeM σ μ Unit := do
  witness (.engineCalled source handle call)
  host.engine handle call

/-- Asks the engine for a handle. -/
def askEngine (host : Host σ μ) (address : Address) (framing : Framing) :
    BridgeM σ μ (Except ErrorRecord Handle) := do
  witness (.engineAsked address framing)
  host.createHandle address framing

/-- Counts and notes an event for a handle that nobody knows. -/
def dropUnknown {α : Type} (handle : Handle) (event : EventKind) : Call σ μ α := do
  effect do
    count .own Metrics.countDropped
    note (.unknownHandle handle event)
  throw (.unknownHandle handle)

/-- The peer of a bound handle; an event for any other handle is dropped. -/
def lookup (handle : Handle) (event : EventKind) : Call σ μ Peer := do
  match (← get).peer? handle with
  | some peer => return peer
  | none => dropUnknown handle event

variable [Custodian σ]

/-- Binds a handle and pins its target. A target that cannot be registered is
let go before that is reported. -/
def register (handle : Handle) (target : TargetId) : Call σ μ Peer := do
  match ← effect (bind? handle target) with
  | none =>
    effect (Custody.letGoOfTarget target)
    reject .own (.duplicateHandle handle)
  | some peer =>
    checked .own peer (Lifecycle.adoptPin target)
    effect do
      count .own Metrics.countRegistered
      note (.registered handle)
    return peer

/-- Opens an outbound connection. The target is held while the engine is asked.
A native handle that cannot be registered is closed, as the engine has allocated
it. -/
def openOutbound (host : Host σ μ) (address : Address) (framing : Option Framing)
    (target : TargetId) : Call σ μ Peer := do
  let framing := framing.getD (← get).config.defaultFraming
  match ← effect (Custody.lendingTarget target (askEngine host address framing)) with
  | .error error =>
    effect do
      note (.outboundRefused address error)
      Custody.letGoOfTarget target
    throw (.nativeEngine error)
  | .ok handle =>
    effect (note (.outboundCreated handle address framing))
    match ← effect (register handle target).run with
    | .ok peer => return peer
    | .error error =>
      effect do
        note (.outboundUnregistered handle error)
        forward host none handle (.closed (unregisteredRecord error))
      throw error

/-- Registers a handle that the native side has allocated. -/
def adoptInbound (handle : Handle) (target : TargetId) : Call σ μ Peer :=
  register handle target

/-- Registers a handle with a target of the factory's making. -/
def adoptFromFactory (host : Host σ μ) (handle : Handle) (address : Address)
    (options : Bytes) : Call σ μ Peer := do
  match (← get).factory with
  | none => dropUnknown handle .openRequest
  | some factory =>
    effect (witness (.factoryAsked factory handle address options))
    match ← effect (host.createTarget factory handle address options) with
    | .ok target => register handle target
    | .error error =>
      effect do
        count .own Metrics.countDropped
        note (.inboundDeclined handle error)
      throw (.nativeEngine error)

end TransportBridge.Registration
