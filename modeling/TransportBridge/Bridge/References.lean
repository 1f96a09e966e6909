import TransportBridge.Bridge.Custody

/-!
Contract: references of the managed side, and the end of a registration.

Owns: how a rejected call is reported, retaining and releasing, and the
teardown that the last release sets off. Teardown frees the handle, lets go of
the target, drops the buffers that nobody acknowledged, and is counted.

Does not own: when the last reference is gone; the lifecycle decides that.
-/

namespace TransportBridge.References

variable {σ μ α : Type}

/-- Notes a rejected call. Broken invariants are errors and are counted. -/
def report (book : Book) (error : BridgeError) : BridgeM σ μ BridgeError := do
  if error.isInvariantViolation then
    count book Metrics.countViolation
    note (.invariantViolated error)
  else
    note (.callRejected error)
  return error

/-- Rejects a call after reporting it. -/
def reject (book : Book) (error : BridgeError) : Call σ μ α := do
  throw (← effect (report book error))

/-- Runs a step of a peer's lifecycle; a refusal rejects the call. -/
def checked (book : Book) (peer : Peer) (step : Lifecycle → Lifecycle.Step α) :
    Call σ μ α := do
  match ← effect (attempt peer.entry step) with
  | .ok result => return result
  | .error refusal => reject book (refusal.toError peer.handle)

/-- Frees a handle, and gives the registration that it stood for. -/
def unbind (book : Book) (handle : Handle) : BridgeM σ μ (Option EntryId) := fun world =>
  let ledger := world.ledger book
  (.ok (ledger.registry.lookup? handle),
    world.setLedger book { ledger with registry := ledger.registry.erase handle })

/-- Adds a managed reference and gives the number of all references. -/
def retain (book : Book) (peer : Peer) : Call σ μ Nat :=
  checked book peer Lifecycle.retain

variable [Custodian σ]

/-- Frees a handle, lets go of its registration, and tells whether it was
bound. -/
def unregister (book : Book) (handle : Handle) : BridgeM σ μ Bool := do
  match ← unbind book handle with
  | none => return false
  | some entry =>
    Custody.letGo entry
    return true

def teardown (book : Book) (handle : Handle) (remains : Teardown) : BridgeM σ μ Unit := do
  unless ← unregister book handle do
    note (.teardownUnregistered handle)
    count book Metrics.countViolation
  remains.pin.forM Custody.letGoOfTarget
  remains.buffers.forM dropBuffer
  count book Metrics.countDisposed
  note (.disposed handle remains.buffers.length)

def finish (book : Book) (peer : Peer) : Option Teardown → Call σ μ Unit
  | some remains => effect (teardown book peer.handle remains)
  | none => return ()

/-- Gives a managed reference back. -/
def release (book : Book) (peer : Peer) : Call σ μ Unit := do
  finish book peer (← checked book peer Lifecycle.release)

/-- Gives up the reference that the native side has held from the start. -/
def releaseNative (book : Book) (peer : Peer) : Call σ μ Unit := do
  finish book peer (← checked book peer Lifecycle.releaseNative)

end TransportBridge.References
