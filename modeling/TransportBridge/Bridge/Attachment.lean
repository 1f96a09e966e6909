import TransportBridge.Bridge.World

/-!
Contract: managed execution contexts for threads of the native side.

Owns: guards that attach a thread where it is detached and detach only what
they attached themselves, and `withAttachedContext`, which runs a thunk under
a guard and lets the guard go on every way out, panics included.

Does not own: the runtime's primitives.
-/

namespace TransportBridge

/-- The proof of an attachment. The thread is detached with it, if it was this
guard that attached the thread. -/
structure AttachGuard where
  operation : String
  attachedHere : Bool
deriving DecidableEq, Repr

def AttachGuard.inspect (held : AttachGuard) : String :=
  Inspect.record "AttachGuard" [("operation", Inspect.text held.operation),
    ("detach_on_drop", Inspect.bool held.attachedHere)]

/-- What a thunk is told about its execution context. -/
structure RuntimeContext where
  operation : String
  attachedHere : Bool
deriving DecidableEq, Repr

def RuntimeContext.inspect (context : RuntimeContext) : String :=
  Inspect.record "RuntimeContext" [("operation", Inspect.text context.operation),
    ("attached_here", Inspect.bool context.attachedHere)]

namespace Attachment

variable {σ μ α : Type}

/-- Attaches the running thread; gives the failure status, if any. -/
def attachThread : BridgeM σ μ (Option Int) := fun world =>
  let (failure, runtime) := world.runtime.attach world.thread
  (.ok failure, { world with runtime })

/-- Detaches the running thread; gives the failure status, if any. -/
def detachThread : BridgeM σ μ (Option Int) := fun world =>
  let (failure, runtime) := world.runtime.detach world.thread
  (.ok failure, { world with runtime })

/-- Tells whether a fault of the managed side is pending, and clears it. -/
def takeFault : BridgeM σ μ Bool := fun world =>
  let (fault, runtime) := world.runtime.takeFault
  (.ok fault, { world with runtime })

/-- Counts and notes a failure, and gives it as the error of the call. -/
def fail (operation : String) (failure : AttachFailure) : BridgeM σ μ BridgeError := do
  count .own Metrics.countAttachFailure
  match failure with
  | .pendingFault => note (.faultPending operation)
  | _ => note (.contextUnavailable operation failure)
  return .runtimeAttachment operation failure

/-- Takes a guard. Pending faults are not looked at. -/
def attach (operation : String) : BridgeM σ μ (Except BridgeError AttachGuard) := do
  let world ← get
  match world.runtime.threadStatus world.thread with
  | .attached => return .ok ⟨operation, false⟩
  | .detached =>
    match ← attachThread with
    | none => return .ok ⟨operation, true⟩
    | some status => return .error (← fail operation (.attachFailed status))
  | .unavailable status => return .error (← fail operation (.environmentUnavailable status))

/-- Lets a guard go. A detachment that fails is noted and nothing else. -/
def drop (held : AttachGuard) : BridgeM σ μ Unit := do
  if held.attachedHere then
    if let some status ← detachThread then
      note (.detachFailed held.operation status)

/-- Runs a thunk in a managed execution context. Where none can be had, or a
fault of the managed side is still pending, the thunk does not run. -/
def withAttachedContext (operation : String) (thunk : RuntimeContext → BridgeM σ μ α) :
    BridgeM σ μ (Except BridgeError α) := do
  match ← attach operation with
  | .error error => return .error error
  | .ok held =>
    if ← takeFault then
      let error ← fail operation .pendingFault
      drop held
      return .error error
    else
      return .ok (← ensuring (thunk ⟨operation, held.attachedHere⟩) (drop held))

end Attachment

end TransportBridge
