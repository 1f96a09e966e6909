import TransportBridge.BridgeError
import TransportBridge.Identity

/-!
Contract: the managed runtime's primitives for the threads of the host.

Two runtimes exist. In the in-process one every thread is attached for good.
The simulated one keeps attachment per thread, counts attaches and detaches,
and fails on demand: an attachment once, a pending fault once, detachment and
the status query for as long as they are told to.

Assumes: that a primitive is no more than its answer and the runtime that it
leaves. No primitive calls the bridge or panics; one that fails says so by a
status.
-/

namespace TransportBridge

inductive ThreadStatus where
  | attached
  | detached
  | unavailable (status : Int)
deriving DecidableEq, Repr

structure SimulatedRuntime where
  attachedThreads : List ThreadId := []
  attachCount : Nat := 0
  detachCount : Nat := 0
  nextAttachFailure : Option Int := none
  pendingFault : Bool := false
  detachFails : Bool := false
  unavailableStatus : Option Int := none
deriving DecidableEq, Repr

namespace SimulatedRuntime

def isAttached (runtime : SimulatedRuntime) (thread : ThreadId) : Bool :=
  runtime.attachedThreads.contains thread

/-- Marks a thread that the host attached by itself; no call is counted. -/
def markAttached (runtime : SimulatedRuntime) (thread : ThreadId) : SimulatedRuntime :=
  if runtime.isAttached thread then runtime
  else { runtime with attachedThreads := thread :: runtime.attachedThreads }

def threadStatus (runtime : SimulatedRuntime) (thread : ThreadId) : ThreadStatus :=
  match runtime.unavailableStatus with
  | some status => .unavailable status
  | none => if runtime.isAttached thread then .attached else .detached

/-- The failure status, if any, and the runtime after the call. -/
def attach (runtime : SimulatedRuntime) (thread : ThreadId) : Option Int × SimulatedRuntime :=
  match runtime.nextAttachFailure with
  | some status => (some status, { runtime with nextAttachFailure := none })
  | none =>
    (none, { runtime.markAttached thread with attachCount := runtime.attachCount + 1 })

/-- A detachment that reports failure has detached the thread all the same. -/
def detach (runtime : SimulatedRuntime) (thread : ThreadId) : Option Int × SimulatedRuntime :=
  (if runtime.detachFails then some (-1) else none, { runtime with
    attachedThreads := runtime.attachedThreads.filter (· ≠ thread)
    detachCount := runtime.detachCount + 1 })

def takeFault (runtime : SimulatedRuntime) : Bool × SimulatedRuntime :=
  (runtime.pendingFault, { runtime with pendingFault := false })

end SimulatedRuntime

/-- A runtime by its state. The primitives are functions of it, which is the
assumption that they neither call the bridge nor panic. -/
inductive ManagedRuntime where
  | inProcess
  | simulated (runtime : SimulatedRuntime)
deriving DecidableEq, Repr

namespace ManagedRuntime

def threadStatus (runtime : ManagedRuntime) (thread : ThreadId) : ThreadStatus :=
  match runtime with
  | inProcess => .attached
  | simulated state => state.threadStatus thread

def attach (runtime : ManagedRuntime) (thread : ThreadId) : Option Int × ManagedRuntime :=
  match runtime with
  | inProcess => (none, inProcess)
  | simulated state =>
    let (failure, next) := state.attach thread
    (failure, simulated next)

def detach (runtime : ManagedRuntime) (thread : ThreadId) : Option Int × ManagedRuntime :=
  match runtime with
  | inProcess => (none, inProcess)
  | simulated state =>
    let (failure, next) := state.detach thread
    (failure, simulated next)

def takeFault (runtime : ManagedRuntime) : Bool × ManagedRuntime :=
  match runtime with
  | inProcess => (false, inProcess)
  | simulated state =>
    let (fault, next) := state.takeFault
    (fault, simulated next)

/-- Whether a thread is attached, where the runtime keeps track of it. -/
def isAttached? (runtime : ManagedRuntime) (thread : ThreadId) : Option Bool :=
  match runtime with
  | inProcess => none
  | simulated state => some (state.isAttached thread)

end ManagedRuntime

/-- How a simulated runtime stands, seen from one thread. -/
structure RuntimeView where
  attachCount : Nat
  detachCount : Nat
  attached : Bool
deriving DecidableEq, Repr

/-- An in-process runtime shows nothing. -/
def ManagedRuntime.view? (runtime : ManagedRuntime) (thread : ThreadId) : Option RuntimeView :=
  match runtime with
  | inProcess => none
  | simulated state =>
    some ⟨state.attachCount, state.detachCount, state.isAttached thread⟩

/-- What a host can tell a simulated runtime to do. -/
inductive RuntimeControl where
  | attachThread
  | failNextAttach (status : Int)
  | injectFault
  | failDetach (enabled : Bool)
  | setUnavailable (status : Option Int)
deriving DecidableEq, Repr

/-- An in-process runtime has nothing to control. -/
def ManagedRuntime.control (runtime : ManagedRuntime) (thread : ThreadId) :
    RuntimeControl → ManagedRuntime :=
  fun control =>
    match runtime with
    | inProcess => inProcess
    | simulated state =>
      simulated (match control with
        | .attachThread => state.markAttached thread
        | .failNextAttach status => { state with nextAttachFailure := some status }
        | .injectFault => { state with pendingFault := true }
        | .failDetach enabled => { state with detachFails := enabled }
        | .setUnavailable status => { state with unavailableStatus := status })

end TransportBridge
