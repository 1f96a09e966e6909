import TransportBridge.Bridge.Attachment
import TransportBridge.Drill.Registry

/-!
Contract: execution contexts and attachment guards under a tree of operations.

`within` runs operations inside a context; guards that are taken are kept in
one list for all depths. A panic ends the innermost context around it, and is
that operation's answer; the reports of the operations before it are lost with
it.
-/

namespace TransportBridge.Drill

inductive AttachOp where
  | within (operation : String) (inner : List AttachOp)
  | panic (message : String)
  | attach (operation : String)
  | dropLast
  | dropFirst
  | status
  | runtimeAttach
  | runtimeDetach
  | hasFault
  | inspect
  | control (order : RuntimeControl)

mutual

inductive AttachAnswer where
  | done
  | flag (value : Bool)
  | text (value : String)
  | status (status : ThreadStatus)
  | outcome (failure : Option Int)
  | attached (held : AttachGuard)
  | ran (context : RuntimeContext) (inner : List AttachReport)
  | failed (error : BridgeError)
  | panicked (panic : Panic)

inductive AttachReport where
  | mk (answer : AttachAnswer) (runtime : Option RuntimeView) (failures : Nat)
      (log : List Notice)

end

/-- Guards that are kept, the oldest first. -/
abbrev Guards := List AttachGuard

abbrev AttachM := BridgeM Guards Empty

def keepGuard (operation : String) : AttachM AttachAnswer := do
  match ← Attachment.attach operation with
  | .error error => return .failed error
  | .ok held =>
    modify fun world => { world with host := world.host ++ [held] }
    return .attached held

/-- Drops the guard that `pick` chooses, if there is one. -/
def dropGuard (pick : Guards → Option (AttachGuard × Guards)) :
    AttachM AttachAnswer := do
  match pick (← get).host with
  | none => return .flag false
  | some (held, rest) =>
    modify fun world => { world with host := rest }
    Attachment.drop held
    return .flag true

def pickLast (guards : Guards) : Option (AttachGuard × Guards) :=
  guards.getLast?.map fun held => (held, guards.dropLast)

def pickFirst : Guards → Option (AttachGuard × Guards)
  | [] => none
  | held :: rest => some (held, rest)

/-- Tells how things stand, and takes the notices so far. -/
def takeReport (answer : AttachAnswer) : AttachM AttachReport := fun world =>
  (.ok (.mk answer (world.runtime.view? world.thread) world.own.metrics.attachFailures
    (notices world.trace)), { world with trace := #[] })

def settleContext (outcome : Except Panic (Except BridgeError AttachAnswer)) :
    AttachAnswer :=
  match outcome with
  | .ok (.ok answer) => answer
  | .ok (.error error) => .failed error
  | .error panic => .panicked panic

mutual

def AttachOp.perform : AttachOp → AttachM AttachAnswer
  | .within operation inner => do
    let outcome ← catchPanic (Attachment.withAttachedContext operation fun context => do
      return .ran context (← AttachOp.performAll inner))
    return settleContext outcome
  | .panic message => throw (.text message)
  | .attach operation => keepGuard operation
  | .dropLast => dropGuard pickLast
  | .dropFirst => dropGuard pickFirst
  | .status => do
    let world ← get
    return .status (world.runtime.threadStatus world.thread)
  | .runtimeAttach => return .outcome (← Attachment.attachThread)
  | .runtimeDetach => return .outcome (← Attachment.detachThread)
  | .hasFault => return .flag (← Attachment.takeFault)
  | .inspect => return .text (Inspect.openRecord "AttachmentManager" [])
  | .control order => do
    modify fun world => { world with runtime := world.runtime.control world.thread order }
    return .done

def AttachOp.performAll : List AttachOp → AttachM (List AttachReport)
  | [] => return []
  | op :: rest => do
    let report ← takeReport (← op.perform)
    return report :: (← AttachOp.performAll rest)

end

/-- Runs operations at the top. A panic there ends everything. -/
def attachReports (runtime : ManagedRuntime) (ops : List AttachOp) :
    Except Panic (List AttachReport) :=
  (AttachOp.performAll ops { config := {}, runtime, host := [] }).1

end TransportBridge.Drill
