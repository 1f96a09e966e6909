import TransportBridge.Bridge.Registration

/-!
Contract: one registry and one keeper of references over it, under a list of
operations.

Targets live by pins alone here: each registration has a target of its own, and
its pin is not given to the lifecycle but kept on a stack for its handle. The
entry of the last registration of each handle is kept, too, whatever becomes of
its binding.
-/

namespace TransportBridge.Drill

open References Registration

inductive RegistryOp where
  | register (handle : Handle)
  | lookup (handle : Handle)
  | lookupTarget (handle : Handle)
  | unregister (handle : Handle)
  | contains (handle : Handle)
  | size
  | dropPin (handle : Handle)
  | inspectPin (handle : Handle)
  | entryTarget (handle : Handle)
  | inspect (handle : Handle)
  | retain (handle : Handle)
  | release (handle : Handle)
  | releaseNative (handle : Handle)
deriving DecidableEq, Repr

inductive RegistryAnswer where
  | done
  | noEntry
  | absent
  | flag (value : Bool)
  | count (value : Nat)
  | handle (handle : Handle)
  | text (value : String)
  | texts (values : List String)
  | registered (handle : Handle) (life : Lifecycle)
  | size (value : Nat)
  | failed (error : BridgeError)

/-- Pins, the newest first, and the kept entries. -/
structure Kept where
  pins : List (Handle × TargetId) := []
  entries : List Peer := []

/-- The kept entries are known. Targets know nothing here. -/
instance : Custodian Kept where
  knows kept entry := kept.entries.any (·.entry = entry)
  forget _ kept := (none, kept)

abbrev RegistryM := BridgeM Kept Empty

structure RegistryReport where
  answer : RegistryAnswer
  /-- The references to each kept entry, by handle. -/
  references : List (Handle × Nat)
  metrics : Metrics
  log : List Notice

def isPinned (world : World Kept Empty) (entry : EntryId) : Bool :=
  (world.entry? entry).any fun entry => world.host.pins.any (·.2 = entry.target)

def withKept (handle : Handle) (body : Peer → RegistryM RegistryAnswer) :
    RegistryM RegistryAnswer := do
  match (← get).host.entries.find? (·.handle = handle) with
  | some peer => body peer
  | none => return .noEntry

def settle {α : Type} (call : Call Kept Empty α) (answer : α → RegistryAnswer) :
    RegistryM RegistryAnswer := do
  match ← call.run with
  | .ok result => return answer result
  | .error error => return .failed error

def keepEntry (kept : Kept) (peer : Peer) (target : TargetId) : Kept where
  pins := (peer.handle, target) :: kept.pins
  entries := peer :: kept.entries.filter (·.handle ≠ peer.handle)

def registerHandle (handle : Handle) : RegistryM RegistryAnswer := do
  let target : TargetId := ⟨(← get).entries.size⟩
  match ← bind? handle target with
  | none => return .failed (.duplicateHandle handle)
  | some peer =>
    modify fun world => { world with host := keepEntry world.host peer target }
    return .registered handle ((← get).life peer.entry)

def inspectLife (world : World Kept Empty) (peer : Peer) : String :=
  (world.life peer.entry).inspect peer.handle

def inspectEntry (world : World Kept Empty) (peer : Peer) : String :=
  Inspect.openRecord "HandleEntry" [("handle", peer.handle.inspect),
    ("lifecycle", inspectLife world peer)]

/-- Drops the newest pin of a handle. -/
def dropPinOf (handle : Handle) : RegistryM RegistryAnswer := fun world =>
  let pins := world.host.pins
  (.ok (.flag (pins.any (·.1 = handle))), { world with
    host := { world.host with pins := pins.eraseP (·.1 = handle) } })

def RegistryOp.perform : RegistryOp → RegistryM RegistryAnswer
  | .register handle => registerHandle handle
  | .lookup handle => do
    return if (← get).own.registry.contains handle then .handle handle else .absent
  | .lookupTarget handle => do
    let world ← get
    return .flag ((world.own.registry.lookup? handle).any (isPinned world))
  | .unregister handle => return .flag (← References.unregister .own handle)
  | .contains handle => return .flag ((← get).own.registry.contains handle)
  | .size => return .size (← get).own.registry.size
  | .dropPin handle => dropPinOf handle
  | .inspectPin handle => do
    return if (← get).host.pins.any (·.1 = handle) then
      .text (Inspect.openRecord "PinToken" [("handle", handle.inspect)])
    else .absent
  | .entryTarget handle => withKept handle fun peer => do
    return .flag (isPinned (← get) peer.entry)
  | .inspect handle => withKept handle fun peer => do
    let world ← get
    return .texts [inspectEntry world peer, inspectLife world peer]
  | .retain handle => withKept handle fun peer =>
    settle (References.retain .own peer) .count
  | .release handle => withKept handle fun peer =>
    settle (References.release .own peer) fun _ => .done
  | .releaseNative handle => withKept handle fun peer =>
    settle (References.releaseNative .own peer) fun _ => .done

def insertByHandle (peer : Peer) : List Peer → List Peer
  | [] => [peer]
  | head :: tail =>
    if peer.handle.raw < head.handle.raw then peer :: head :: tail
    else head :: insertByHandle peer tail

def registryReport (answer : RegistryAnswer) (world : World Kept Empty) :
    RegistryReport where
  answer
  references := (world.host.entries.foldr insertByHandle []).map fun peer =>
    (peer.handle, (world.life peer.entry).retainCount)
  metrics := world.own.metrics
  log := notices world.trace

/-- Runs operations in order. None of them calls a host, so none can panic. -/
def runRegistry : List RegistryOp → World Kept Empty → List RegistryReport
  | [], _ => []
  | op :: rest, world =>
    match op.perform { world with trace := #[] } with
    | (.ok answer, next) => registryReport answer next :: runRegistry rest next
    | (.error _, next) => runRegistry rest next

def registryReports (ops : List RegistryOp) : List RegistryReport :=
  runRegistry ops { config := {}, runtime := .inProcess, host := {} }

end TransportBridge.Drill
