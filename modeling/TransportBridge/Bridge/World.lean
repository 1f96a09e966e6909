import TransportBridge.Config
import TransportBridge.Lifecycle
import TransportBridge.ManagedRuntime
import TransportBridge.Metrics
import TransportBridge.Notice
import TransportBridge.Registry

/-!
Contract: the state of a bridge and the computations that run on it.

Owns: the entries of all registrations ever made, the two ledgers, the trace
of everything that has happened, and the effects `BridgeM` and `Call`.

Does not own: the host. Its state `σ` and the marks `μ` that it leaves in the
trace are parameters; what it does when the bridge calls it is a `Host`. A
panic of the host ends a computation and keeps the state, as it unwinds
through the bridge without undoing anything.

Assumes: that the host is all there is that can call the bridge again, or panic.
The bridge also runs release hooks, asks the runtime for its primitives, writes
to a log and gives up targets that nobody holds. Each of these is assumed to
return, and not to call the bridge before it does: here they are a moment of the
trace, a function of `ManagedRuntime`, a notice, and `Custodian.forget`.
-/

namespace TransportBridge

/-- A call to the native engine for a handle that it knows. -/
inductive EngineCall where
  | opened
  | httpResponse (status : Int) (headers : Bytes)
  | write (data : Bytes)
  | completedReceive (byteCount : Nat)
  | closeRequest (status : Int) (message : String)
  | closed (error : ErrorRecord)
deriving DecidableEq, Repr

/-- The managed side's hold on a connection. It names one registration, and
stays with it when the handle is registered anew. -/
structure Peer where
  entry : EntryId
  handle : Handle
deriving DecidableEq, Repr

/-- One registration. The target is named, not held: it lives as long as
something else keeps it. -/
structure Entry where
  handle : Handle
  target : TargetId
  life : Lifecycle

/-- The handles and counters that a reference keeper works on. -/
structure Ledger where
  registry : Registry := .empty
  metrics : Metrics := {}

/-- Which ledger: the bridge's own, or that of a keeper who shares the entries
and none of the bookkeeping. -/
inductive Book where
  | own
  | foreign
deriving DecidableEq, Repr

/-- Something that happened, in the order of happening. -/
inductive Moment (μ : Type) where
  | noted (notice : Notice)
  /-- A callback begins; `attached` tells of the calling thread. -/
  | callback (peer : Peer) (target : TargetId) (event : SocketEvent) (attached : Option Bool)
  | engineAsked (address : Address) (framing : Framing)
  /-- `source` is the registration that the call is made for, if there is one. -/
  | engineCalled (source : Option EntryId) (handle : Handle) (call : EngineCall)
  | factoryAsked (factory : FactoryId) (handle : Handle) (address : Address) (options : Bytes)
  | hookRan (hook : Hook)
  | marked (mark : μ)

/-- The notices in a trace. -/
def notices {μ : Type} (trace : Array (Moment μ)) : List Notice :=
  trace.toList.filterMap fun
    | .noted notice => some notice
    | _ => none

structure World (σ μ : Type) where
  config : Config
  runtime : ManagedRuntime
  /-- The thread that is running. -/
  thread : ThreadId := ⟨0⟩
  entries : Array Entry := #[]
  own : Ledger := {}
  foreign : Ledger := {}
  factory : Option FactoryId := none
  /-- Registrations that calls under way hold, one for each call. -/
  engaged : List EntryId := []
  /-- Targets that calls under way hold, one for each call. -/
  lent : List TargetId := []
  trace : Array (Moment μ) := #[]
  host : σ

/-- How a computation ends without a result. -/
inductive Panic where
  | text (message : String)
  /-- A payload that is no text. -/
  | other
  /-- Nested calls went deeper than the bound of the run. -/
  | exhausted
deriving DecidableEq, Repr

abbrev BridgeM (σ μ α : Type) := ExceptT Panic (StateM (World σ μ)) α

/-- A call that the bridge may reject. -/
abbrev Call (σ μ α : Type) := ExceptT BridgeError (ExceptT Panic (StateM (World σ μ))) α

/-- What the bridge calls. All of it may call the bridge again, and may panic.
That nothing else does is an assumption about release hooks, runtime primitives,
the log and the end of targets, none of which has a place here. -/
structure Host (σ μ : Type) where
  callback : Peer → TargetId → SocketEvent → BridgeM σ μ Unit
  createHandle : Address → Framing → BridgeM σ μ (Except ErrorRecord Handle)
  engine : Handle → EngineCall → BridgeM σ μ Unit
  createTarget : FactoryId → Handle → Address → Bytes →
    BridgeM σ μ (Except ErrorRecord TargetId)

namespace World

variable {σ μ : Type}

def push (world : World σ μ) (moment : Moment μ) : World σ μ :=
  { world with trace := world.trace.push moment }

def ledger (world : World σ μ) : Book → Ledger
  | .own => world.own
  | .foreign => world.foreign

def setLedger (world : World σ μ) (book : Book) (ledger : Ledger) : World σ μ :=
  match book with
  | .own => { world with own := ledger }
  | .foreign => { world with foreign := ledger }

def count (world : World σ μ) (book : Book) (change : Metrics → Metrics) : World σ μ :=
  let ledger := world.ledger book
  world.setLedger book { ledger with metrics := change ledger.metrics }

def entry? (world : World σ μ) (id : EntryId) : Option Entry :=
  world.entries[id.index]?

/-- The lifecycle of an entry. -/
def life (world : World σ μ) (id : EntryId) : Lifecycle :=
  match world.entry? id with
  | some entry => entry.life
  | none => {}

def setLife (world : World σ μ) (id : EntryId) (life : Lifecycle) : World σ μ :=
  { world with entries := world.entries.modify id.index fun entry => { entry with life } }

/-- The peer of the entry that a handle stands for now. -/
def peer? (world : World σ μ) (handle : Handle) : Option Peer :=
  (world.own.registry.lookup? handle).map fun entry => ⟨entry, handle⟩

/-- The running thread is attached, where the runtime keeps track of it. -/
def attached? (world : World σ μ) : Option Bool :=
  world.runtime.isAttached? world.thread

/-- The entry is the one that its handle stands for. -/
def binds (world : World σ μ) (id : EntryId) : Bool :=
  (world.entry? id).any fun entry => world.own.registry.lookup? entry.handle == some id

/-- The bridge holds the target: by a pin, or by a call that is under way. -/
def keeps (world : World σ μ) (target : TargetId) : Bool :=
  world.lent.contains target || world.entries.any fun entry =>
    entry.life.pin == some target

end World

section Effects

variable {σ μ α : Type}

def note (notice : Notice) : BridgeM σ μ Unit :=
  modify (·.push (.noted notice))

def witness (moment : Moment μ) : BridgeM σ μ Unit :=
  modify (·.push moment)

def count (book : Book) (change : Metrics → Metrics) : BridgeM σ μ Unit :=
  modify (·.count book change)

/-- Drops a native buffer, which runs the hook that is attached to it. All that is
seen of the hook is that it has run. -/
def dropBuffer (buffer : NativeBuffer Hook) : BridgeM σ μ Unit :=
  buffer.dropped.forM fun hook => witness (.hookRan hook)

/-- Runs a step of one lifecycle as a whole. A refused step changes nothing. -/
def attempt (id : EntryId) (step : Lifecycle → Lifecycle.Step α) :
    BridgeM σ μ (Except Refusal α) := fun world =>
  match step (world.life id) with
  | .ok (result, next) => (.ok (.ok result), world.setLife id next)
  | .error refusal => (.ok (.error refusal), world)

/-- Runs a step of one lifecycle that cannot be refused. -/
def change (id : EntryId) (step : Lifecycle → α × Lifecycle) : BridgeM σ μ α := fun world =>
  let (result, next) := step (world.life id)
  (.ok result, world.setLife id next)

/-- Runs `cleanup` after `body`, however `body` ends. -/
def ensuring (body : BridgeM σ μ α) (cleanup : BridgeM σ μ Unit) :
    BridgeM σ μ α := fun world =>
  match body world with
  | (.ok result, next) =>
    match cleanup next with
    | (.ok (), last) => (.ok result, last)
    | (.error panic, last) => (.error panic, last)
  | (.error panic, next) => (.error panic, (cleanup next).2)

/-- Runs `cleanup` after a `body` that panics, and lets the panic go on. -/
def onPanic (body : BridgeM σ μ α) (cleanup : BridgeM σ μ Unit) :
    BridgeM σ μ α := fun world =>
  match body world with
  | (.ok result, next) => (.ok result, next)
  | (.error panic, next) => (.error panic, (cleanup next).2)

/-- An effect as part of a call; it rejects nothing. -/
def effect (body : BridgeM σ μ α) : Call σ μ α :=
  ExceptT.lift body

/-- Runs `cleanup` after a call, however the call ends. -/
def Call.ensuring (body : Call σ μ α) (cleanup : BridgeM σ μ Unit) : Call σ μ α :=
  ExceptT.mk (TransportBridge.ensuring body.run cleanup)

/-- Stops a panic and gives it as a value. -/
def catchPanic (body : BridgeM σ μ α) : BridgeM σ μ (Except Panic α) := fun world =>
  match body world with
  | (.ok result, next) => (.ok (.ok result), next)
  | (.error panic, next) => (.ok (.error panic), next)

end Effects

end TransportBridge
