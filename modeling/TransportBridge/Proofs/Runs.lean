import TransportBridge.Bridge.Delivery
import TransportBridge.Bridge.Socket

/-!
Contract: what a run of bridge calls is, and what it tells of a registration.

User code is a tree: it makes a call on the bridge and goes on as the reply
tells it, looks at the world, rearranges what is around the bridge, returns, or
panics. The callbacks of all targets, the engine and the factory are user code,
so that calls come in any order and nest to any depth. Every call leaves a mark
in the trace when it begins and another one when it has ended.

The calls at the top are made one after the other from a bridge that nothing
has been registered with. Each is made with a bound on the depth of nesting. A
call beyond the bound is not made, so that each bound gives runs of its own,
and every finite run is one of some bound.

Owns: calls, replies, user code, the worlds that lie between the calls at the
top, and the deeds of a registration.

Does not own: what a call does. The bridge's own definitions do that.
-/

namespace TransportBridge

/-- A call that user code makes on a bridge. A connection is named by its
registration. -/
inductive BridgeCall where
  | openOutbound (address : Address) (framing : Option Framing) (target : TargetId)
  | adoptInbound (handle : Handle) (target : TargetId)
  | native (handle : Handle) (event : NativeEvent)
  | socket (entry : EntryId) (call : SocketCall)
deriving DecidableEq, Repr

/-- What a caller is told. -/
inductive Reply where
  | done
  | count (references : Nat)
  | peer (peer : Peer)
  /-- There is no such connection. -/
  | absent
  | rejected (error : BridgeError)
  | panicked (panic : Panic)
deriving DecidableEq, Repr

/-- The marks that a run leaves in the trace. -/
inductive Mark where
  | called (call : BridgeCall)
  | replied (call : BridgeCall) (reply : Reply)
deriving DecidableEq, Repr

/-! ## Deeds -/

/-- What a trace tells of one registration. -/
inductive Deed where
  /-- A callback for it has begun. -/
  | callback (event : EventKind)
  /-- The engine has been called for it. -/
  | forwarded (call : EngineCall)
  /-- A retain has succeeded, with so many references after it. -/
  | retained (references : Nat)
  /-- A release has come to its end. -/
  | release (reply : Reply)
deriving DecidableEq, Repr

def Mark.deed? (entry : EntryId) : Mark → Option Deed
  | .replied (.socket named .retain) (.count references) =>
    if named = entry then some (.retained references) else none
  | .replied (.socket named .release) reply =>
    if named = entry ∧ reply ≠ .absent then some (.release reply) else none
  | _ => none

def Moment.deed? (entry : EntryId) : Moment Mark → Option Deed
  | .callback peer _ event _ => if peer.entry = entry then some (.callback event.kind) else none
  | .engineCalled source _ call => if source = some entry then some (.forwarded call) else none
  | .marked mark => mark.deed? entry
  | _ => none

/-- The deeds of a registration, in the order of happening. -/
def World.deeds {σ : Type} (world : World σ Mark) (entry : EntryId) : List Deed :=
  world.trace.toList.filterMap (Moment.deed? entry)

/-! ## User code -/

/-- What is around a bridge and may change at any time: the runtime, the thread
that is running, the installed factory, and what the host keeps for itself. -/
structure Surroundings (σ : Type) where
  runtime : ManagedRuntime
  thread : ThreadId
  factory : Option FactoryId
  host : σ

namespace World

variable {σ μ : Type}

def surroundings (world : World σ μ) : Surroundings σ :=
  ⟨world.runtime, world.thread, world.factory, world.host⟩

def amid (world : World σ μ) (surroundings : Surroundings σ) : World σ μ :=
  { world with
    runtime := surroundings.runtime
    thread := surroundings.thread
    factory := surroundings.factory
    host := surroundings.host }

/-- A bridge that nothing has been registered with. -/
def fresh (config : Config) (surroundings : Surroundings σ) : World σ μ where
  config := config
  runtime := surroundings.runtime
  thread := surroundings.thread
  factory := surroundings.factory
  host := surroundings.host

end World

/-- User code that ends in an `α`. -/
inductive UserCode (σ α : Type) where
  | finish (result : α)
  | unwind (panic : Panic)
  | look (next : World σ Mark → UserCode σ α)
  | rearrange (change : Surroundings σ → Surroundings σ) (next : UserCode σ α)
  /-- The reply tells of a panic, too; code that does not want to stop it
  unwinds in its turn. -/
  | call (made : BridgeCall) (next : Reply → UserCode σ α)

/-- The code of all that the bridge calls. -/
structure Behaviour (σ : Type) where
  callback : Peer → TargetId → SocketEvent → UserCode σ Unit
  createHandle : Address → Framing → UserCode σ (Except ErrorRecord Handle)
  engine : Handle → EngineCall → UserCode σ Unit
  createTarget : FactoryId → Handle → Address → Bytes → UserCode σ (Except ErrorRecord TargetId)

/-! ## Runs -/

section Runs

variable {σ α : Type}

/-- Runs user code, given how its calls are made. -/
def UserCode.run (make : BridgeCall → BridgeM σ Mark Reply) : UserCode σ α → BridgeM σ Mark α
  | .finish result => return result
  | .unwind panic => throw panic
  | .look next => do (next (← get)).run make
  | .rearrange change next => do
    modify fun world => world.amid (change world.surroundings)
    next.run make
  | .call made next => do (next (← make made)).run make

def Behaviour.host (behaviour : Behaviour σ) (make : BridgeCall → BridgeM σ Mark Reply) :
    Host σ Mark where
  callback peer target event := (behaviour.callback peer target event).run make
  createHandle address framing := (behaviour.createHandle address framing).run make
  engine handle call := (behaviour.engine handle call).run make
  createTarget factory handle address options :=
    (behaviour.createTarget factory handle address options).run make

/-- The reply to a call that gave a result or was rejected. -/
def Reply.ofAnswer (answer : α → Reply) : Except BridgeError α → Reply
  | .ok result => answer result
  | .error error => .rejected error

def replyTo (call : Call σ Mark α) (answer : α → Reply) : BridgeM σ Mark Reply := do
  return .ofAnswer answer (← call.run)

def Reply.ofCount : Option Nat → Reply
  | some references => .count references
  | none => .done

variable [Custodian σ]

/-- Makes a call over a host. A connection is held while it is called. -/
def BridgeCall.perform (host : Host σ Mark) : BridgeCall → BridgeM σ Mark Reply
  | .openOutbound address framing target =>
    replyTo (Registration.openOutbound host address framing target) .peer
  | .adoptInbound handle target => replyTo (Registration.adoptInbound handle target) .peer
  | .native handle event => replyTo (Delivery.dispatch host handle event) fun _ => .done
  | .socket entry call => do
    match World.entry? (← get) entry with
    | some registration =>
      Custody.holding entry
        (replyTo (Socket.invoke host ⟨entry, registration.handle⟩ call) .ofCount)
    | none => return .absent

def Reply.ofOutcome : Except Panic Reply → Reply
  | .ok reply => reply
  | .error panic => .panicked panic

/-- Makes a call, whose callbacks and engine calls make theirs one level
deeper. -/
def BridgeCall.make (behaviour : Behaviour σ) : Nat → BridgeCall → BridgeM σ Mark Reply
  | 0, _ => return .panicked .exhausted
  | depth + 1, call => do
    witness (.marked (.called call))
    let outcome ← catchPanic (call.perform (behaviour.host (make behaviour depth)))
    witness (.marked (.replied call (.ofOutcome outcome)))
    return .ofOutcome outcome

/-- The worlds between the calls at the top. -/
inductive Reachable : World σ Mark → Prop where
  | fresh (config : Config) (surroundings : Surroundings σ) :
      Reachable (.fresh config surroundings)
  | rearranged {world : World σ Mark} (reached : Reachable world)
      (surroundings : Surroundings σ) : Reachable (world.amid surroundings)
  | called {world : World σ Mark} (reached : Reachable world) (behaviour : Behaviour σ)
      (depth : Nat) (call : BridgeCall) : Reachable (call.make behaviour depth world).2

/-- Makes calls at the top, one after the other. -/
def Behaviour.inTurn (behaviour : Behaviour σ) (depth : Nat) (calls : List BridgeCall)
    (world : World σ Mark) : World σ Mark :=
  calls.foldl (fun world call => (call.make behaviour depth world).2) world

theorem Reachable.inTurn {world : World σ Mark} (reached : Reachable world)
    (behaviour : Behaviour σ) (depth : Nat) (calls : List BridgeCall) :
    Reachable (behaviour.inTurn depth calls world) := by
  induction calls generalizing world with
  | nil => exact reached
  | cons call rest inductionHypothesis =>
      exact inductionHypothesis (.called reached behaviour depth call)

end Runs

/-! ## The least host -/

/-- A host that holds no connection, and whose targets know none. -/
structure Bystander where

namespace Bystander

instance : Custodian Bystander where
  knows _ _ := false
  forget _ host := (none, host)

/-- Targets answer as they like. The engine returns at once, and neither it nor
the factory makes anything. -/
def answering (callback : SocketEvent → UserCode Bystander Unit) : Behaviour Bystander where
  callback _ _ event := callback event
  createHandle _ _ := .unwind .other
  engine _ _ := .finish ()
  createTarget _ _ _ _ := .unwind .other

def handle : Handle where
  raw := 7
  nonzero := by decide

/-- A bridge with the default settings in a runtime that always works. -/
def start : World Bystander Mark :=
  .fresh {} ⟨.inProcess, ⟨0⟩, none, {}⟩

theorem reachable_inTurn (behaviour : Behaviour Bystander) (depth : Nat)
    (calls : List BridgeCall) : Reachable (behaviour.inTurn depth calls start) :=
  .inTurn (.fresh _ _) behaviour depth calls

end Bystander

end TransportBridge
