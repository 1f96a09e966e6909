import TransportBridge.Proofs.Effects

/-!
Contract: how managed contexts are asked for and given back, in full, and what
the delivery of an event does around its context.

A guard is found where the thread is attached, taken where it can be attached,
and refused otherwise. The thunk of a context runs under a guard unless a fault
is pending, and the guard goes after either. What all this leaves behind is
another state of the runtime, a failure that is counted, and notes.

Owns: runtimes that work; the worlds that a guard is asked for, missed and given
back in; the course of a whole context; and the worlds that an event is
delivered in. What other modules say of contexts and of deliveries, they derive
from that.
-/

namespace TransportBridge

variable {σ μ α : Type}

/-! ## Runtimes -/

namespace ManagedRuntime

/-- Nothing has been injected that the runtime could fail with. -/
def Works : ManagedRuntime → Prop
  | inProcess => True
  | simulated state => state.unavailableStatus = none ∧ state.nextAttachFailure = none ∧
      state.pendingFault = false

namespace Works

variable {runtime : ManagedRuntime}

theorem available (works : runtime.Works) (thread : ThreadId) (code : Int) :
    runtime.threadStatus thread ≠ .unavailable code := by
  cases runtime with
  | inProcess => exact nofun
  | simulated state =>
      have unreported : state.unavailableStatus = none := works.1
      simp only [threadStatus, SimulatedRuntime.threadStatus, unreported]
      split <;> exact nofun

/-- An attachment succeeds, and the runtime works still. -/
theorem attaches (works : runtime.Works) (thread : ThreadId) :
    (runtime.attach thread).1 = none ∧ (runtime.attach thread).2.Works := by
  cases runtime with
  | inProcess => exact ⟨rfl, trivial⟩
  | simulated state =>
      obtain ⟨available, unfailing, faultless⟩ := works
      have taken : state.attach thread = (none,
          { state.markAttached thread with attachCount := state.attachCount + 1 }) := by
        simp only [SimulatedRuntime.attach, unfailing]
      show (state.attach thread).1 = none ∧
        (ManagedRuntime.simulated (state.attach thread).2).Works
      rw [taken]
      refine ⟨rfl, ?_⟩
      unfold SimulatedRuntime.markAttached
      split <;> exact ⟨available, unfailing, faultless⟩

theorem detach (works : runtime.Works) (thread : ThreadId) : (runtime.detach thread).2.Works := by
  cases runtime <;> exact works

theorem faultless (works : runtime.Works) : runtime.takeFault.1 = false := by
  cases runtime with
  | inProcess => rfl
  | simulated state => exact works.2.2

theorem takeFault (works : runtime.Works) : runtime.takeFault.2.Works := by
  cases runtime with
  | inProcess => exact works
  | simulated state => exact ⟨works.1, works.2.1, rfl⟩

end Works

end ManagedRuntime

/-! ## Guards -/

/-- What the log tells of a context that cannot be had. -/
def AttachFailure.notice (operation : String) : AttachFailure → Notice
  | .pendingFault => .faultPending operation
  | failure => .contextUnavailable operation failure

namespace World

/-- Nothing is different but the runtime. -/
def runtimeSet (world : World σ μ) (runtime : ManagedRuntime) : World σ μ :=
  { world with runtime }

/-- A fault has been looked for, and is cleared. -/
def faultTaken (world : World σ μ) : World σ μ :=
  world.runtimeSet world.runtime.takeFault.2

/-- The failure to have a context is counted and noted. -/
def contextMissed (world : World σ μ) (operation : String) (failure : AttachFailure) :
    World σ μ :=
  (world.count .own Metrics.countAttachFailure).push (.noted (failure.notice operation))

end World

namespace Attachment

theorem fail_runs (operation : String) (failure : AttachFailure) (world : World σ μ) :
    fail operation failure world =
      (.ok (.runtimeAttachment operation failure), world.contextMissed operation failure) := by
  cases failure <;> rfl

/-- A guard goes: the thread is detached if the guard has attached it, and a
failure of that is noted. -/
inductive Gone (held : AttachGuard) (world : World σ μ) : World σ μ → Prop where
  | found (foreign : held.attachedHere = false) : Gone held world world
  | detached (own : held.attachedHere = true) :
      Gone held world (world.runtimeSet (world.runtime.detach world.thread).2)
  | noted (own : held.attachedHere = true) (status : Int) :
      Gone held world ((world.runtimeSet (world.runtime.detach world.thread).2).push
        (.noted (.detachFailed held.operation status)))

theorem drop_runs (held : AttachGuard) (world : World σ μ) :
    ∃ after, drop held world = (.ok (), after) ∧ Gone held world after := by
  obtain ⟨operation, attachedHere⟩ := held
  cases attachedHere with
  | false => exact ⟨world, rfl, .found rfl⟩
  | true =>
      have detach : detachThread world = (.ok (world.runtime.detach world.thread).1,
        world.runtimeSet (world.runtime.detach world.thread).2) := rfl
      have dropped : drop ⟨operation, true⟩ world = _ := bind_of_ok detach
      cases failure : (world.runtime.detach world.thread).1 with
      | none =>
          rw [failure] at dropped
          exact ⟨_, dropped, .detached rfl⟩
      | some status =>
          rw [failure] at dropped
          exact ⟨_, dropped, .noted rfl status⟩

/-- What becomes of a request for a guard. -/
inductive Attaching (operation : String) (world : World σ μ) :
    Except BridgeError AttachGuard → World σ μ → Prop where
  | found (status : world.runtime.threadStatus world.thread = .attached) :
      Attaching operation world (.ok ⟨operation, false⟩) world
  | taken (status : world.runtime.threadStatus world.thread = .detached)
      (attached : (world.runtime.attach world.thread).1 = none) :
      Attaching operation world (.ok ⟨operation, true⟩)
        (world.runtimeSet (world.runtime.attach world.thread).2)
  | unavailable {code : Int}
      (status : world.runtime.threadStatus world.thread = .unavailable code) :
      Attaching operation world
        (.error (.runtimeAttachment operation (.environmentUnavailable code)))
        (world.contextMissed operation (.environmentUnavailable code))
  | failed {code : Int} (status : world.runtime.threadStatus world.thread = .detached)
      (failure : (world.runtime.attach world.thread).1 = some code) :
      Attaching operation world (.error (.runtimeAttachment operation (.attachFailed code)))
        ((world.runtimeSet (world.runtime.attach world.thread).2).contextMissed operation
          (.attachFailed code))

theorem attach_runs (operation : String) (world : World σ μ) :
    ∃ answer after, attach operation world = (.ok answer, after) ∧
      Attaching operation world answer after := by
  have began : attach operation world = _ := bind_of_ok rfl
  cases status : world.runtime.threadStatus world.thread with
  | attached =>
      rw [status] at began
      exact ⟨_, _, began, .found status⟩
  | unavailable code =>
      rw [status] at began
      exact ⟨_, _, began.trans (bind_of_ok (fail_runs _ _ _)), .unavailable status⟩
  | detached =>
      rw [status] at began
      have attach : attachThread world = (.ok (world.runtime.attach world.thread).1,
        world.runtimeSet (world.runtime.attach world.thread).2) := rfl
      have tried := began.trans (bind_of_ok attach)
      cases failure : (world.runtime.attach world.thread).1 with
      | none =>
          rw [failure] at tried
          exact ⟨_, _, tried, .taken status failure⟩
      | some code =>
          rw [failure] at tried
          exact ⟨_, _, tried.trans (bind_of_ok (fail_runs _ _ _)), .failed status failure⟩

/-- Who asks for a guard is told of a runtime that gives none. -/
theorem Attaching.error_eq {operation : String} {world after : World σ μ} {error : BridgeError}
    (attaching : Attaching operation world (.error error) after) :
    ∃ failure, error = .runtimeAttachment operation failure := by
  cases attaching with
  | unavailable => exact ⟨_, rfl⟩
  | failed => exact ⟨_, rfl⟩

/-- A runtime that works gives a guard, and works still. -/
theorem Attaching.of_works {operation : String} {answer : Except BridgeError AttachGuard}
    {world after : World σ μ} (attaching : Attaching operation world answer after)
    (works : world.runtime.Works) : (∃ held, answer = .ok held) ∧ after.runtime.Works := by
  cases attaching with
  | found => exact ⟨⟨_, rfl⟩, works⟩
  | taken => exact ⟨⟨_, rfl⟩, (works.attaches world.thread).2⟩
  | unavailable status => exact absurd status (works.available world.thread _)
  | failed _ failure => cases (works.attaches world.thread).1.symm.trans failure

theorem Attaching.not_works {operation : String} {error : BridgeError} {world after : World σ μ}
    (attaching : Attaching operation world (.error error) after) : ¬ world.runtime.Works := by
  intro works
  obtain ⟨⟨_, given⟩, _⟩ := attaching.of_works works
  cases given

theorem Attaching.not_works_of_fault {operation : String} {held : AttachGuard}
    {world ready : World σ μ} (attaching : Attaching operation world (.ok held) ready)
    (fault : ready.runtime.takeFault.1 = true) : ¬ world.runtime.Works := by
  intro works
  cases (attaching.of_works works).2.faultless.symm.trans fault

/-! ## Contexts -/

/-- The course of a context, whatever is to run in it. -/
inductive Course (operation : String) (world : World σ μ) : Prop where
  /-- There is no guard to be had. -/
  | refused {error : BridgeError} {after : World σ μ}
      (attaching : Attaching operation world (.error error) after)
      (runs : ∀ {α : Type} (thunk : RuntimeContext → BridgeM σ μ α),
        withAttachedContext operation thunk world = (.ok (.error error), after))
  /-- A fault is pending, and the guard goes at once. -/
  | faulty {held : AttachGuard} {ready after : World σ μ}
      (attaching : Attaching operation world (.ok held) ready)
      (fault : ready.runtime.takeFault.1 = true)
      (gone : Gone held (ready.faultTaken.contextMissed operation .pendingFault) after)
      (runs : ∀ {α : Type} (thunk : RuntimeContext → BridgeM σ μ α),
        withAttachedContext operation thunk world =
          (.ok (.error (.runtimeAttachment operation .pendingFault)), after))
  /-- The thunk runs under the guard. -/
  | granted {held : AttachGuard} {ready : World σ μ}
      (attaching : Attaching operation world (.ok held) ready)
      (runs : ∀ {α : Type} (thunk : RuntimeContext → BridgeM σ μ α),
        withAttachedContext operation thunk world =
          (do return .ok (← ensuring (thunk ⟨operation, held.attachedHere⟩) (drop held)) :
            BridgeM σ μ (Except BridgeError α)) ready.faultTaken)

theorem course (operation : String) (world : World σ μ) : Course operation world := by
  obtain ⟨answer, ready, attach, attaching⟩ := attach_runs operation world
  cases answer with
  | error error => exact .refused attaching fun thunk => bind_of_ok attach
  | ok held =>
      have take : takeFault ready = (.ok ready.runtime.takeFault.1, ready.faultTaken) := rfl
      cases fault : ready.runtime.takeFault.1 with
      | false =>
          rw [fault] at take
          exact .granted attaching fun thunk => (bind_of_ok attach).trans (bind_of_ok take)
      | true =>
          rw [fault] at take
          obtain ⟨after, drop, gone⟩ :=
            drop_runs held (ready.faultTaken.contextMissed operation .pendingFault)
          refine .faulty attaching fault gone fun thunk => ?_
          exact (bind_of_ok attach).trans ((bind_of_ok take).trans
            ((bind_of_ok (fail_runs _ _ _)).trans (bind_of_ok drop)))

/-- A runtime that works has a context for every thunk. -/
theorem course_of_works {world : World σ μ} (works : world.runtime.Works) (operation : String) :
    ∃ held ready, Attaching operation world (.ok held) ready ∧ ready.faultTaken.runtime.Works ∧
      ∀ {α : Type} (thunk : RuntimeContext → BridgeM σ μ α),
        withAttachedContext operation thunk world =
          (do return .ok (← ensuring (thunk ⟨operation, held.attachedHere⟩) (drop held)) :
            BridgeM σ μ (Except BridgeError α)) ready.faultTaken := by
  cases course operation world with
  | refused attaching => exact absurd works attaching.not_works
  | faulty attaching fault => exact absurd works (attaching.not_works_of_fault fault)
  | granted attaching runs => exact ⟨_, _, attaching, (attaching.of_works works).2.takeFault, runs⟩

/-- Between the beginning and the end of a thunk nothing else happens to a
context. -/
theorem guarded_runs {held : AttachGuard} {body : BridgeM σ μ α} {ready done after : World σ μ}
    {outcome : Except Panic α} (ran : body ready = (outcome, done))
    (dropped : drop held done = (.ok (), after)) :
    (do return .ok (← ensuring body (drop held)) : BridgeM σ μ (Except BridgeError α)) ready =
      (outcome.map .ok, after) := by
  have ended := ensuring_of_ok ran dropped
  cases outcome with
  | ok result => exact bind_of_ok ended
  | error panic => exact bind_of_error ended

end Attachment

/-! ## Deliveries -/

namespace World

variable (world : World σ Mark) (peer : Peer) (target : TargetId) (event : SocketEvent)

/-- A target is held for a call. -/
def lending (world : World σ Mark) (target : TargetId) : World σ Mark :=
  { world with lent := target :: world.lent }

/-- An event is on its way: the log tells so, and its target is held. -/
def dispatching : World σ Mark :=
  (world.push (.noted (.dispatching peer.handle event.kind
    (if world.config.logPayloadSizes then some event.payloadSize else none)))).lending target

/-- The callback of a target begins. -/
def calling : World σ Mark :=
  world.push (.callback peer target event world.attached?)

/-- A callback that has returned is counted, and one that has panicked is not. -/
def dispatched : Except Panic Unit → World σ Mark
  | .ok _ => world.count .own Metrics.countDispatched
  | .error _ => world

/-- An event that has missed its target is counted, and it is told why. -/
def eventDropped (error : BridgeError) : World σ Mark :=
  (world.count .own Metrics.countDropped).push
    (.noted (.eventDropped peer.handle event.kind error))

end World

namespace Delivery

variable [Custodian σ] {host : Host σ Mark} {peer : Peer} {target : TargetId}
  {event : SocketEvent} {world after : World σ Mark}

/-- A delivery is a context that the target is held for, and what its outcome
leads to. -/
theorem deliver_held {outcome : Except Panic (Except BridgeError Unit)} {ended : World σ Mark}
    (context : Attachment.withAttachedContext event.name (fun _ => invoke host peer target event)
      (world.dispatching peer target event) = (outcome, ended))
    (given : (do Custody.takeBack target; Custody.letGoOfTarget target : BridgeM σ Mark Unit)
      ended = (.ok (), after)) :
    deliver host peer target event world = match outcome with
      | .ok (.ok ()) => (.ok (.ok ()), after.dispatched (.ok ()))
      | .ok (.error error) => (.ok (.error error), after.eventDropped peer event error)
      | .error panic => (.error panic, after) := by
  have began : deliver host peer target event world = _ :=
    (callBind_of_ok rfl).trans (effectBind_of_ok rfl)
  have held : Custody.holdingTarget target (Attachment.withAttachedContext event.name
      fun _ => invoke host peer target event) _ = (outcome, after) :=
    ensuring_of_ok ((bind_of_ok rfl).trans context) given
  rcases outcome with panic | error | ⟨⟩
  · exact began.trans (effectBind_of_error held)
  · exact began.trans ((effectBind_of_ok held).trans (effectBind_of_ok (bind_of_ok rfl)))
  · exact began.trans ((effectBind_of_ok held).trans (effect_of_ok rfl))

/-- Where no context can be had, the event is dropped. -/
theorem deliver_missed {error : BridgeError} {missed : World σ Mark}
    (context : Attachment.withAttachedContext event.name (fun _ => invoke host peer target event)
      (world.dispatching peer target event) = (.ok (.error error), missed))
    (given : (do Custody.takeBack target; Custody.letGoOfTarget target : BridgeM σ Mark Unit)
      missed = (.ok (), after)) :
    deliver host peer target event world =
      (.ok (.error error), after.eventDropped peer event error) :=
  deliver_held context given

/-- Where a context can be had, the delivery ends as the callback does. -/
theorem deliver_called {held : AttachGuard} {ready told done : World σ Mark}
    {outcome : Except Panic Unit}
    (granted : Attachment.withAttachedContext event.name
        (fun _ => invoke host peer target event) (world.dispatching peer target event) =
      (do return .ok (← ensuring (invoke host peer target event) (Attachment.drop held)) :
        BridgeM σ Mark (Except BridgeError Unit)) ready)
    (returned : host.callback peer target event (ready.calling peer target event) =
      (outcome, told))
    (dropped : Attachment.drop held told = (.ok (), done))
    (given : (do Custody.takeBack target; Custody.letGoOfTarget target : BridgeM σ Mark Unit)
      done = (.ok (), after)) :
    deliver host peer target event world = (outcome.map .ok, after.dispatched outcome) := by
  have invoked : invoke host peer target event ready = (outcome, told) :=
    ((bind_of_ok rfl).trans (bind_of_ok rfl)).trans returned
  have ran := deliver_held (granted.trans (Attachment.guarded_runs invoked dropped)) given
  cases outcome with
  | ok nothing => exact ran
  | error panic => exact ran

end Delivery

end TransportBridge
