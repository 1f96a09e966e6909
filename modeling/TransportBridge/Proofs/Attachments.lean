import TransportBridge.Proofs.AccordCalls
import TransportBridge.Proofs.Steadiness

/-!
Contract: attachments of threads are balanced.

Contexts lie within contexts to any depth, also by way of the bridge's own calls,
with failures of the runtime switched on and off between any two levels, and end
in any way, panics included. Every one of them leaves the threads attached as it
has found them.

Owns: user code with contexts of its own, guards that are kept and dropped in any
order, and the balance of attachments.

Does not own: the status of a call whose event has found no context.
-/

namespace TransportBridge

variable {σ α : Type}

/-! ## Code with contexts of its own -/

/-- User code that runs thunks in managed contexts besides making calls on the
bridge. It tells the runtime to fail in any way, and attaches and detaches
nothing by itself. -/
inductive ContextCode (σ α : Type) where
  | finish (result : α)
  | unwind (panic : Panic)
  | look (next : World σ Mark → ContextCode σ α)
  /-- Another factory is installed, and the host changes what it keeps. -/
  | rearrange (change : Surroundings σ → Option FactoryId × σ) (next : ContextCode σ α)
  | control (order : RuntimeControl) (indirect : order ≠ .attachThread) (next : ContextCode σ α)
  | call (made : BridgeCall) (next : Reply → ContextCode σ α)
  /-- What becomes of the context tells of a panic, too; code that does not want
  to stop it unwinds in its turn. -/
  | within (operation : String) (thunk : RuntimeContext → ContextCode σ α)
      (next : Except Panic (Except BridgeError α) → ContextCode σ α)

/-- The code of all that the bridge calls. -/
structure ContextBehaviour (σ : Type) where
  callback : Peer → TargetId → SocketEvent → ContextCode σ Unit
  createHandle : Address → Framing → ContextCode σ (Except ErrorRecord Handle)
  engine : Handle → EngineCall → ContextCode σ Unit
  createTarget : FactoryId → Handle → Address → Bytes →
    ContextCode σ (Except ErrorRecord TargetId)

def ContextCode.run (make : BridgeCall → BridgeM σ Mark Reply) :
    ContextCode σ α → BridgeM σ Mark α
  | .finish result => return result
  | .unwind panic => throw panic
  | .look next => do (next (← get)).run make
  | .rearrange change next => do
    modify fun world =>
      let (factory, host) := change world.surroundings
      { world with factory, host }
    next.run make
  | .control order _ next => do
    modify fun world => { world with runtime := world.runtime.control world.thread order }
    next.run make
  | .call made next => do (next (← make made)).run make
  | .within operation thunk next => do
    let outcome ← catchPanic (Attachment.withAttachedContext operation fun context =>
      (thunk context).run make)
    (next outcome).run make

def ContextBehaviour.host (behaviour : ContextBehaviour σ)
    (make : BridgeCall → BridgeM σ Mark Reply) : Host σ Mark where
  callback peer target event := (behaviour.callback peer target event).run make
  createHandle address framing := (behaviour.createHandle address framing).run make
  engine handle call := (behaviour.engine handle call).run make
  createTarget factory handle address options :=
    (behaviour.createTarget factory handle address options).run make

/-- Orders that attach nothing leave the runtime balanced. -/
theorem ManagedRuntime.balances_control (runtime : ManagedRuntime) (thread : ThreadId)
    {order : RuntimeControl} (indirect : order ≠ .attachThread) :
    runtime.Balances (runtime.control thread order) := by
  cases runtime with
  | inProcess => exact .inProcess
  | simulated state =>
      cases order with
      | attachThread => exact absurd rfl indirect
      | _ => exact .simulated ⟨fun _ => rfl, rfl⟩

theorem ContextCode.run_inStep {make : BridgeCall → BridgeM σ Mark Reply}
    (makes : MakesStep (Scope.whole False) Ties.steady make make) (code : ContextCode σ α) :
    InStep Ties.steady Eq (code.run make) (code.run make) := by
  induction code with
  | finish result => exact .pure rfl
  | unwind panic => exact .unwind panic
  | look next inductionHypothesis =>
      refine .looking ?_
      rintro _ ⟨start, rfl⟩ world _ ⟨rfl, inside⟩
      exact inductionHypothesis world
  | rearrange change next inductionHypothesis =>
      refine InStep.andThen (.modify ?_) fun _ => inductionHypothesis
      rintro _ ⟨start, rfl⟩ world _ ⟨rfl, inside⟩
      exact ⟨rfl, inside.trans (.of_trace rfl rfl rfl)⟩
  | control order indirect next inductionHypothesis =>
      refine InStep.andThen (.modify ?_) fun _ => inductionHypothesis
      rintro _ ⟨start, rfl⟩ world _ ⟨rfl, inside⟩
      exact ⟨rfl, inside.trans (.of_runtime (world.runtime.balances_control world.thread indirect))⟩
  | call made next inductionHypothesis =>
      exact (makes (Scope.permits_whole False made)).andThen inductionHypothesis
  | within operation thunk next thunkHypothesis nextHypothesis =>
      have contained : InStep Ties.steady Eq
          (Attachment.withAttachedContext operation fun context => (thunk context).run make)
          (Attachment.withAttachedContext operation fun context => (thunk context).run make) := by
        refine inStep_steady_iff.mpr ⟨rfl, fun world => ?_⟩
        exact Attachment.withAttachedContext_steady operation world fun context =>
          (inStep_steady_iff.mp (thunkHypothesis context)).2
      exact ((InStep.catchPanic contained).weaken fun _ _ => Answers.eq).andThen nextHypothesis

theorem ContextBehaviour.host_keepsStep (behaviour : ContextBehaviour σ)
    {make : BridgeCall → BridgeM σ Mark Reply}
    (makes : MakesStep (Scope.whole False) Ties.steady make make) :
    (behaviour.host make).KeepsStep (Scope.whole False) Ties.steady (behaviour.host make) where
  callback _ _ _ _ := ContextCode.run_inStep makes _
  engine _ _ := ContextCode.run_inStep makes _
  createHandle _ _ _ := ContextCode.run_inStep makes _
  createTarget _ _ _ _ _ := ContextCode.run_inStep makes _

section Runs

variable [Custodian σ]

/-- Makes a call, whose callbacks and engine calls make theirs one level
deeper. -/
def ContextBehaviour.make (behaviour : ContextBehaviour σ) : Nat → BridgeCall →
    BridgeM σ Mark Reply :=
  BridgeCall.makeOver behaviour.host

theorem ContextBehaviour.make_inStep (behaviour : ContextBehaviour σ) (depth : Nat) :
    MakesStep (Scope.whole False) Ties.steady (behaviour.make depth) (behaviour.make depth) := by
  refine World.Steady.accord.makeOver (fun {make make'} makes => ?_) depth
  obtain rfl : make = make' := funext fun call =>
    (inStep_steady_iff.mp (makes (Scope.permits_whole False call))).1
  exact behaviour.host_keepsStep makes

theorem ContextBehaviour.make_steady (behaviour : ContextBehaviour σ) (depth : Nat)
    (call : BridgeCall) (world : World σ Mark) :
    world.Steady (behaviour.make depth call world).2 :=
  (inStep_steady_iff.mp (behaviour.make_inStep depth (Scope.permits_whole False call))).2 world

theorem ContextCode.run_steady (behaviour : ContextBehaviour σ) (depth : Nat)
    (code : ContextCode σ α) (world : World σ Mark) :
    world.Steady (code.run (behaviour.make depth) world).2 :=
  (inStep_steady_iff.mp (ContextCode.run_inStep (behaviour.make_inStep depth) code)).2 world

end Runs

/-! ## Guards in any order -/

/-- How many of the guards have attached the thread. -/
def liveGuards (guards : List AttachGuard) : Nat :=
  guards.countP (·.attachedHere)

/-- What is done on a thread by code that keeps its guards and drops them when it
likes. -/
inductive GuardMove (σ : Type) where
  | take (operation : String)
  | drop (position : Nat)
  | control (order : RuntimeControl)
  | run (code : ContextCode σ Unit)

def GuardMove.perform (make : BridgeCall → BridgeM σ Mark Reply)
    (standing : List AttachGuard × World σ Mark) : GuardMove σ → List AttachGuard × World σ Mark
  | .take operation =>
    match Attachment.attach operation standing.2 with
    | (.ok (.ok held), after) => (standing.1 ++ [held], after)
    | (_, after) => (standing.1, after)
  | .drop position =>
    match standing.1[position]? with
    | some held => (standing.1.eraseIdx position, (Attachment.drop held standing.2).2)
    | none => standing
  | .control order =>
    (standing.1, { standing.2 with
      runtime := standing.2.runtime.control standing.2.thread order })
  | .run code => (standing.1, (code.run make standing.2).2)

/-- Since `start`, what has been attached and not detached is what guards are live
for, which is one at most, on a thread that is attached. -/
structure Guarded (start : SimulatedRuntime) (guards : List AttachGuard) (world : World σ Mark)
    (runtime : SimulatedRuntime) : Prop where
  runs : world.runtime = .simulated runtime
  counts : runtime.attachCount + start.detachCount =
    start.attachCount + runtime.detachCount + liveGuards guards
  one : liveGuards guards ≤ 1
  attached : liveGuards guards = 1 → runtime.isAttached world.thread = true

namespace Guarded

variable {start runtime : SimulatedRuntime} {guards : List AttachGuard}
  {world after : World σ Mark}

theorem steady (guarded : Guarded start guards world runtime) (steady : world.Steady after) :
    ∃ later, Guarded start guards after later := by
  have balances := steady.runtime
  rw [guarded.runs] at balances
  generalize ended : after.runtime = last at balances
  cases balances with
  | @simulated _ later balances =>
      refine ⟨later, ended, ?_, guarded.one, fun live => ?_⟩
      · have counts := guarded.counts
        have balanced := balances.counts
        omega
      · rw [steady.thread, balances.isAttached]
        exact guarded.attached live

theorem control (guarded : Guarded start guards world runtime) (order : RuntimeControl) :
    ∃ later, Guarded start guards
      { world with runtime := world.runtime.control world.thread order } later := by
  by_cases direct : order = .attachThread
  · subst direct
    refine ⟨runtime.markAttached world.thread, ?_, ?_, guarded.one, fun _ => ?_⟩
    · rw [guarded.runs]
      rfl
    · have counts := guarded.counts
      rw [SimulatedRuntime.detachCount_markAttached, SimulatedRuntime.attachCount_markAttached]
      exact counts
    · rw [SimulatedRuntime.isAttached_markAttached]
      simp
  · exact guarded.steady (.of_runtime (world.runtime.balances_control world.thread direct))

theorem liveGuards_concat (guards : List AttachGuard) (operation : String) (attachedHere : Bool) :
    liveGuards (guards ++ [⟨operation, attachedHere⟩]) =
      liveGuards guards + (if attachedHere then 1 else 0) := by
  unfold liveGuards
  rw [List.countP_append]
  cases attachedHere <;> rfl

/-- A guard attaches the thread only where it is detached, so that no other one is
live. -/
theorem take (guarded : Guarded start guards world runtime)
    (make : BridgeCall → BridgeM σ Mark Reply) (operation : String) :
    ∃ later, Guarded start (GuardMove.perform make (guards, world) (.take operation)).1
      (GuardMove.perform make (guards, world) (.take operation)).2 later := by
  unfold GuardMove.perform
  simp only
  obtain ⟨answer, after, ran, attaching⟩ := Attachment.attach_runs operation world
  rw [ran]
  cases attaching with
  | unavailable status => exact guarded.steady (Attachment.Attaching.unavailable status).steady
  | failed status failure => exact guarded.steady (Attachment.Attaching.failed status failure).steady
  | found status =>
      have same := liveGuards_concat guards operation false
      simp only [Bool.false_eq_true, if_false, Nat.add_zero] at same
      exact ⟨runtime, guarded.runs, same ▸ guarded.counts, same ▸ guarded.one,
        same ▸ guarded.attached⟩
  | taken status attached =>
      rw [guarded.runs] at status attached
      have absent := ManagedRuntime.absent_of_threadStatus status
      have unfailing := ManagedRuntime.unfailing_of_attach attached
      have none : liveGuards guards = 0 := by
        have one := guarded.one
        by_cases live : liveGuards guards = 1
        · rw [guarded.attached live] at absent
          cases absent
        · omega
      refine ⟨(runtime.attach world.thread).2, ?_, ?_, ?_, fun _ => ?_⟩
      · simp only
        rw [guarded.runs]
        rfl
      · have counts := guarded.counts
        rw [liveGuards_concat, SimulatedRuntime.attach_of_unfailing unfailing]
        simp only [SimulatedRuntime.detachCount_markAttached, if_true]
        omega
      · rw [liveGuards_concat]
        simp [none]
      · rw [SimulatedRuntime.isAttached_attach unfailing]
        simp [World.runtimeSet]

theorem liveGuards_eraseIdx {position : Nat} {held : AttachGuard}
    (found : guards[position]? = some held) :
    liveGuards (guards.eraseIdx position) + (if held.attachedHere then 1 else 0) =
      liveGuards guards := by
  unfold liveGuards
  induction guards generalizing position with
  | nil => simp at found
  | cons first rest inductionHypothesis =>
      cases position with
      | zero =>
          obtain rfl : first = held := by simpa using found
          rw [List.eraseIdx_cons_zero, List.countP_cons]
      | succ position =>
          have later := inductionHypothesis (by simpa using found)
          rw [List.eraseIdx_cons_succ, List.countP_cons, List.countP_cons]
          omega

theorem drop (guarded : Guarded start guards world runtime)
    (make : BridgeCall → BridgeM σ Mark Reply) (position : Nat) :
    ∃ later, Guarded start (GuardMove.perform make (guards, world) (.drop position)).1
      (GuardMove.perform make (guards, world) (.drop position)).2 later := by
  unfold GuardMove.perform
  simp only
  cases found : guards[position]? with
  | none => exact ⟨runtime, guarded⟩
  | some held =>
      have fewer := liveGuards_eraseIdx found
      obtain ⟨after, dropped, gone⟩ := Attachment.drop_runs held world
      have steady := gone.steady
      simp only [dropped]
      cases attachedHere : held.attachedHere with
      | false =>
          simp only [attachedHere, Bool.false_eq_true, if_false, Nat.add_zero] at steady fewer
          refine Guarded.steady ⟨guarded.runs, ?_, ?_, ?_⟩ steady
          · rw [fewer]
            exact guarded.counts
          · rw [fewer]
            exact guarded.one
          · rw [fewer]
            exact guarded.attached
      | true =>
          simp only [attachedHere, if_true] at steady fewer
          have counts := guarded.counts
          have one := guarded.one
          have detached : Guarded start (guards.eraseIdx position)
              { world with runtime := (world.runtime.detach world.thread).2 }
              (runtime.detach world.thread).2 := by
            refine ⟨?_, ?_, ?_, ?_⟩
            · simp only
              rw [guarded.runs]
              rfl
            · simp only [SimulatedRuntime.detach]
              omega
            · omega
            · omega
          exact detached.steady steady

theorem perform [Custodian σ] (guarded : Guarded start guards world runtime)
    (behaviour : ContextBehaviour σ) (depth : Nat) (move : GuardMove σ) :
    ∃ later, Guarded start (GuardMove.perform (behaviour.make depth) (guards, world) move).1
      (GuardMove.perform (behaviour.make depth) (guards, world) move).2 later := by
  cases move with
  | take operation => exact guarded.take _ operation
  | drop position => exact guarded.drop _ position
  | control order => exact guarded.control order
  | run code => exact guarded.steady (code.run_steady behaviour depth world)

/-- Guards that nobody has taken yet. -/
theorem untaken (runs : world.runtime = .simulated runtime) : Guarded runtime [] world runtime :=
  ⟨runs, rfl, Nat.zero_le 1, fun one => absurd one Nat.zero_ne_one⟩

/-- Guards are taken and dropped in any order, and other things go on in between. -/
theorem moves [Custodian σ] {standing : List AttachGuard × World σ Mark}
    (guarded : Guarded start standing.1 standing.2 runtime) (behaviour : ContextBehaviour σ)
    (depth : Nat) (moves : List (GuardMove σ)) :
    ∃ later, Guarded start
      (moves.foldl (GuardMove.perform (behaviour.make depth)) standing).1
      (moves.foldl (GuardMove.perform (behaviour.make depth)) standing).2 later := by
  induction moves generalizing standing runtime with
  | nil => exact ⟨runtime, guarded⟩
  | cons move rest inductionHypothesis =>
      obtain ⟨later, guarded⟩ := guarded.perform behaviour depth move
      exact inductionHypothesis guarded

end Guarded

/-! ## Balance -/

/-- The thunk of a call begins in `ready` with `context`, whatever it is: what it
gives is what the call gives. -/
def Attachment.Begins (operation : String) (world : World σ Mark) (context : RuntimeContext)
    (ready : World σ Mark) : Prop :=
  ∀ {α : Type} (thunk : RuntimeContext → BridgeM σ Mark α),
    (Attachment.withAttachedContext operation thunk world).1 = (thunk context ready).1.map .ok

namespace Attachment

variable {operation : String} {world : World σ Mark} {context : RuntimeContext}
  {ready : World σ Mark}

/-- A thunk begins in one world only. -/
theorem Begins.unique (begins : Begins operation world context ready) {context' : RuntimeContext}
    {ready' : World σ Mark} (begins' : Begins operation world context' ready') :
    context = context' ∧ ready = ready' := by
  let telling (context : RuntimeContext) : BridgeM σ Mark (RuntimeContext × World σ Mark) := do
    return (context, ← get)
  have same : (.ok (.ok (context, ready)) : Except Panic (Except BridgeError _)) =
      .ok (.ok (context', ready')) := (begins telling).symm.trans (begins' telling)
  simpa using same

/-- What becomes of a call for a context: the world is steady, and the thunk has
run, on an attached thread, just where the call has not been refused. -/
structure Contained (operation : String) (world : World σ Mark)
    (ended : Except Panic (Except BridgeError α) × World σ Mark) : Prop where
  steady : world.Steady ended.2
  runs : (∃ context ready, Begins operation world context ready) ↔
    ¬ ∃ failure, ended.1 = .ok (.error (.runtimeAttachment operation failure))
  attached : ∀ context ready, Begins operation world context ready →
    ready.attached? = world.runtime.whenAttached

theorem contained (operation : String) (world : World σ Mark)
    (thunk : RuntimeContext → BridgeM σ Mark α)
    (steady : world.Steady (withAttachedContext operation thunk world).2) :
    Contained operation world (withAttachedContext operation thunk world) := by
  cases attempt operation world with
  | refused failure after _ refuses =>
      have never : ¬ ∃ context ready, Begins operation world context ready := by
        rintro ⟨context, ready, begins⟩
        have ended := begins (fun _ => (throw .other : BridgeM σ Mark Unit))
        rw [refuses] at ended
        cases ended
      refine ⟨steady, ⟨fun begins => absurd begins never, fun refused => absurd ?_ refused⟩,
        fun context ready begins => absurd ⟨context, ready, begins⟩ never⟩
      rw [refuses]
      exact ⟨failure, rfl⟩
  | granted context ready attached runs restores =>
      have begins : Begins operation world context ready := runs
      refine ⟨steady, ⟨fun _ => ?_, fun _ => ⟨context, ready, begins⟩⟩,
        fun context' ready' begins' => ?_⟩
      · rintro ⟨failure, ended⟩
        rw [begins] at ended
        cases outcome : (thunk context ready).1 <;> rw [outcome] at ended <;> cases ended
      · obtain ⟨_, rfl⟩ := begins.unique begins'
        exact attached

end Attachment

/-- Attachments are balanced whatever fails and whatever panics: across every
call of the bridge, every piece of code with contexts in it, and every context,
be it the code's own or that of a delivery. Where guards are kept and dropped in
any order, those that have attached the thread make up the difference, and there
is one of them at most. -/
theorem ContextBehaviour.attachments_balanced [Custodian σ] (behaviour : ContextBehaviour σ)
    (depth : Nat) {world : World σ Mark} {runtime : SimulatedRuntime}
    (simulated : world.runtime = .simulated runtime) :
    (∀ call : BridgeCall, world.Steady (behaviour.make depth call world).2) ∧
    (∀ {α : Type} (code : ContextCode σ α),
      world.Steady (code.run (behaviour.make depth) world).2) ∧
    (∀ {α : Type} (operation : String) (thunk : RuntimeContext → ContextCode σ α),
      Attachment.Contained operation world (Attachment.withAttachedContext operation
        (fun context => (thunk context).run (behaviour.make depth)) world)) ∧
    (∀ (peer : Peer) (target : TargetId) (event : SocketEvent),
      Attachment.Contained event.name world (Attachment.withAttachedContext event.name
        (fun _ => Delivery.invoke (behaviour.host (behaviour.make depth)) peer target event)
        world)) ∧
    ∀ moves : List (GuardMove σ),
      let standing := moves.foldl (GuardMove.perform (behaviour.make depth)) ([], world)
      ∃ later, Guarded runtime standing.1 standing.2 later := by
  refine ⟨fun call => behaviour.make_steady depth call world,
    fun code => code.run_steady behaviour depth world, fun operation thunk => ?_,
    fun peer target event => ?_, fun moves => (Guarded.untaken simulated).moves behaviour depth moves⟩
  · refine Attachment.contained operation world _ ?_
    exact Attachment.withAttachedContext_steady operation world fun context =>
      (thunk context).run_steady behaviour depth
  · refine Attachment.contained event.name world _ ?_
    have hosts := behaviour.host_keepsStep (behaviour.make_inStep depth)
    have owns : (Scope.whole False).Owns peer := ⟨trivial, trivial⟩
    have ownsTarget : (Scope.whole False).targets target := trivial
    have inStep := World.Steady.accord.context owns ownsTarget event
      (hosts.callback owns ownsTarget event)
    exact (inStep_steady_iff.mp inStep).2 world

/-! ### A context that is left by a panic -/

namespace Bystander

/-- Nothing answers, and no target does anything. -/
def idle : ContextBehaviour Bystander where
  callback _ _ _ := .finish ()
  createHandle _ _ := .unwind .other
  engine _ _ := .finish ()
  createTarget _ _ _ _ := .unwind .other

/-- Inside a context a fault is injected, which the next context falls over; the
code around that one panics, and nobody stops it. -/
def fallingOver : ContextCode Bystander Unit :=
  .within "outer" (fun _ => .control .injectFault (by decide)
    (.within "inner" (fun _ => .finish ()) fun _ => .unwind .other)) fun _ => .unwind .other

/-- A bridge over a simulated runtime. -/
def simulating : World Bystander Mark :=
  .fresh {} ⟨.simulated {}, ⟨0⟩, none, {}⟩

end Bystander

theorem ContextBehaviour.attachments_balanced_of_fallen_over :
    Bystander.simulating.runtime = .simulated {} ∧
    Bystander.simulating.Steady
      (Bystander.fallingOver.run (Bystander.idle.make 0) Bystander.simulating).2 ∧
    (Bystander.fallingOver.run (Bystander.idle.make 0) Bystander.simulating).2.runtime.view? ⟨0⟩ =
      some ⟨1, 1, false⟩ := by
  have simulated : Bystander.simulating.runtime = .simulated {} := rfl
  refine ⟨simulated, ?_, by decide +kernel⟩
  exact (attachments_balanced Bystander.idle 0 simulated).2.1 Bystander.fallingOver

end TransportBridge
