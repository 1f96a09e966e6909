import TransportBridge.Proofs.Accord
import TransportBridge.Proofs.Calm

/-!
Contract: worlds that are steady as to the threads' attachments.

A managed context is given back the way it was taken: if the code inside it
leaves the runtime balanced, then so does the context, for the guard that has
attached the running thread detaches it again on every way out.

Owns: balanced runtimes, steady worlds, what a guard restores, and that
computations of the bridge are in accord with themselves as to steadiness.

Does not own: the code that runs in contexts.
-/

namespace TransportBridge

variable {σ μ α : Type}

/-! ## Runtimes -/

/-- Every thread is attached as before, and as many attachments as detachments
have been counted in between. -/
structure SimulatedRuntime.Balances (before after : SimulatedRuntime) : Prop where
  isAttached (thread : ThreadId) : after.isAttached thread = before.isAttached thread
  counts : after.attachCount + before.detachCount = before.attachCount + after.detachCount

namespace SimulatedRuntime

variable {runtime before middle after : SimulatedRuntime} {thread : ThreadId}

theorem Balances.refl (runtime : SimulatedRuntime) : runtime.Balances runtime :=
  ⟨fun _ => rfl, rfl⟩

theorem Balances.trans (one : before.Balances middle) (two : middle.Balances after) :
    before.Balances after := by
  refine ⟨fun thread => (two.isAttached thread).trans (one.isAttached thread), ?_⟩
  have first := one.counts
  have second := two.counts
  omega

theorem isAttached_markAttached (runtime : SimulatedRuntime) (thread other : ThreadId) :
    (runtime.markAttached thread).isAttached other =
      (decide (other = thread) || runtime.isAttached other) := by
  unfold markAttached
  by_cases attached : runtime.isAttached thread = true
  · rw [if_pos attached]
    by_cases same : other = thread
    · simp [same, attached]
    · simp [same]
  · rw [if_neg attached]
    by_cases same : other = thread <;> simp [isAttached, same]

theorem attach_of_failing {status : Int} (failing : runtime.nextAttachFailure = some status)
    (thread : ThreadId) :
    runtime.attach thread = (some status, { runtime with nextAttachFailure := none }) := by
  unfold attach
  rw [failing]

theorem attach_of_unfailing (unfailing : runtime.nextAttachFailure = none) (thread : ThreadId) :
    runtime.attach thread =
      (none, { runtime.markAttached thread with attachCount := runtime.attachCount + 1 }) := by
  unfold attach
  rw [unfailing]

theorem detachCount_markAttached (runtime : SimulatedRuntime) (thread : ThreadId) :
    (runtime.markAttached thread).detachCount = runtime.detachCount := by
  unfold markAttached
  split <;> rfl

theorem attachCount_markAttached (runtime : SimulatedRuntime) (thread : ThreadId) :
    (runtime.markAttached thread).attachCount = runtime.attachCount := by
  unfold markAttached
  split <;> rfl

theorem isAttached_detach (runtime : SimulatedRuntime) (thread other : ThreadId) :
    (runtime.detach thread).2.isAttached other =
      (decide (other ≠ thread) && runtime.isAttached other) := by
  simp only [detach, isAttached, List.contains_eq_mem, List.mem_filter]
  by_cases same : other = thread <;> simp [same]

theorem isAttached_attach (unfailing : runtime.nextAttachFailure = none)
    (thread other : ThreadId) :
    (runtime.attach thread).2.isAttached other =
      (decide (other = thread) || runtime.isAttached other) := by
  rw [attach_of_unfailing unfailing]
  exact isAttached_markAttached runtime thread other

end SimulatedRuntime

namespace ManagedRuntime

/-- Balanced, where the runtime keeps account. -/
inductive Balances : ManagedRuntime → ManagedRuntime → Prop where
  | inProcess : Balances inProcess inProcess
  | simulated {before after : SimulatedRuntime} (balances : before.Balances after) :
      Balances (simulated before) (simulated after)

/-- What the runtime tells of a thread that is attached. -/
def whenAttached : ManagedRuntime → Option Bool
  | inProcess => none
  | simulated _ => some true

variable {runtime before middle after : ManagedRuntime} {thread : ThreadId}

theorem Balances.refl (runtime : ManagedRuntime) : runtime.Balances runtime := by
  cases runtime with
  | inProcess => exact .inProcess
  | simulated state => exact .simulated (.refl state)

theorem Balances.trans (one : before.Balances middle) (two : middle.Balances after) :
    before.Balances after := by
  cases one with
  | inProcess => exact two
  | simulated first =>
      cases two with
      | simulated second => exact .simulated (first.trans second)

theorem Balances.isAttached? (balances : before.Balances after) (thread : ThreadId) :
    after.isAttached? thread = before.isAttached? thread := by
  cases balances with
  | inProcess => rfl
  | simulated balances => exact congrArg some (balances.isAttached thread)

theorem Balances.whenAttached (balances : before.Balances after) :
    after.whenAttached = before.whenAttached := by
  cases balances <;> rfl

theorem balances_takeFault (runtime : ManagedRuntime) : runtime.Balances runtime.takeFault.2 := by
  cases runtime with
  | inProcess => exact .inProcess
  | simulated state => exact .simulated ⟨fun _ => rfl, rfl⟩

theorem attach_simulated (state : SimulatedRuntime) (thread : ThreadId) :
    (simulated state).attach thread =
      ((state.attach thread).1, simulated (state.attach thread).2) := rfl

/-- Runtimes that tell of threads in the same way do so of attached ones. -/
theorem whenAttached_of_isAttached? (same : runtime.isAttached? thread = after.whenAttached) :
    runtime.whenAttached = after.whenAttached := by
  cases runtime <;> cases after <;> first | rfl | cases same

theorem whenAttached_attach (runtime : ManagedRuntime) (thread : ThreadId) :
    (runtime.attach thread).2.whenAttached = runtime.whenAttached := by
  cases runtime <;> rfl

/-- An attachment that fails is not counted. -/
theorem balances_attach {status : Int} (failed : (runtime.attach thread).1 = some status) :
    runtime.Balances (runtime.attach thread).2 := by
  cases runtime with
  | inProcess => cases failed
  | simulated state =>
      rw [attach_simulated] at failed ⊢
      cases injected : state.nextAttachFailure with
      | none => simp [SimulatedRuntime.attach_of_unfailing injected] at failed
      | some status =>
          rw [SimulatedRuntime.attach_of_failing injected]
          exact .simulated ⟨fun _ => rfl, rfl⟩

theorem unfailing_of_attach {state : SimulatedRuntime} (attached : (state.attach thread).1 = none) :
    state.nextAttachFailure = none := by
  cases injected : state.nextAttachFailure with
  | none => rfl
  | some status => simp [SimulatedRuntime.attach_of_failing injected] at attached

theorem isAttached?_attach (attached : (runtime.attach thread).1 = none) :
    (runtime.attach thread).2.isAttached? thread = runtime.whenAttached := by
  cases runtime with
  | inProcess => rfl
  | simulated state =>
      show some ((state.attach thread).2.isAttached thread) = some true
      rw [SimulatedRuntime.isAttached_attach (unfailing_of_attach attached)]
      simp

theorem isAttached?_of_threadStatus (attached : runtime.threadStatus thread = .attached) :
    runtime.isAttached? thread = runtime.whenAttached := by
  cases runtime with
  | inProcess => rfl
  | simulated state =>
      refine congrArg some ?_
      unfold threadStatus SimulatedRuntime.threadStatus at attached
      cases reported : state.unavailableStatus <;> cases present : state.isAttached thread <;>
        simp [reported, present] at attached ⊢

theorem absent_of_threadStatus {state : SimulatedRuntime}
    (detached : state.threadStatus thread = .detached) : state.isAttached thread = false := by
  unfold SimulatedRuntime.threadStatus at detached
  cases reported : state.unavailableStatus <;> cases present : state.isAttached thread <;>
    simp [reported, present] at detached ⊢

/-- Whoever attaches a detached thread and detaches it again leaves the runtime
balanced, if what lies in between does. -/
theorem balances_detach (detached : runtime.threadStatus thread = .detached)
    (attached : (runtime.attach thread).1 = none)
    (between : (runtime.attach thread).2.Balances after) :
    runtime.Balances (after.detach thread).2 := by
  cases runtime with
  | inProcess => cases detached
  | simulated state =>
      have unfailing : state.nextAttachFailure = none := unfailing_of_attach attached
      have absent : state.isAttached thread = false := absent_of_threadStatus detached
      rw [attach_simulated] at between
      cases between with
      | @simulated _ after between =>
          have restored : state.Balances (after.detach thread).2 := by
            refine ⟨fun other => ?_, ?_⟩
            · rw [SimulatedRuntime.isAttached_detach, between.isAttached,
                SimulatedRuntime.isAttached_attach unfailing]
              by_cases same : other = thread
              · simp [same, absent]
              · simp [same]
            · have counts := between.counts
              rw [SimulatedRuntime.attach_of_unfailing unfailing] at counts
              simp only [SimulatedRuntime.detachCount_markAttached] at counts
              simp only [SimulatedRuntime.detach]
              omega
          exact .simulated restored

end ManagedRuntime

/-! ## Worlds -/

/-- A callback begins on a thread that is attached. -/
def Moment.InContext (runtime : ManagedRuntime) : Moment μ → Prop
  | .callback _ _ _ attached => attached = runtime.whenAttached
  | _ => True

/-- The same thread goes on, the runtime is balanced, and the callbacks that have
begun in between have begun on an attached thread. -/
structure World.Steady (before after : World σ Mark) : Prop where
  thread : after.thread = before.thread
  runtime : before.runtime.Balances after.runtime
  trace : ∃ moments, after.trace.toList = before.trace.toList ++ moments ∧
    ∀ moment ∈ moments, moment.InContext before.runtime

namespace World.Steady

variable {world before middle after : World σ Mark}

theorem of_trace (thread : after.thread = before.thread) (runtime : after.runtime = before.runtime)
    (trace : after.trace = before.trace) : before.Steady after where
  thread := thread
  runtime := runtime ▸ .refl _
  trace := ⟨[], by rw [trace, List.append_nil], fun _ member => absurd member List.not_mem_nil⟩

theorem refl (world : World σ Mark) : world.Steady world :=
  .of_trace rfl rfl rfl

theorem trans (one : before.Steady middle) (two : middle.Steady after) : before.Steady after := by
  refine ⟨two.thread.trans one.thread, one.runtime.trans two.runtime, ?_⟩
  obtain ⟨first, same, inContext⟩ := one.trace
  obtain ⟨second, same', inContext'⟩ := two.trace
  refine ⟨first ++ second, by rw [same', same, List.append_assoc], fun moment member => ?_⟩
  rcases List.mem_append.mp member with early | late
  · exact inContext moment early
  · have told := inContext' moment late
    cases moment with
    | callback peer target event attached => exact told.trans one.runtime.whenAttached
    | _ => trivial

theorem push {moment : Moment Mark} (inContext : moment.InContext world.runtime) :
    world.Steady (world.push moment) where
  thread := rfl
  runtime := .refl _
  trace := by
    refine ⟨[moment], Array.toList_push, fun other member => ?_⟩
    rw [List.mem_singleton.mp member]
    exact inContext

/-- The runtime is asked for something that balances. -/
theorem of_runtime {runtime : ManagedRuntime} (balances : world.runtime.Balances runtime) :
    world.Steady { world with runtime } where
  thread := rfl
  runtime := balances
  trace := ⟨[], (List.append_nil _).symm, fun _ member => absurd member List.not_mem_nil⟩

end World.Steady

/-! ## Contexts -/

namespace Attachment

variable {world : World σ Mark}

theorem contextMissed_steady (operation : String) (failure : AttachFailure) (world : World σ Mark) :
    world.Steady (world.contextMissed operation failure) := by
  have counted : world.Steady (world.count .own Metrics.countAttachFailure) :=
    .of_trace rfl rfl rfl
  exact counted.trans (.push trivial)

/-- A thread that is attached, and detached after whatever was steady. -/
theorem restores_attached (detached : world.runtime.threadStatus world.thread = .detached)
    (attached : (world.runtime.attach world.thread).1 = none) {done : World σ Mark}
    (steady : World.Steady { world with runtime := (world.runtime.attach world.thread).2 } done) :
    world.Steady { done with runtime := (done.runtime.detach done.thread).2 } where
  thread := steady.thread
  runtime := by
    rw [steady.thread]
    exact ManagedRuntime.balances_detach detached attached steady.runtime
  trace := by
    obtain ⟨moments, same, inContext⟩ := steady.trace
    refine ⟨moments, same, fun moment member => ?_⟩
    have told := inContext moment member
    cases moment with
    | callback peer target event attached =>
        exact told.trans (ManagedRuntime.whenAttached_attach world.runtime world.thread)
    | _ => trivial

section Guards

variable {operation : String} {held : AttachGuard} {ready done after : World σ Mark}

/-- A guard that goes detaches the thread if it has attached it. -/
theorem Gone.steady (gone : Gone held world after) :
    World.Steady (if held.attachedHere then
      { world with runtime := (world.runtime.detach world.thread).2 } else world) after := by
  cases gone with
  | found foreign =>
      rw [foreign]
      exact .refl world
  | detached own =>
      rw [if_pos own]
      exact .refl _
  | noted own =>
      rw [if_pos own]
      exact .push trivial

theorem Attaching.steady {error : BridgeError}
    (attaching : Attaching operation world (.error error) after) : world.Steady after := by
  cases attaching with
  | unavailable => exact contextMissed_steady operation _ world
  | failed _ failure =>
      have tried : world.Steady (world.runtimeSet (world.runtime.attach world.thread).2) :=
        .of_runtime (ManagedRuntime.balances_attach failure)
      exact tried.trans (contextMissed_steady operation _ _)

theorem Attaching.attached? (attaching : Attaching operation world (.ok held) ready) :
    ready.attached? = world.runtime.whenAttached := by
  cases attaching with
  | found status => exact ManagedRuntime.isAttached?_of_threadStatus status
  | taken _ attached => exact ManagedRuntime.isAttached?_attach attached

/-- When the guard goes, after whatever was steady, the world is steady on the
whole. -/
theorem Attaching.restores (attaching : Attaching operation world (.ok held) ready)
    (steady : ready.Steady done) (gone : Gone held done after) : world.Steady after := by
  have left := gone.steady
  cases attaching with
  | found => exact steady.trans left
  | taken status attached => exact (restores_attached status attached steady).trans left

end Guards

/-- A context cannot be had, whatever was to be run in it, or it can, and the
outcome is that of the thunk, between whose beginning and end nothing else
happens to it. -/
inductive Attempt (operation : String) (world : World σ Mark) : Prop where
  | refused (failure : AttachFailure) (after : World σ Mark) (steady : world.Steady after)
      (refuses : ∀ {α : Type} (thunk : RuntimeContext → BridgeM σ Mark α),
        withAttachedContext operation thunk world =
          (.ok (.error (.runtimeAttachment operation failure)), after))
  | granted (context : RuntimeContext) (ready : World σ Mark)
      (attached : ready.attached? = world.runtime.whenAttached)
      (runs : ∀ {α : Type} (thunk : RuntimeContext → BridgeM σ Mark α),
        (withAttachedContext operation thunk world).1 = (thunk context ready).1.map .ok)
      (restores : ∀ {α : Type} (thunk : RuntimeContext → BridgeM σ Mark α),
        ready.Steady (thunk context ready).2 →
        world.Steady (withAttachedContext operation thunk world).2)

theorem attempt (operation : String) (world : World σ Mark) : Attempt operation world := by
  have looked (ready : World σ Mark) : ready.Steady ready.faultTaken :=
    .of_runtime ready.runtime.balances_takeFault
  cases course operation world with
  | refused attaching runs =>
      obtain ⟨failure, rfl⟩ := attaching.error_eq
      exact .refused failure _ attaching.steady runs
  | @faulty held ready after attaching _ gone runs =>
      have missed := (looked ready).trans (contextMissed_steady operation .pendingFault _)
      exact .refused .pendingFault _ (attaching.restores missed gone) runs
  | @granted held ready attaching runs =>
      refine .granted ⟨operation, held.attachedHere⟩ ready.faultTaken ?_ (fun thunk => ?_)
        fun thunk steady => ?_
      · exact (ready.runtime.balances_takeFault.isAttached? ready.thread).trans attaching.attached?
      · obtain ⟨after, dropped, _⟩ := drop_runs held (thunk _ ready.faultTaken).2
        rw [(runs thunk).trans (guarded_runs rfl dropped)]
      · obtain ⟨after, dropped, gone⟩ := drop_runs held (thunk _ ready.faultTaken).2
        rw [(runs thunk).trans (guarded_runs rfl dropped)]
        exact attaching.restores ((looked ready).trans steady) gone

/-- A context around what is steady is steady. -/
theorem withAttachedContext_steady (operation : String) (world : World σ Mark)
    {thunk : RuntimeContext → BridgeM σ Mark α}
    (steady : ∀ context (world : World σ Mark), world.Steady (thunk context world).2) :
    world.Steady (withAttachedContext operation thunk world).2 := by
  cases attempt operation world with
  | refused failure after steady refuses =>
      rw [refuses]
      exact steady
  | granted context ready attached runs restores => exact restores thunk (steady context ready)

end Attachment

/-! ## Runs that are steady -/

/-- One run, each of whose worlds is steady as seen from an earlier one. -/
def Ties.steady : Ties σ σ := fun link => ∃ start : World σ Mark, link = Link.within start.Steady

theorem inStep_steady_iff {one other : BridgeM σ Mark α} :
    InStep Ties.steady Eq one other ↔
      one = other ∧ ∀ world : World σ Mark, world.Steady (one world).2 := by
  constructor
  · intro inStep
    have ends (world : World σ Mark) :=
      inStep _ ⟨world, rfl⟩ world world ⟨rfl, World.Steady.refl world⟩
    refine ⟨funext fun world => ?_, fun world => (ends world).linked.2⟩
    exact Prod.ext (ends world).alike.eq (ends world).linked.1
  · rintro ⟨rfl, steady⟩ _ ⟨start, rfl⟩ world _ ⟨rfl, inside⟩
    exact ⟨.refl (fun _ => rfl) _, rfl, inside.trans (steady world)⟩

namespace World.Steady

variable [Custodian σ]

theorem enclave (start : World σ Mark) : Enclave (Scope.whole False) start.Steady where
  strict := id
  factoryless _ := .inr trivial
  bound _ _ _ _ _ := trivial
  names _ _ _ _ _ := trivial
  pinned _ _ _ _ _ := trivial
  setLife inside _ _ _ _ := inside.trans (.of_trace rfl rfl rfl)
  push inside moment tells := by
    refine inside.trans (.push ?_)
    cases tells <;> trivial
  count inside _ := inside.trans (.of_trace rfl rfl rfl)
  engage inside _ _ := inside.trans (.of_trace rfl rfl rfl)
  disengage inside _ _ := inside.trans (.of_trace rfl rfl rfl)
  lent inside _ := inside.trans (.of_trace rfl rfl rfl)
  unbound inside _ _ := inside.trans (.of_trace rfl rfl rfl)
  forget {world} inside target _ := by
    unfold Custody.forgetTarget
    by_cases kept : world.keeps target = true
    · rw [if_pos kept]
      exact ⟨none, world, rfl, inside, fun _ _ => trivial⟩
    · rw [if_neg kept]
      exact ⟨_, _, rfl, inside.trans (.of_trace rfl rfl rfl), fun _ _ => trivial⟩
  bind {world} inside _ handle target := by
    unfold Registration.bind?
    simp only
    cases world.own.registry.insert? handle ⟨world.entries.size⟩ with
    | none => exact ⟨none, world, rfl, inside⟩
    | some registry => exact ⟨_, _, rfl, inside.trans (.of_trace rfl rfl rfl)⟩

/-- Balanced attachments are kept by every computation of the bridge. -/
theorem accord : Accord (Scope.whole False) (Ties.steady : Ties σ σ) where
  bond := by
    rintro _ ⟨start, rfl⟩
    exact (enclave start).bond
  context {peer} _ {target} _ event body body' inStep := by
    obtain ⟨rfl, steady⟩ := inStep_steady_iff.mp inStep
    refine inStep_steady_iff.mpr ⟨rfl, fun world => ?_⟩
    cases Attachment.attempt event.name world with
    | refused failure after steady refuses =>
        rw [refuses]
        exact steady
    | granted context ready attached runs restores =>
        refine restores _ ?_
        have inContext := ManagedRuntime.whenAttached_of_isAttached? attached
        have begun : ready.Steady (ready.push (.callback peer target event ready.attached?)) :=
          .push (attached.trans inContext.symm)
        exact begun.trans (steady _)

end World.Steady

end TransportBridge
