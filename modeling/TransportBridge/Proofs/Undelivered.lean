import TransportBridge.Proofs.EventOrder

/-!
Contract: what is left of a delivery for which no context could be had.

Such a delivery begins no callback. The lifecycle takes its acceptance back,
holds are given up as they were taken, and the threads are attached as before.
What is done meanwhile is done to a native buffer: it is dropped once.

Owns: worlds in which nothing has moved, and one law for each entry point that
rejects its call for want of a context.

Does not own: when a context can be had. The runtime decides that.
-/

namespace TransportBridge

/-! ## Lifecycles that missed an event -/

namespace Lifecycle

/-- A missed event leaves the lifecycle as it was, unless bytes are
confirmed. -/
theorem Reflects.unchanged_of_misses {life left : Lifecycle} {deeds : List Deed}
    {event : SocketEvent} (reflects : life.Reflects deeds) (held : life.Held)
    (misses : life.Misses event left) (unconfirmed : event.kind ≠ .writeCompleted) :
    left = life := by
  rw [misses.touches_state unconfirmed, (reflects.same_of_misses held misses).state]

/-- An event is accepted for the target that is pinned, and the pin stays. -/
theorem Accepts.pinned {life next : Lifecycle} {event : SocketEvent} {target : TargetId}
    (accepts : life.Accepts event target next) : next.pin = some target := by
  rw [accepts.keeps.pin]
  cases accepts with
  | openRequest begun => exact (beginOpen_ok begun).2.1
  | writeCompleted accepted => exact (acceptWriteCompleted_ok accepted).2.1
  | received accepted => exact (acceptReceived_ok accepted).2.1
  | closeRequest accepted => exact (acceptCloseRequest_ok accepted).2.1
  | closed begun => exact (beginClose_ok begun).2.1

end Lifecycle

/-! ## Worlds in which nothing has moved -/

/-- A record of the log, which is nothing that was done. -/
def Moment.isNotice {μ : Type} : Moment μ → Bool
  | .noted _ => true
  | _ => false

def actsIn (trace : Array (Moment Mark)) : List (Moment Mark) :=
  trace.toList.filter fun moment => !moment.isNotice

/-- The event that a report of the native side comes to. -/
def NativeEvent.kind : NativeEvent → EventKind
  | .openRequest _ _ => .openRequest
  | .writeCompleted _ => .writeCompleted
  | .received _ => .received
  | .closeRequest _ _ => .closeRequest
  | .closed _ _ _ => .closed

/-- The hooks that are left to run when the buffer that a report came with is
dropped. -/
def NativeEvent.freed : NativeEvent → List Hook
  | .openRequest _ options => options.spent.dropped
  | .received data => data.spent.dropped
  | _ => []

section Unmoved

variable {σ α β : Type} {world middle after : World σ Mark}

/-- What has been done, in the order of happening. -/
def World.acts (world : World σ Mark) : List (Moment Mark) :=
  actsIn world.trace

/-- Nothing is changed but the runtime, the counters and the trace, which goes
on with `done` apart from the log. -/
inductive World.Unmoved (before : World σ Mark) (done : List (Moment Mark)) :
    World σ Mark → Prop where
  | intro (runtime : ManagedRuntime) (metrics : Metrics) {trace : Array (Moment Mark)}
      (acts : actsIn trace = before.acts ++ done) :
      Unmoved before done { before with runtime, own := { before.own with metrics }, trace }

/-- Nor is a thread attached that was not, or detached. -/
structure World.Untouched (before : World σ Mark) (done : List (Moment Mark))
    (after : World σ Mark) : Prop where
  unmoved : before.Unmoved done after
  attached : ∀ thread, after.runtime.isAttached? thread = before.runtime.isAttached? thread

/-- An event of the registration was accepted and not delivered. Nothing comes
of it but what is left of the lifecycle. -/
def World.Missed (before : World σ Mark) (peer : Peer) (event : SocketEvent)
    (done : List (Moment Mark)) (after : World σ Mark) : Prop :=
  ∃ left, (before.life peer.entry).Misses event left ∧
    (before.setLife peer.entry left).Untouched done after

namespace World

theorem acts_push (world : World σ Mark) (moment : Moment Mark) :
    (world.push moment).acts = world.acts ++ if moment.isNotice then [] else [moment] := by
  unfold acts actsIn push
  rw [Array.toList_push, List.filter_append]
  cases notice : moment.isNotice <;> simp [notice]

/-- The deeds of a registration are among what has been done. -/
theorem deeds_of_acts {done : List (Moment Mark)} (acts : after.acts = world.acts ++ done)
    (id : EntryId) : after.deeds id = world.deeds id ++ done.filterMap (Moment.deed? id) := by
  have among (world : World σ Mark) :
      world.deeds id = world.acts.filterMap (Moment.deed? id) := by
    unfold deeds World.acts actsIn
    rw [List.filterMap_filter]
    congr 1
    funext moment
    cases moment <;> rfl
  rw [among, among, acts, List.filterMap_append]

namespace Unmoved

variable {done more : List (Moment Mark)}

theorem refl (world : World σ Mark) : world.Unmoved [] world :=
  .intro _ _ (List.append_nil _).symm

theorem trans (one : world.Unmoved done middle) (two : middle.Unmoved more after) :
    world.Unmoved (done ++ more) after := by
  obtain ⟨_, _, acts⟩ := one
  obtain ⟨runtime, metrics, rest⟩ := two
  refine .intro runtime metrics ?_
  rw [rest, ← List.append_assoc, ← acts]
  rfl

theorem note (world : World σ Mark) (notice : Notice) :
    world.Unmoved [] (world.push (.noted notice)) :=
  .intro _ _ (acts_push world _)

theorem life (unmoved : world.Unmoved done after) (id : EntryId) :
    after.life id = world.life id := by
  obtain ⟨_, _, _⟩ := unmoved
  rfl

theorem binds (unmoved : world.Unmoved done after) (id : EntryId) :
    after.binds id = world.binds id := by
  obtain ⟨_, _, _⟩ := unmoved
  rfl

theorem sound (unmoved : world.Unmoved done after) (sound : world.Sound) : after.Sound := by
  obtain ⟨_, _, _⟩ := unmoved
  exact sound.of_same rfl rfl

theorem setLife (unmoved : world.Unmoved done after) (id : EntryId) (life : Lifecycle) :
    (world.setLife id life).Unmoved done (after.setLife id life) := by
  obtain ⟨runtime, metrics, acts⟩ := unmoved
  exact .intro runtime metrics acts

end Unmoved

namespace Untouched

variable {done more : List (Moment Mark)}

theorem of_same (unmoved : world.Unmoved done after) (runtime : after.runtime = world.runtime) :
    world.Untouched done after :=
  ⟨unmoved, fun _ => by rw [runtime]⟩

theorem refl (world : World σ Mark) : world.Untouched [] world :=
  .of_same (.refl world) rfl

theorem trans (one : world.Untouched done middle) (two : middle.Untouched more after) :
    world.Untouched (done ++ more) after :=
  ⟨one.unmoved.trans two.unmoved, fun thread => (two.attached thread).trans (one.attached thread)⟩

theorem setLife (untouched : world.Untouched done after) (id : EntryId) (life : Lifecycle) :
    (world.setLife id life).Untouched done (after.setLife id life) :=
  ⟨untouched.unmoved.setLife id life, untouched.attached⟩

end Untouched

end World

theorem dropBuffer_untouched (buffer : NativeBuffer Hook) (world : World σ Mark) :
    ∃ after, dropBuffer buffer world = (.ok (), after) ∧
      world.Untouched (buffer.dropped.map .hookRan) after := by
  unfold dropBuffer NativeBuffer.dropped
  cases buffer.hook with
  | none => exact ⟨world, rfl, .refl world⟩
  | some hook =>
      refine ⟨world.push (.hookRan hook), rfl, .of_same (.intro _ _ ?_) rfl⟩
      exact world.acts_push (.hookRan hook)

/-! ## Contexts that cannot be had -/

namespace ManagedRuntime

variable {runtime : ManagedRuntime} {thread : ThreadId}

theorem takeFault_attached (runtime : ManagedRuntime) (other : ThreadId) :
    runtime.takeFault.2.isAttached? other = runtime.isAttached? other := by
  cases runtime <;> rfl

/-- An attachment that fails attaches nothing. -/
theorem attach_failed {status : Int} (failed : (runtime.attach thread).1 = some status)
    (other : ThreadId) :
    (runtime.attach thread).2.isAttached? other = runtime.isAttached? other := by
  cases runtime with
  | inProcess => cases failed
  | simulated state =>
      cases injected : state.nextAttachFailure with
      | none => simp [attach, SimulatedRuntime.attach, injected] at failed
      | some status =>
          simp [attach, SimulatedRuntime.attach, injected, isAttached?, SimulatedRuntime.isAttached]

/-- A thread that was detached is so again when it has been attached, the fault
has been looked at, and it has been detached. -/
theorem detach_attached (detached : runtime.threadStatus thread = .detached)
    (attached : (runtime.attach thread).1 = none) (other : ThreadId) :
    ((runtime.attach thread).2.takeFault.2.detach thread).2.isAttached? other =
      runtime.isAttached? other := by
  cases runtime with
  | inProcess => cases detached
  | simulated state =>
      have absent : state.isAttached thread = false := by
        cases reported : state.unavailableStatus <;> cases present : state.isAttached thread <;>
          simp [threadStatus, SimulatedRuntime.threadStatus, reported, present] at detached ⊢
      have unfailing : state.nextAttachFailure = none := by
        cases injected : state.nextAttachFailure with
        | none => rfl
        | some status => simp [attach, SimulatedRuntime.attach, injected] at attached
      have filtered : (thread :: state.attachedThreads).filter (· ≠ thread) =
          state.attachedThreads := by
        rw [List.filter_cons_of_neg (by simp), List.filter_eq_self]
        intro member present
        have others : thread ∉ state.attachedThreads := by
          simpa [SimulatedRuntime.isAttached] using absent
        simpa using ne_of_mem_of_not_mem present others
      have marked : state.markAttached thread =
          { state with attachedThreads := thread :: state.attachedThreads } := by
        unfold SimulatedRuntime.markAttached
        rw [if_neg (Bool.eq_false_iff.mp absent)]
      simp only [attach, SimulatedRuntime.attach, unfailing, marked, takeFault,
        SimulatedRuntime.takeFault, detach, SimulatedRuntime.detach, filtered]
      rfl

end ManagedRuntime

/-- The runtime after a guard has gone. -/
def AttachGuard.leaves (held : AttachGuard) (thread : ThreadId) (runtime : ManagedRuntime) :
    ManagedRuntime :=
  if held.attachedHere then (runtime.detach thread).2 else runtime

namespace World.Unmoved

theorem runtimeSet (world : World σ Mark) (runtime : ManagedRuntime) :
    world.Unmoved [] (world.runtimeSet runtime) :=
  .intro _ _ (List.append_nil _).symm

theorem faultTaken (world : World σ Mark) : world.Unmoved [] world.faultTaken :=
  .runtimeSet world _

theorem contextMissed (world : World σ Mark) (operation : String) (failure : AttachFailure) :
    world.Unmoved [] (world.contextMissed operation failure) := by
  have counted : world.Unmoved [] (world.count .own Metrics.countAttachFailure) :=
    .intro _ _ (List.append_nil _).symm
  exact counted.trans (.note _ _)

end World.Unmoved

namespace Attachment

variable {operation : String} {held : AttachGuard}

theorem Gone.unmoved (gone : Gone held world after) : world.Unmoved [] after := by
  cases gone with
  | found => exact .refl world
  | detached => exact .runtimeSet world _
  | noted => exact (World.Unmoved.runtimeSet world _).trans (.note _ _)

theorem Gone.runtime (gone : Gone held world after) :
    after.runtime = held.leaves world.thread world.runtime := by
  unfold AttachGuard.leaves
  cases gone with
  | found foreign =>
      rw [foreign]
      rfl
  | detached own | noted own =>
      rw [if_pos own]
      rfl

theorem Attaching.unmoved {answer : Except BridgeError AttachGuard}
    (attaching : Attaching operation world answer after) : world.Unmoved [] after := by
  cases attaching with
  | found => exact .refl world
  | taken => exact .runtimeSet world _
  | unavailable => exact .contextMissed world operation _
  | failed => exact (World.Unmoved.runtimeSet world _).trans (.contextMissed _ operation _)

theorem Attaching.untouched {error : BridgeError}
    (attaching : Attaching operation world (.error error) after) : world.Untouched [] after := by
  refine ⟨attaching.unmoved, fun other => ?_⟩
  cases attaching with
  | unavailable => rfl
  | failed _ failure => exact ManagedRuntime.attach_failed failure other

/-- A guard that goes leaves the threads attached as they were before it was
taken, also when a fault has been looked at in between. -/
theorem Attaching.restored {ready : World σ Mark}
    (attaching : Attaching operation world (.ok held) ready) (other : ThreadId) :
    (held.leaves ready.thread ready.runtime.takeFault.2).isAttached? other =
      world.runtime.isAttached? other := by
  cases attaching with
  | found => exact world.runtime.takeFault_attached other
  | taken status attached => exact ManagedRuntime.detach_attached status attached other

/-- Where no context can be had, the thunk has not run. -/
theorem withAttachedContext_rejected {thunk : RuntimeContext → BridgeM σ Mark α}
    {error : BridgeError}
    (ran : withAttachedContext operation thunk world = (.ok (.error error), after)) :
    error.kind = .runtimeAttachment ∧ world.Untouched [] after := by
  cases course operation world with
  | refused attaching runs =>
      cases (runs thunk).symm.trans ran
      obtain ⟨_, rfl⟩ := attaching.error_eq
      exact ⟨rfl, attaching.untouched⟩
  | faulty attaching _ gone runs =>
      cases (runs thunk).symm.trans ran
      have looked := attaching.unmoved.trans (.faultTaken _)
      refine ⟨rfl, (looked.trans (.contextMissed _ _ _)).trans gone.unmoved, fun other => ?_⟩
      rw [gone.runtime]
      exact attaching.restored other
  | granted _ runs =>
      obtain ⟨_, _, _, returned⟩ := bind_ok ((runs thunk).symm.trans ran)
      cases returned

end Attachment

/-! ## Holds given up as they were taken -/

namespace World

variable {done : List (Moment Mark)}

theorem Untouched.lent {target : TargetId}
    (untouched : { world with lent := target :: world.lent }.Untouched done after) :
    world.Untouched done { after with lent := after.lent.erase target } := by
  obtain ⟨⟨runtime, metrics, acts⟩, attached⟩ := untouched
  refine ⟨?_, attached⟩
  simp only [List.erase_cons_head]
  exact .intro runtime metrics acts

/-- The lifecycle may have changed while the registration was held. -/
theorem Untouched.engaged {id : EntryId} {left : Lifecycle}
    (untouched : ((world.engage id).setLife id left).Untouched done after) :
    (world.setLife id left).Untouched done
      { after with engaged := after.engaged.erase id } := by
  obtain ⟨⟨runtime, metrics, acts⟩, attached⟩ := untouched
  refine ⟨?_, attached⟩
  have engaged : ((world.engage id).setLife id left).engaged = id :: world.engaged := rfl
  simp only [engaged, List.erase_cons_head]
  exact .intro runtime metrics acts

theorem keeps_of_pin {id : EntryId} {target : TargetId}
    (pinned : (world.life id).pin = some target) : world.keeps target = true := by
  cases found : world.entry? id with
  | none =>
      rw [life_of_absent found] at pinned
      cases pinned
  | some entry =>
      rw [life_of_entry found] at pinned
      unfold keeps
      rw [Bool.or_eq_true, Array.any_eq_true']
      refine .inr ⟨entry, Array.mem_of_getElem? found, ?_⟩
      rw [pinned]
      exact beq_self_eq_true _

theorem binds_setLife (world : World σ Mark) (id other : EntryId) (life : Lifecycle) :
    (world.setLife id life).binds other = world.binds other := by
  unfold binds
  rw [entry?_setLife]
  split
  · next same =>
      subst same
      rw [Option.any_map]
      rfl
  · rfl

theorem handle_of_peer? {handle : Handle} {peer : Peer}
    (known : world.peer? handle = some peer) : peer.handle = handle := by
  obtain ⟨_, _, rfl⟩ := Option.map_eq_some_iff.mp known
  rfl

theorem binds_of_peer? (sound : world.Sound) {handle : Handle} {peer : Peer}
    (known : world.peer? handle = some peer) : world.binds peer.entry = true := by
  obtain ⟨id, bound, rfl⟩ := Option.map_eq_some_iff.mp known
  obtain ⟨entry, found, rfl⟩ := sound.found bound
  unfold binds
  rw [found, Option.any_some, bound]
  exact beq_self_eq_true _

end World

variable [Custodian σ]

namespace Custody

theorem letGoOfTarget_of_keeps {target : TargetId} (kept : world.keeps target = true) :
    letGoOfTarget target world = (.ok (), world) := by
  have forgotten : forgetTarget target world = (.ok none, world) := by
    unfold forgetTarget
    rw [if_pos kept]
  exact bind_of_ok forgotten

theorem holdingTarget_rejected {id : EntryId} {target : TargetId}
    (pinned : (world.life id).pin = some target) {operation : String}
    {thunk : RuntimeContext → BridgeM σ Mark α} {error : BridgeError}
    (ran : holdingTarget target (Attachment.withAttachedContext operation thunk) world =
      (.ok (.error error), after)) :
    error.kind = .runtimeAttachment ∧ world.Untouched [] after := by
  obtain ⟨missed, lending, cleaned⟩ := ensuring_ok ran
  obtain ⟨_, _, lend, context⟩ := bind_ok lending
  cases lend
  obtain ⟨kind, untouched⟩ := Attachment.withAttachedContext_rejected context
  obtain ⟨_, _, takeBack, letGo⟩ := bind_ok cleaned
  cases takeBack
  have restored := untouched.lent
  have still : ({ missed with lent := missed.lent.erase target }.life id).pin = some target := by
    rw [restored.unmoved.life]
    exact pinned
  cases (letGoOfTarget_of_keeps (World.keeps_of_pin still)).symm.trans letGo
  exact ⟨kind, restored⟩

/-- A bound registration that was held for a rejected call is only held no
more. -/
theorem holding_rejected (sound : world.Sound) {handle : Handle} {peer : Peer}
    (known : world.peer? handle = some peer) {body : Call σ Mark α} {error : BridgeError}
    (ran : Call.holding peer.entry body world = (.ok (.error error), after)) :
    ∃ ended, body (world.engage peer.entry) = (.ok (.error error), ended) ∧
      ∀ left done, ((world.engage peer.entry).setLife peer.entry left).Untouched done ended →
        (world.setLife peer.entry left).Untouched done after := by
  obtain ⟨ended, engaging, cleaned⟩ := ensuring_ok ran
  obtain ⟨_, _, engage, rejected⟩ := bind_ok engaging
  cases engage
  refine ⟨ended, rejected, fun left done untouched => ?_⟩
  have restored := untouched.engaged
  obtain ⟨_, _, disengage, letGo⟩ := bind_ok cleaned
  cases disengage
  have held : isHeld { ended with engaged := ended.engaged.erase peer.entry } peer.entry =
      true := by
    unfold isHeld
    rw [restored.unmoved.binds, World.binds_setLife, World.binds_of_peer? sound known]
    rfl
  cases (letGo_of_isHeld held).symm.trans letGo
  exact restored

end Custody

/-! ## Calls rejected for want of a context -/

theorem Refusal.toError_kind (refusal : Refusal) (handle : Handle) :
    (refusal.toError handle).kind ≠ .runtimeAttachment := by
  cases refusal <;> exact nofun

namespace References

variable {peer : Peer} {error : BridgeError}

omit [Custodian σ] in
theorem reject_rejected {book : Book} {cause : BridgeError}
    (ran : (reject book cause : Call σ Mark α) world = (.ok (.error error), after)) :
    error = cause := by
  obtain ⟨_, rejected⟩ : ∃ after, (reject book cause : Call σ Mark α) world =
      (.ok (.error cause), after) := reject_ends world book cause
  cases rejected.symm.trans ran
  rfl

omit [Custodian σ] in
/-- A refused step is no want of a context. -/
theorem checkedBind_rejected {book : Book} {step : Lifecycle → Lifecycle.Step α}
    {rest : α → Call σ Mark β} (wanting : error.kind = .runtimeAttachment)
    (ran : (checked book peer step >>= rest) world = (.ok (.error error), after)) :
    ∃ result next, step (world.life peer.entry) = .ok (result, next) ∧
      rest result (world.setLife peer.entry next) = (.ok (.error error), after) := by
  cases stepped : step (world.life peer.entry) with
  | error refusal =>
      obtain ⟨_, rejected⟩ : ∃ after, checked book peer step world =
          (.ok (.error (refusal.toError peer.handle)), after) := checked_ends stepped
      cases (callBind_of_rejected rejected).symm.trans ran
      exact absurd wanting (refusal.toError_kind peer.handle)
  | ok outcome =>
      rw [callBind_of_ok (checked_of_ok stepped)] at ran
      exact ⟨outcome.1, outcome.2, rfl, ran⟩

theorem releaseNative_not_wanting {book : Book} (wanting : error.kind = .runtimeAttachment) :
    releaseNative book peer world ≠ (.ok (.error error), after) := by
  intro ran
  obtain ⟨remains, _, _, finished⟩ := checkedBind_rejected wanting ran
  cases remains with
  | none => cases finished
  | some remains => exact effect_not_rejected finished

end References

namespace Delivery

open References Registration

variable {host : Host σ Mark} {handle : Handle} {peer : Peer} {target : TargetId}
  {event : SocketEvent} {error : BridgeError}

omit [Custodian σ] in
theorem noteIfAny_untouched {notice : Option Notice} {nothing : Unit}
    (ran : noteIfAny notice world = (.ok nothing, after)) : world.Untouched [] after := by
  cases notice with
  | none =>
      cases ran
      exact .refl world
  | some notice =>
      cases ran
      exact .of_same (.note world notice) rfl

omit [Custodian σ] in
theorem thenDropping_rejected {buffer : NativeBuffer Hook} {body : Call σ Mark α}
    (ran : thenDropping buffer body world = (.ok (.error error), after)) :
    ∃ ended, body world = (.ok (.error error), ended) ∧
      dropBuffer buffer ended = (.ok (), after) :=
  ensuring_ok ran

/-- A delivery is rejected for want of a context only. -/
theorem deliver_rejected (pinned : (world.life peer.entry).pin = some target)
    (ran : deliver host peer target event world = (.ok (.error error), after)) :
    error.kind = .runtimeAttachment ∧ world.Untouched [] after := by
  let size := if world.config.logPayloadSizes then some event.payloadSize else none
  let noted := world.push (.noted (.dispatching peer.handle event.kind size))
  have noting : world.Untouched [] noted := .of_same (.note world _) rfl
  have note : note (.dispatching peer.handle event.kind size) world = (.ok (), noted) := rfl
  have began : deliver host peer target event world = _ :=
    (callBind_of_ok rfl).trans (effectBind_of_ok note)
  obtain ⟨answer, missed, held, rest⟩ := effectBind_ok (began.symm.trans ran)
  cases answer with
  | ok delivered => exact absurd rest effect_not_rejected
  | error refusal =>
      obtain ⟨kind, missing⟩ := Custody.holdingTarget_rejected (by exact pinned) held
      obtain ⟨_, counted, dropping, thrown⟩ := effectBind_ok rest
      cases thrown
      cases dropping
      have dropped : missed.Untouched [] (missed.count .own Metrics.countDropped) :=
        .of_same (.intro _ _ (List.append_nil _).symm) rfl
      exact ⟨kind, ((noting.trans missing).trans dropped).trans (.of_same (.note _ _) rfl)⟩

theorem deliverOr_rejected {undo : BridgeM σ Mark Unit}
    (ran : deliverOr host peer target event undo world = (.ok (.error error), after)) :
    ∃ missed, deliver host peer target event world = (.ok (.error error), missed) ∧
      undo missed = (.ok (), after) := by
  obtain ⟨answer, missed, delivered, rest⟩ := effectBind_ok ran
  cases answer with
  | ok nothing => cases rest
  | error refusal =>
      obtain ⟨_, _, undone, thrown⟩ := effectBind_ok rest
      cases thrown
      exact ⟨missed, delivered, undone⟩

/-- A delivery that is rejected has missed, and what takes it back leads to
what is left. -/
theorem missed_of_undone (genuine : world.Genuine peer) {next left : Lifecycle}
    (misses : (world.life peer.entry).Misses event left) (pinned : next.pin = some target)
    {accepted missed : World σ Mark}
    (accepting : (world.setLife peer.entry next).Untouched [] accepted)
    (ran : deliver host peer target event accepted = (.ok (.error error), missed))
    {done : List (Moment Mark)}
    (undone : missed.life peer.entry = next →
      (missed.setLife peer.entry left).Untouched done after) :
    world.Missed peer event done after := by
  obtain ⟨entry, found, _⟩ := genuine
  have still : accepted.life peer.entry = next := by
    rw [accepting.unmoved.life, World.life_setLife_self found]
  obtain ⟨_, missing⟩ := deliver_rejected (by rw [still]; exact pinned) ran
  have restored := (accepting.trans missing).setLife peer.entry left
  rw [World.setLife_setLife] at restored
  exact ⟨left, misses, restored.trans (undone (by rw [missing.unmoved.life, still]))⟩

/-! ### The entry points -/

/-- A registration is held for the call. -/
theorem missed_of_held (sound : world.Sound) (known : world.peer? handle = some peer)
    {body : Call σ Mark α} {done : List (Moment Mark)}
    (missed : ∀ ended, body (world.engage peer.entry) = (.ok (.error error), ended) →
      (world.engage peer.entry).Missed peer event done ended)
    (ran : Call.holding peer.entry body world = (.ok (.error error), after)) :
    world.Missed peer event done after := by
  obtain ⟨ended, held, restored⟩ := Custody.holding_rejected sound known ran
  obtain ⟨left, misses, untouched⟩ := missed ended held
  exact ⟨left, misses, restored left done untouched⟩

theorem onWriteCompleted_rejected (sound : world.Sound) (known : world.peer? handle = some peer)
    {byteCount : Nat} (wanting : error.kind = .runtimeAttachment)
    (ran : onWriteCompleted host handle byteCount world = (.ok (.error error), after)) :
    world.Missed peer (.writeCompleted byteCount) [] after := by
  have genuine := genuine_of_peer? sound known
  have began : onWriteCompleted host handle byteCount world = _ :=
    callBind_of_ok (lookup_of_known known _)
  refine missed_of_held sound known (fun ended held => ?_) (began.symm.trans ran)
  obtain ⟨target, next, accepted, delivered⟩ := checkedBind_rejected wanting held
  obtain ⟨entry, found, _⟩ := genuine
  have accepts : ((world.engage peer.entry).life peer.entry).Accepts (.writeCompleted byteCount)
      target next := .writeCompleted accepted
  obtain ⟨_, missing⟩ := deliver_rejected
    (by rw [World.life_setLife_self (by exact found)]; exact accepts.pinned) delivered
  exact ⟨next, .writeCompleted accepted, missing⟩

theorem onCloseRequest_rejected (sound : world.Sound) (known : world.peer? handle = some peer)
    {status : Int} {message : Bytes} (wanting : error.kind = .runtimeAttachment)
    (ran : onCloseRequest host handle status message world = (.ok (.error error), after)) :
    world.Missed peer (.closeRequest status (decodeOrPlaceholder message).1) [] after := by
  have genuine : (world.engage peer.entry).Genuine peer := genuine_of_peer? sound known
  have began : onCloseRequest host handle status message world = _ :=
    callBind_of_ok (lookup_of_known known _)
  refine missed_of_held sound known (fun ended held => ?_) (began.symm.trans ran)
  obtain ⟨⟨target, before⟩, next, accepted, rest⟩ := checkedBind_rejected wanting held
  obtain ⟨_, noted, note, delivery⟩ := effectBind_ok rest
  obtain ⟨missed, delivered, undone⟩ := deliverOr_rejected delivery
  have accepts : ((world.engage peer.entry).life peer.entry).Accepts
      (.closeRequest status (decodeOrPlaceholder message).1) target next := .closeRequest accepted
  refine missed_of_undone genuine (.closeRequest accepted) accepts.pinned
    (noteIfAny_untouched note) delivered fun reached => ?_
  rw [(change_runs undone).2, reached]
  exact .refl _

omit [Custodian σ] in
/-- Bytes are refused before they are delivered, but not for want of a
context. -/
theorem enterReceivedBind_rejected {byteCount : Nat} {retained : Option (NativeBuffer Hook)}
    {rest : TargetId → Call σ Mark α} (wanting : error.kind = .runtimeAttachment)
    (ran : (enterReceived peer byteCount retained >>= rest) world =
      (.ok (.error error), after)) :
    ∃ target next, (world.life peer.entry).acceptReceived byteCount retained =
        .ok (target, next) ∧
      rest target (world.setLife peer.entry next) = (.ok (.error error), after) := by
  cases accepted : (world.life peer.entry).acceptReceived byteCount retained with
  | ok outcome =>
      rw [callBind_of_ok (enterReceived_of_ok accepted)] at ran
      exact ⟨outcome.1, outcome.2, rfl, ran⟩
  | error refusal =>
      obtain ⟨_, rejected⟩ := enterReceived_ends accepted
      cases (callBind_of_rejected rejected).symm.trans ran
      exact absurd wanting (refusal.toError_kind peer.handle)

omit [Custodian σ] in
/-- What the account would keep of a buffer, dropped. -/
theorem dropIfAny_untouched {data spent : NativeBuffer Hook} {bytes : Bytes}
    (taken : data.transfer = .ok (bytes, spent)) {nothing : Unit}
    (ran : dropIfAny (match spent.ownership with
      | .borrowed => some spent
      | .transferable => none) world = (.ok nothing, after)) :
    world.Untouched (spent.dropped.map .hookRan) after := by
  cases owned : spent.ownership with
  | borrowed =>
      rw [owned] at ran
      obtain ⟨_, dropping, untouched⟩ := dropBuffer_untouched spent world
      cases dropping.symm.trans ran
      exact untouched
  | transferable =>
      rw [owned] at ran
      cases ran
      rw [NativeBuffer.dropped_of_transferable taken owned]
      exact .refl world

theorem onReceived_rejected (sound : world.Sound) (known : world.peer? handle = some peer)
    {data : NativeBuffer Hook} (wanting : error.kind = .runtimeAttachment)
    (ran : onReceived host handle data world = (.ok (.error error), after)) :
    ∃ bytes, world.Missed peer (.received bytes) (data.spent.dropped.map .hookRan) after := by
  have genuine : (world.engage peer.entry).Genuine peer := genuine_of_peer? sound known
  have began : onReceived host handle data world = _ :=
    effectBind_of_ok (show (lookup handle .received).run world = _ from lookup_of_known known _)
  cases taken : data.transfer with
  | error violation =>
      rw [taken] at began
      obtain ⟨_, held, _⟩ := Custody.holding_rejected sound known (began.symm.trans ran)
      obtain ⟨_, refused, _⟩ := thenDropping_rejected held
      rw [reject_rejected refused] at wanting
      cases wanting
  | ok outcome =>
      obtain ⟨bytes, spent⟩ := outcome
      rw [taken] at began
      refine ⟨bytes, missed_of_held sound known (fun ended held => ?_) (began.symm.trans ran)⟩
      rw [NativeBuffer.size_of_transfer taken] at held
      obtain ⟨target, next, accepted, delivery⟩ := enterReceivedBind_rejected wanting held
      have accepts : ((world.engage peer.entry).life peer.entry).Accepts (.received bytes)
          target next := .received accepted
      obtain ⟨missed, delivered, undone⟩ := deliverOr_rejected delivery
      refine missed_of_undone genuine (.received accepted) accepts.pinned (.refl _) delivered
        fun reached => ?_
      obtain ⟨_, aborted, abort, dropped⟩ := bind_ok undone
      obtain ⟨rfl, rfl⟩ := change_runs abort
      rw [reached] at dropped
      rw [Lifecycle.abortReceived_acceptReceived accepted] at dropped ⊢
      rw [NativeBuffer.spent_of_transfer taken]
      exact dropIfAny_untouched taken dropped

theorem onClosed_rejected (sound : world.Sound) (known : world.peer? handle = some peer)
    {domain code : Int} {message : Bytes} (wanting : error.kind = .runtimeAttachment)
    (ran : onClosed host handle domain code message world = (.ok (.error error), after)) :
    world.Missed peer (.closed (translate domain code message).1) [] after := by
  have genuine : (world.engage peer.entry).Genuine peer := genuine_of_peer? sound known
  have began : onClosed host handle domain code message world = _ :=
    callBind_of_ok (lookup_of_known known _)
  refine missed_of_held sound known (fun ended held => ?_) (began.symm.trans ran)
  obtain ⟨_, noted, note, rest⟩ := effectBind_ok held
  have noting := noteIfAny_untouched note
  obtain ⟨⟨target, before⟩, next, begun, rest⟩ := checkedBind_rejected wanting rest
  rw [noting.unmoved.life] at begun
  obtain ⟨answer, missed, delivery, rest⟩ := effectBind_ok rest
  cases answer with
  | ok nothing => exact absurd rest (releaseNative_not_wanting wanting)
  | error refusal =>
      obtain ⟨_, _, undone, thrown⟩ := effectBind_ok rest
      cases thrown
      have accepts : ((world.engage peer.entry).life peer.entry).Accepts
          (.closed (translate domain code message).1) target next := .closed begun
      refine missed_of_undone genuine (.closed begun) accepts.pinned
        (noting.setLife peer.entry next) (onPanic_ok delivery) fun reached => ?_
      rw [(change_runs undone).2, reached]
      exact .refl _

/-- The options of an open request are dropped at its end. -/
theorem onOpen_rejected (sound : world.Sound) (known : world.peer? handle = some peer)
    {address : Address} {options : NativeBuffer Hook} (wanting : error.kind = .runtimeAttachment)
    (ran : onOpen host handle address options world = (.ok (.error error), after)) :
    ∃ bytes, world.Missed peer (.openRequest address bytes)
      (options.spent.dropped.map .hookRan) after := by
  have genuine : (world.engage peer.entry).Genuine peer := genuine_of_peer? sound known
  unfold onOpen at ran
  cases taken : options.transfer with
  | error violation =>
      simp only [taken] at ran
      obtain ⟨_, refused, _⟩ := thenDropping_rejected ran
      rw [reject_rejected refused] at wanting
      cases wanting
  | ok outcome =>
      obtain ⟨bytes, spent⟩ := outcome
      simp only [taken] at ran
      obtain ⟨ended, body, drop⟩ := thenDropping_rejected ran
      have opening : world.Missed peer (.openRequest address bytes) [] ended := by
        rcases callBind_rejected body with looked | ⟨seen, _, look, rest⟩
        · cases looked
        · cases look
          rw [known] at rest
          refine missed_of_held sound known (fun _ held => ?_) rest
          obtain ⟨target, next, begun, rest⟩ := checkedBind_rejected wanting held
          rcases callBind_rejected rest with delivery | ⟨_, _, _, opened⟩
          · obtain ⟨missed, delivered, undone⟩ := deliverOr_rejected delivery
            have accepts : ((world.engage peer.entry).life peer.entry).Accepts
                (.openRequest address bytes) target next := .openRequest begun
            refine missed_of_undone genuine (.openRequest begun) accepts.pinned (.refl _)
              delivered fun reached => ?_
            rw [(change_runs undone).2, reached]
            exact .refl _
          · obtain ⟨isOpen, _, _, noted⟩ := effectBind_ok opened
            cases isOpen with
            | true => exact absurd noted effect_not_rejected
            | false => cases noted
      obtain ⟨left, misses, untouched⟩ := opening
      obtain ⟨_, dropping, dropped⟩ := dropBuffer_untouched spent ended
      cases dropping.symm.trans drop
      rw [NativeBuffer.spent_of_transfer taken]
      exact ⟨bytes, left, misses, untouched.trans dropped⟩

/-- Whatever the native side reports of a bound handle: if it is rejected for
want of a context, it has missed. -/
theorem dispatch_rejected (sound : world.Sound) (known : world.peer? handle = some peer)
    {reported : NativeEvent} (wanting : error.kind = .runtimeAttachment)
    (ran : dispatch host handle reported world = (.ok (.error error), after)) :
    ∃ told, told.kind = reported.kind ∧
      world.Missed peer told (reported.freed.map .hookRan) after := by
  cases reported with
  | openRequest address options =>
      obtain ⟨bytes, missed⟩ := onOpen_rejected sound known wanting ran
      exact ⟨_, rfl, missed⟩
  | writeCompleted byteCount => exact ⟨_, rfl, onWriteCompleted_rejected sound known wanting ran⟩
  | received data =>
      obtain ⟨bytes, missed⟩ := onReceived_rejected sound known wanting ran
      exact ⟨_, rfl, missed⟩
  | closeRequest status message =>
      exact ⟨_, rfl, onCloseRequest_rejected sound known wanting ran⟩
  | closed domain code message => exact ⟨_, rfl, onClosed_rejected sound known wanting ran⟩

end Delivery

/-- A rejected report of the native side, between its marks. -/
theorem BridgeCall.native_rejected {behaviour : Behaviour σ} {depth : Nat} {handle : Handle}
    {reported : NativeEvent} {error : BridgeError}
    (ran : (BridgeCall.native handle reported).make behaviour (depth + 1) world =
      (.ok (.rejected error), after)) :
    ∃ ended, Delivery.dispatch (behaviour.host (make behaviour depth)) handle reported
        (world.push (.marked (.called (.native handle reported)))) =
          (.ok (.error error), ended) ∧
      after = ended.push (.marked (.replied (.native handle reported) (.rejected error))) := by
  let host := behaviour.host (make behaviour depth)
  let called := world.push (.marked (.called (.native handle reported)))
  rw [make_runs] at ran
  obtain ⟨told, marked⟩ := Prod.mk.inj ran
  have replied := Except.ok.inj told
  cases dispatched : Delivery.dispatch host handle reported called with
  | mk outcome ended =>
      rcases outcome with panic | refusal | nothing
      · have performed : (BridgeCall.native handle reported).perform host called = _ :=
          bind_of_error dispatched
        rw [performed] at replied
        cases replied
      · have performed : (BridgeCall.native handle reported).perform host called = _ :=
          bind_of_ok dispatched
        rw [performed] at replied
        obtain rfl := Reply.rejected.inj replied
        refine ⟨ended, rfl, marked.symm.trans ?_⟩
        unfold BridgeCall.replied
        rw [performed]
        rfl
      · have performed : (BridgeCall.native handle reported).perform host called = _ :=
          bind_of_ok dispatched
        rw [performed] at replied
        cases replied

end Unmoved

end TransportBridge
