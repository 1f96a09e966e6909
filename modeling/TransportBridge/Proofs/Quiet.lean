import Mathlib.Algebra.GroupWithZero.Nat
import Mathlib.Algebra.Group.Pi.Basic
import TransportBridge.Proofs.CallRecords
import TransportBridge.Proofs.Passage

/-!
Contract: the calm computations of the bridge, with all that they do.

A quiet change is calm and says what calm changes leave open: which hooks run,
what is added to the counters, and that the host is asked to forget and is
otherwise let be. A change is still when no hook runs and nothing is added.

Owns: quiet changes, and that what is calm is quiet: the log, the counters,
holds, attachments, dropped buffers, refused steps, and the end of a
registration.
-/

namespace TransportBridge

/-- Counts one. -/
def Counter.once (one : Counter) : Counter → Nat :=
  fun counter => if counter = one then 1 else 0

/-- What is counted when the error is reported. -/
def BridgeError.reported (error : BridgeError) : Counter → Nat :=
  if error.isInvariantViolation then Counter.once .violations else 0

/-- The hooks of the buffers that are left when the last reference is gone. -/
def Teardown.hooks (remains : Teardown) : List Hook :=
  remains.buffers.flatMap NativeBuffer.dropped

/-- The log tells that such an event of the handle was dropped, as it could not be
delivered. -/
def Moment.isDrop {μ : Type} (handle : Handle) (kind : EventKind) : Moment μ → Bool
  | .noted (.eventDropped dropped event _) => dropped == handle && event == kind
  | _ => false

/-- How many such events of the handle have been dropped. -/
def World.drops {σ : Type} (world : World σ Mark) (handle : Handle) (kind : EventKind) : Nat :=
  world.trace.toList.countP (·.isDrop handle kind)

theorem World.drops_of_trace {σ : Type} {world after : World σ Mark}
    (trace : after.trace = world.trace) (handle : Handle) (kind : EventKind) :
    after.drops handle kind = world.drops handle kind := by
  unfold drops
  rw [trace]

theorem World.drops_push {σ : Type} (world : World σ Mark) (moment : Moment Mark)
    (handle : Handle) (kind : EventKind) :
    (world.push moment).drops handle kind =
      world.drops handle kind + if moment.isDrop handle kind then 1 else 0 := by
  unfold drops push
  rw [Array.toList_push, List.countP_append, List.countP_singleton]

section Quiet

variable {σ α β : Type} [Custodian σ] {world middle after : World σ Mark}

/-- Targets of the host have forgotten what they knew. -/
abbrev Forgets : σ → σ → Prop :=
  Relation.ReflTransGen fun host next => ∃ target, next = (Custodian.forget target host).2

/-- Hooks run, counters grow, and beyond that nothing happens that the books
tell of. -/
structure World.Quiet (before : World σ Mark) (hooks : List Hook) (charge : Counter → Nat)
    (after : World σ Mark) : Prop extends World.Plain before after where
  acts : after.acts = before.acts ++ hooks.map .hookRan
  host : Forgets before.host after.host
  counted : ∀ counter, after.metric counter = before.metric counter + charge counter
  drops : ∀ handle kind, before.drops handle kind ≤ after.drops handle kind

/-- No hook runs and no counter of calls grows. -/
abbrev World.Still (before after : World σ Mark) : Prop :=
  before.Quiet [] 0 after

namespace World

namespace Quiet

variable {hooks more : List Hook} {charge extra : Counter → Nat}

/-- Whatever is not in the books may change, but for the host. -/
theorem aside (host : Forgets world.host after.host)
    (config : after.config = world.config)
    (entries : after.entries = world.entries) (own : after.own = world.own)
    (trace : after.trace = world.trace) : world.Still after where
  toPlain := .aside config entries own trace
  acts := by
    unfold World.acts
    rw [trace, List.map_nil, List.append_nil]
  host := host
  counted counter := by
    unfold metric
    rw [own]
    rfl
  drops handle kind := Nat.le_of_eq (drops_of_trace trace handle kind).symm

theorem refl (world : World σ Mark) : world.Still world :=
  aside .refl rfl rfl rfl rfl

/-- A call takes hold of a registration. -/
theorem engage (world : World σ Mark) (entry : EntryId) : world.Still (world.engage entry) :=
  aside .refl rfl rfl rfl rfl

theorem trans (one : world.Quiet hooks charge middle) (two : middle.Quiet more extra after) :
    world.Quiet (hooks ++ more) (charge + extra) after where
  toPlain := one.toPlain.trans two.toPlain
  acts := by rw [two.acts, one.acts, List.append_assoc, List.map_append]
  host := one.host.trans two.host
  counted counter := by
    rw [two.counted, one.counted, Nat.add_assoc]
    rfl
  drops handle kind := Nat.le_trans (one.drops handle kind) (two.drops handle kind)

theorem then_still (one : world.Quiet hooks charge middle) (two : middle.Still after) :
    world.Quiet hooks charge after := by
  simpa using one.trans two

theorem after_still (one : world.Still middle) (two : middle.Quiet hooks charge after) :
    world.Quiet hooks charge after := by
  simpa using one.trans two

/-- A moment is told of that is nobody's deed. -/
theorem push {moment : Moment Mark} (untold : ∀ id, moment.deed? id = none)
    (noLapse : moment.isLapse = false)
    (acts : (world.push moment).acts = world.acts ++ hooks.map .hookRan) :
    world.Quiet hooks 0 (world.push moment) where
  toPlain := .push untold noLapse
  acts := acts
  host := .refl
  counted _ := rfl
  drops handle kind := by
    rw [drops_push]
    exact Nat.le_add_right _ _

theorem note (world : World σ Mark) (notice : Notice) (noLapse : notice.isLapse = false) :
    world.Still (world.push (.noted notice)) :=
  .push (fun _ => rfl) noLapse (acts_push world _)

theorem hookRan (world : World σ Mark) (hook : Hook) :
    world.Quiet [hook] 0 (world.push (.hookRan hook)) :=
  .push (fun _ => rfl) rfl (acts_push world _)

/-- The counters of registrations and disposals are the books' affair. -/
theorem count (world : World σ Mark) {change : Metrics → Metrics} (aside : Metrics.SetsAside change)
    (adds : ∀ metrics counter,
      (change metrics).tallied counter = metrics.tallied counter + charge counter) :
    world.Quiet [] charge (world.count .own change) where
  toPlain := ⟨rfl, rfl, rfl, (aside _).1, (aside _).2, fun _ => rfl, rfl⟩
  acts := (List.append_nil _).symm
  host := .refl
  counted counter := adds world.own.metrics counter
  drops _ _ := Nat.le_refl _

theorem dispatching (world : World σ Mark) (peer : Peer) (target : TargetId)
    (event : SocketEvent) : world.Still (world.dispatching peer target event) :=
  (note world _ rfl).then_still (.aside .refl rfl rfl rfl rfl)

/-- A delivery is counted when its callback returns. -/
theorem dispatched (world : World σ Mark) :
    world.Quiet [] (Counter.once .dispatched) (world.dispatched (.ok ())) :=
  .count world (fun _ => ⟨rfl, rfl⟩) fun _ counter => by cases counter <;> rfl

theorem eventDropped (world : World σ Mark) (peer : Peer) (event : SocketEvent)
    (error : BridgeError) (noLapse : error.isLapse = false) :
    world.Quiet [] (Counter.once .dropped) (world.eventDropped peer event error) := by
  have counted : world.Quiet [] (Counter.once .dropped) (world.count .own Metrics.countDropped) :=
    .count world (fun _ => ⟨rfl, rfl⟩) fun _ counter => by cases counter <;> rfl
  exact counted.then_still (.note _ _ noLapse)

/-- A change of one lifecycle goes with it. -/
theorem setLife (quiet : world.Quiet hooks charge after) (id : EntryId) (life : Lifecycle) :
    (world.setLife id life).Quiet hooks charge (after.setLife id life) where
  toPlain := quiet.toPlain.setLife id life
  acts := quiet.acts
  host := quiet.host
  counted := quiet.counted
  drops := quiet.drops

/-- What is quiet is so whatever the state of a lifecycle. -/
theorem beneath {id : EntryId} {life : Lifecycle}
    (quiet : (world.setLife id life).Quiet hooks charge after) :
    ∃ beneath, world.Quiet hooks charge beneath ∧ after = beneath.setLife id life := by
  refine ⟨{ after with entries := world.entries }, ?_, ?_⟩
  · exact ⟨⟨quiet.config, rfl, quiet.registry, quiet.registered, quiet.disposed, quiet.deeds,
      quiet.lapses⟩, quiet.acts, quiet.host, quiet.counted, quiet.drops⟩
  · change after = { after with entries := (world.setLife id life).entries }
    rw [← quiet.entries]

end Quiet

end World

/-! ## Computations -/

/-- The computation gives a result by a quiet change. -/
def Quietly (body : BridgeM σ Mark α) (hooks : List Hook) (charge : Counter → Nat)
    (world : World σ Mark) : Prop :=
  ∃ result after, body world = (.ok result, after) ∧ world.Quiet hooks charge after

/-- The call is rejected for `error` by a quiet change. -/
def Refuses (body : Call σ Mark α) (error : BridgeError) (charge : Counter → Nat)
    (world : World σ Mark) : Prop :=
  ∃ after, body world = (.ok (.error error), after) ∧ world.Quiet [] charge after

namespace Quietly

variable {hooks more : List Hook} {charge extra : Counter → Nat}

theorem pure (result : α) : Quietly (Pure.pure result : BridgeM σ Mark α) [] 0 world :=
  ⟨result, world, rfl, .refl world⟩

theorem bind {first : BridgeM σ Mark α} {next : α → BridgeM σ Mark β}
    (one : Quietly first hooks charge world)
    (two : ∀ result after, world.Quiet hooks charge after →
      Quietly (next result) more extra after) :
    Quietly (first >>= next) (hooks ++ more) (charge + extra) world := by
  obtain ⟨result, middle, ran, quiet⟩ := one
  obtain ⟨last, after, finished, rest⟩ := two result middle quiet
  exact ⟨last, after, (bind_of_ok ran).trans finished, quiet.trans rest⟩

/-- Still things first. -/
theorem andThen {first : BridgeM σ Mark α} {next : α → BridgeM σ Mark β}
    (one : Quietly first [] 0 world)
    (two : ∀ result after, world.Still after → Quietly (next result) hooks charge after) :
    Quietly (first >>= next) hooks charge world := by
  have both := one.bind two
  rwa [List.nil_append, zero_add] at both

theorem note (notice : Notice) (noLapse : notice.isLapse = false) :
    Quietly (TransportBridge.note notice : BridgeM σ Mark Unit) [] 0 world :=
  ⟨(), _, rfl, .note world notice noLapse⟩

theorem count {change : Metrics → Metrics} (aside : Metrics.SetsAside change)
    (adds : ∀ metrics counter,
      (change metrics).tallied counter = metrics.tallied counter + charge counter) :
    Quietly (TransportBridge.count .own change : BridgeM σ Mark Unit) [] charge world :=
  ⟨(), _, rfl, .count world aside adds⟩

/-- An event is counted as dropped, and it is told why. -/
theorem dropEvent (notice : Notice) (noLapse : notice.isLapse = false) :
    Quietly (do TransportBridge.count .own Metrics.countDropped; TransportBridge.note notice :
      BridgeM σ Mark Unit) [] (Counter.once .dropped) world := by
  have counted : Quietly (TransportBridge.count .own Metrics.countDropped : BridgeM σ Mark Unit)
      [] (Counter.once .dropped) world :=
    count (fun _ => ⟨rfl, rfl⟩) fun _ counter => by cases counter <;> rfl
  exact counted.bind fun _ _ _ => note notice noLapse

theorem dropBuffer (buffer : NativeBuffer Hook) :
    Quietly (TransportBridge.dropBuffer buffer : BridgeM σ Mark Unit) buffer.dropped 0 world := by
  unfold TransportBridge.dropBuffer NativeBuffer.dropped
  cases buffer.hook with
  | none => exact .pure ()
  | some hook => exact ⟨(), _, rfl, .hookRan world hook⟩

theorem dropBuffers (buffers : List (NativeBuffer Hook)) :
    Quietly (buffers.forM TransportBridge.dropBuffer : BridgeM σ Mark Unit)
      (buffers.flatMap NativeBuffer.dropped) 0 world := by
  induction buffers generalizing world with
  | nil => exact .pure ()
  | cons buffer rest inductionHypothesis =>
      rw [List.flatMap_cons]
      exact (dropBuffer buffer).bind fun _ _ _ => inductionHypothesis

theorem optionForM {item : Option α} {body : α → BridgeM σ Mark Unit}
    (each : ∀ item, Quietly (body item) [] 0 world) : Quietly (item.forM body) [] 0 world := by
  cases item with
  | none => exact .pure ()
  | some item => exact each item

end Quietly

/-! ### Rejected calls -/

namespace References

/-- What is reported is counted if it breaks an invariant. -/
theorem report_quietly (world : World σ Mark) {error : BridgeError}
    (noLapse : error.isLapse = false) :
    ∃ after, (report .own error : BridgeM σ Mark BridgeError) world = (.ok error, after) ∧
      world.Quiet [] error.reported after := by
  unfold report BridgeError.reported
  split
  · obtain ⟨_, counted, count, one⟩ : Quietly (count .own Metrics.countViolation) []
        (Counter.once .violations) world :=
      .count (fun _ => ⟨rfl, rfl⟩) fun _ counter => by cases counter <;> rfl
    exact ⟨_, bind_of_ok count, one.then_still (.note counted (.invariantViolated error) noLapse)⟩
  · exact ⟨_, rfl, .note world (.callRejected error) noLapse⟩

theorem reject_refuses {error : BridgeError} (noLapse : error.isLapse = false) :
    Refuses (reject .own error : Call σ Mark α) error error.reported world := by
  obtain ⟨after, reported, quiet⟩ := report_quietly world noLapse
  exact ⟨after, effectBind_of_ok reported, quiet⟩

theorem checked_refuses {peer : Peer} {step : Lifecycle → Lifecycle.Step α} {refusal : Refusal}
    (refused : step (world.life peer.entry) = .error refusal)
    (noLapse : refusal.isLapse = false) :
    Refuses (checked .own peer step) (refusal.toError peer.handle)
      (refusal.toError peer.handle).reported world := by
  have ran : attempt peer.entry step world = (.ok (.error refusal), world) := by
    unfold attempt
    rw [refused]
  obtain ⟨after, rejected, quiet⟩ : Refuses (reject .own (refusal.toError peer.handle) :
    Call σ Mark α) _ _ world := reject_refuses ((refusal.toError_isLapse _).trans noLapse)
  exact ⟨after, (effectBind_of_ok ran).trans rejected, quiet⟩

end References

/-! ### Holds -/

namespace Custody

theorem forgetTarget_quietly (target : TargetId) :
    Quietly (forgetTarget target : BridgeM σ Mark (Option EntryId)) [] 0 world := by
  unfold Quietly forgetTarget
  split
  · exact ⟨none, world, rfl, .refl world⟩
  · exact ⟨_, _, rfl, .aside (.single ⟨target, rfl⟩) rfl rfl rfl rfl⟩

theorem letGo_quietly (sound : world.Sound) (id : EntryId) :
    Quietly (letGo id : BridgeM σ Mark Unit) [] 0 world :=
  ⟨(), world, letGo_of_sound sound id, .refl world⟩

theorem letGoOfTarget_quietly (sound : world.Sound) (target : TargetId) :
    Quietly (letGoOfTarget target : BridgeM σ Mark Unit) [] 0 world := by
  unfold letGoOfTarget
  apply (forgetTarget_quietly target).andThen
  intro known after still
  cases known with
  | none => exact .pure ()
  | some known => exact letGo_quietly (sound.plain still.toPlain) known

theorem takeBack_quietly (target : TargetId) :
    Quietly (takeBack target : BridgeM σ Mark Unit) [] 0 world :=
  ⟨(), _, rfl, .aside .refl rfl rfl rfl rfl⟩

/-- A target that was held is let go of. -/
theorem giveBack_quietly (sound : world.Sound) (target : TargetId) :
    Quietly (do takeBack target; letGoOfTarget target : BridgeM σ Mark Unit) [] 0 world :=
  (takeBack_quietly target).andThen fun _ _ still =>
    letGoOfTarget_quietly (sound.plain still.toPlain) target

/-- A registration is let go of after a computation that it was held for. -/
theorem holding_still {entry : EntryId} {body : BridgeM σ Mark α} {outcome : Except Panic α}
    {done : World σ Mark} (ran : body (world.engage entry) = (outcome, done))
    (sound : done.Sound) :
    ∃ after, holding entry body world = (outcome, after) ∧ done.Still after := by
  have dropped : done.Still { done with engaged := done.engaged.erase entry } :=
    .aside .refl rfl rfl rfl rfl
  refine ⟨{ done with engaged := done.engaged.erase entry }, ?_, dropped⟩
  have engaged : (do
      modify fun world : World σ Mark => { world with engaged := entry :: world.engaged }
      body : BridgeM σ Mark α) world = (outcome, done) := (bind_of_ok rfl).trans ran
  exact ensuring_of_ok engaged
    ((bind_of_ok rfl).trans (letGo_of_sound (sound.plain dropped.toPlain) entry))

end Custody

/-! ### Attachments -/

namespace Attachment

theorem runtimeSet_still (world : World σ Mark) (runtime : ManagedRuntime) :
    world.Still (world.runtimeSet runtime) :=
  .aside .refl rfl rfl rfl rfl

theorem contextMissed_quiet (world : World σ Mark) (operation : String) (failure : AttachFailure) :
    world.Quiet [] (Counter.once .attachFailures) (world.contextMissed operation failure) := by
  obtain ⟨_, counted, count, one⟩ : Quietly (count .own Metrics.countAttachFailure) []
      (Counter.once .attachFailures) world :=
    .count (fun _ => ⟨rfl, rfl⟩) fun _ counter => by cases counter <;> rfl
  cases count
  refine one.then_still (.note _ _ ?_)
  cases failure <;> rfl

theorem Gone.still {held : AttachGuard} (gone : Gone held world after) : world.Still after := by
  cases gone with
  | found => exact .refl world
  | detached => exact runtimeSet_still world _
  | noted => exact (runtimeSet_still world _).then_still (.note _ _ rfl)

theorem drop_quietly (held : AttachGuard) :
    Quietly (drop held : BridgeM σ Mark Unit) [] 0 world := by
  obtain ⟨after, dropped, gone⟩ := drop_runs held world
  exact ⟨(), after, dropped, gone.still⟩

theorem Attaching.still {operation : String} {held : AttachGuard}
    (attaching : Attaching operation world (.ok held) after) : world.Still after := by
  cases attaching with
  | found => exact .refl world
  | taken => exact runtimeSet_still world _

/-- It is counted that no guard could be had. -/
theorem Attaching.quiet {operation : String} {error : BridgeError}
    (attaching : Attaching operation world (.error error) after) :
    world.Quiet [] (Counter.once .attachFailures) after := by
  cases attaching with
  | unavailable => exact contextMissed_quiet world operation _
  | failed => exact (runtimeSet_still world _).after_still (contextMissed_quiet _ operation _)

/-- Either no context can be had, or the thunk runs in one between still
computations. -/
theorem withAttachedContext_quietly (operation : String)
    (thunk : RuntimeContext → BridgeM σ Mark α) (world : World σ Mark) :
    (∃ failure after, withAttachedContext operation thunk world =
        (.ok (.error (.runtimeAttachment operation failure)), after) ∧
      world.Quiet [] (Counter.once .attachFailures) after) ∨
    ∃ context ready held, world.Still ready ∧
      withAttachedContext operation thunk world =
        (do return .ok (← ensuring (thunk context) (drop held)) :
          BridgeM σ Mark (Except BridgeError α)) ready := by
  cases course operation world with
  | refused attaching runs =>
      obtain ⟨failure, rfl⟩ := attaching.error_eq
      exact .inl ⟨failure, _, runs thunk, attaching.quiet⟩
  | @faulty held ready after attaching _ gone runs =>
      have looked := attaching.still.then_still (runtimeSet_still ready ready.runtime.takeFault.2)
      have missed := looked.after_still (contextMissed_quiet _ operation .pendingFault)
      exact .inl ⟨.pendingFault, _, runs thunk, missed.then_still gone.still⟩
  | granted attaching runs =>
      exact .inr ⟨_, _, _, attaching.still.then_still (runtimeSet_still _ _), runs thunk⟩

end Attachment

/-! ### The end of a registration -/

/-- No act and no counter of calls tells of the end of a registration. -/
theorem World.Quiet.of_concluded {peer : Peer} {outcome : Option Teardown × Lifecycle}
    {hooks : List Hook} {charge : Counter → Nat}
    (quiet : (world.concluded peer outcome).Quiet hooks charge after) :
    after.acts = world.acts ++ hooks.map .hookRan ∧
      ∀ counter, after.metric counter = world.metric counter + charge counter := by
  obtain ⟨remains, next⟩ := outcome
  have acts := quiet.acts
  have counted := quiet.counted
  cases remains with
  | none => exact ⟨acts, counted⟩
  | some _ =>
      refine ⟨acts, fun counter => ?_⟩
      rw [counted]
      cases counter <;> rfl

namespace References

variable {peer : Peer}

/-- The last reference's teardown frees the handle and runs the hooks of the
buffers that are left; else nothing is left to do. -/
theorem finish_quietly (sound : world.Sound) (genuine : world.Genuine peer)
    {given : Lifecycle} (live : (world.life peer.entry).state ≠ .disposed)
    (held : given.tryTeardown.2.Held) :
    ∃ after, finish .own peer given.tryTeardown.1
        (world.setLife peer.entry given.tryTeardown.2) = (.ok (.ok ()), after) ∧
      (world.concluded peer given.tryTeardown).Quiet
        (given.tryTeardown.1.toList.flatMap Teardown.hooks) 0 after := by
  rcases Lifecycle.tryTeardown_cases given with ⟨_, _, torn⟩ | ⟨_, torn⟩
  · rw [torn] at held ⊢
    obtain ⟨unbound, unregistered, unboundSound, freed⟩ :=
      unregister_tornDown sound genuine live held
    let buffers := given.receives.filterMap (·.buffer)
    obtain ⟨_, unpinned, unpin, one⟩ :
        Quietly (given.pin.forM Custody.letGoOfTarget) [] 0 unbound :=
      .optionForM fun target => Custody.letGoOfTarget_quietly unboundSound target
    obtain ⟨_, emptied, empty, two⟩ : Quietly (buffers.forM dropBuffer)
      (buffers.flatMap NativeBuffer.dropped) 0 unpinned := .dropBuffers buffers
    let counted := emptied.count .own Metrics.countDisposed
    refine ⟨counted.push (.noted (.disposed peer.handle buffers.length)), effect_of_ok ?_, ?_⟩
    · exact (bind_of_ok unregistered).trans ((bind_of_ok unpin).trans
        ((bind_of_ok empty).trans ((bind_of_ok rfl).trans rfl)))
    · have dropped := one.after_still two
      have disposing : (unbound.count .own Metrics.countDisposed).Quiet
          (buffers.flatMap NativeBuffer.dropped) 0 counted := by
        refine ⟨dropped.toPlain.countDisposed, dropped.acts, dropped.host, fun counter => ?_,
          dropped.drops⟩
        have kept := dropped.counted counter
        cases counter <;> exact kept
      rw [Option.toList_some, List.flatMap_singleton]
      show World.Quiet ((world.setLife peer.entry given.tornDown).freed peer.handle) _ _ _
      rw [freed]
      exact disposing.then_still (.note counted _ rfl)
  · rw [torn]
    exact ⟨world.setLife peer.entry given, rfl, .refl _⟩

end References

end Quiet

end TransportBridge
