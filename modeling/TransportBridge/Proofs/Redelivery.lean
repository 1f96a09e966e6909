import TransportBridge.Proofs.Attained
import TransportBridge.Proofs.Undelivered

/-!
Contract: an event that was rejected for want of a context, and is reported
again.

All events but write completions leave everything where it was, so that any
number of such attempts goes before a successful one without a difference. A
write completion confirms its bytes although nobody has heard of it, so that
the next report of it is a different one.
-/

namespace TransportBridge

variable {σ : Type} {world tried after : World σ Mark}

/-! ## Recorded and otherwise -/

namespace World

/-- What has been recorded so far. -/
def past (world : World σ Mark) : Past :=
  ⟨world.trace, world.own.metrics⟩

/-- The world without its past. -/
def unrecorded (world : World σ Mark) : World σ Mark :=
  { world with own := { world.own with metrics := {} }, trace := #[] }

theorem preceded_past (world : World σ Mark) : world.unrecorded.preceded world.past = world := by
  obtain ⟨_, _, _, _, ⟨_, _⟩, _, _, _, _, _, _⟩ := world
  simp [preceded, past, unrecorded, Metrics.since]

theorem Untouched.unrecorded_amid {done : List (Moment Mark)}
    (untouched : world.Untouched done after) (surroundings : Surroundings σ) :
    (after.amid surroundings).unrecorded = (world.amid surroundings).unrecorded := by
  obtain ⟨⟨_, _, _⟩, _⟩ := untouched
  rfl

theorem books_of_unrecorded {surroundings : Surroundings σ}
    (same : (tried.amid surroundings).unrecorded = (world.amid surroundings).unrecorded) :
    tried.entries = world.entries ∧ tried.own.registry = world.own.registry := by
  have entries : (tried.amid surroundings).unrecorded.entries =
      (world.amid surroundings).unrecorded.entries := by rw [same]
  have registry : (tried.amid surroundings).unrecorded.own.registry =
      (world.amid surroundings).unrecorded.own.registry := by rw [same]
  exact ⟨entries, registry⟩

theorem peer?_amid (registry : after.own.registry = world.own.registry) (handle : Handle)
    (surroundings : Surroundings σ) :
    (after.amid surroundings).peer? handle = world.peer? handle := by
  unfold peer?
  rw [← registry]
  rfl

theorem untouched_push (world : World σ Mark) (moment : Moment Mark)
    (act : moment.isNotice = false) : world.Untouched [moment] (world.push moment) := by
  refine .of_same (.intro _ _ ?_) rfl
  have acts := world.acts_push moment
  rw [act] at acts
  exact acts

end World

/-- Code that is heedless comes to the same in worlds with different pasts. -/
theorem BridgeCall.make_of_unrecorded [Custodian σ] {behaviour : Behaviour σ}
    (heedless : behaviour.Heedless) (depth : Nat) (call : BridgeCall) (sound : world.Sound) :
    call.make behaviour depth world =
      world.past.view.upon (call.make behaviour depth world.unrecorded) := by
  have unrecordedSound : world.unrecorded.Sound := sound.of_same rfl rfl
  have follows : Follows world.past.view (call.make behaviour depth) (call.make behaviour depth)
      world.unrecorded :=
    make_follows (heedless.overlooks _) depth call unrecordedSound
  have whole : world.unrecorded.through world.past.view = world := world.preceded_past
  unfold Follows at follows
  rwa [whole] at follows

/-! ## A runtime that fails once -/

/-- Code that does nothing. -/
def Behaviour.silent : Behaviour Bystander :=
  Bystander.answering fun _ => .finish ()

theorem Behaviour.silent_heedless : silent.Heedless where
  callback _ _ _ := trivial
  createHandle _ _ := trivial
  engine _ _ := trivial
  createTarget _ _ _ _ := trivial

theorem Reply.ok_of_rejected {outcome : Except Panic Reply} {error : BridgeError}
    (rejected : Reply.ofOutcome outcome = .rejected error) : outcome = .ok (.rejected error) := by
  cases outcome with
  | ok reply => exact congrArg Except.ok rejected
  | error panic => cases rejected

namespace Surroundings

def working : Surroundings Bystander :=
  ⟨.inProcess, ⟨0⟩, none, {}⟩

/-- A runtime that will not attach the next thread. -/
def failing : Surroundings Bystander :=
  ⟨.simulated { nextAttachFailure := some (-1) }, ⟨0⟩, none, {}⟩

end Surroundings

namespace Bystander

/-- An open connection, with three bytes that have not been confirmed. -/
def opened : World Bystander Mark :=
  Behaviour.silent.inTurn 1
    [.adoptInbound handle ⟨0⟩,
      .native handle (.openRequest ⟨"stream", "near", 1, ""⟩ (.transferable [])),
      .socket ⟨0⟩ (.write [1, 2, 3])] start

/-- Two bytes that the native side wants back. -/
def lent : NativeEvent :=
  .received ((NativeBuffer.borrowed [1, 2]).withRelease "lent")

def lend (surroundings : Surroundings Bystander) (world : World Bystander Mark) :
    World Bystander Mark :=
  ((BridgeCall.native handle lent).make .silent 1 (world.amid surroundings)).2

end Bystander

/-! ## Attempts in vain -/

section Attempts

variable [Custodian σ] {handle : Handle} {peer : Peer} {reported : NativeEvent}

/-- The same report is made any number of times, each time amid other
surroundings and with other user code, and rejected for want of a context. -/
inductive TriedInVain (handle : Handle) (reported : NativeEvent) (world : World σ Mark) :
    World σ Mark → Prop where
  | untried : TriedInVain handle reported world world
  | again {tried after : World σ Mark} (earlier : TriedInVain handle reported world tried)
      (surroundings : Surroundings σ) (behaviour : Behaviour σ) (depth : Nat)
      {error : BridgeError} (wanting : error.kind = .runtimeAttachment)
      (ran : (BridgeCall.native handle reported).make behaviour (depth + 1)
        (tried.amid surroundings) = (.ok (.rejected error), after)) :
      TriedInVain handle reported world after

/-- What is done by a report that is rejected: a native buffer is dropped. -/
def vainActs (handle : Handle) (reported : NativeEvent) (error : BridgeError) :
    List (Moment Mark) :=
  .marked (.called (.native handle reported)) :: (reported.freed.map .hookRan ++
    [.marked (.replied (.native handle reported) (.rejected error))])

namespace Attained

/-- A report that is rejected for want of a context leaves all as it was, unless
bytes are confirmed. -/
theorem untouched (attained : Attained world) (known : world.peer? handle = some peer)
    (unconfirmed : reported.kind ≠ .writeCompleted) {behaviour : Behaviour σ} {depth : Nat}
    {error : BridgeError} (wanting : error.kind = .runtimeAttachment)
    (ran : (BridgeCall.native handle reported).make behaviour (depth + 1) world =
      (.ok (.rejected error), after)) :
    world.Untouched (vainActs handle reported error) after := by
  obtain ⟨ended, dispatched, rfl⟩ := BridgeCall.native_rejected ran
  obtain ⟨told, kind, left, misses, missed⟩ :=
    Delivery.dispatch_rejected (attained.sound.push _) known wanting dispatched
  have restored : left = world.life peer.entry :=
    (attained.reflects peer.entry).unchanged_of_misses (attained.sound.life_held _) misses
      (kind ▸ unconfirmed)
  let called := world.push (.marked (.called (.native handle reported)))
  have standing : called.setLife peer.entry (world.life peer.entry) = called :=
    called.setLife_life peer.entry
  rw [restored, standing] at missed
  exact ((world.untouched_push _ rfl).trans missed).trans (ended.untouched_push _ rfl)

end Attained

namespace TriedInVain

theorem attained (vain : TriedInVain handle reported world tried) (attained : Attained world) :
    Attained tried := by
  induction vain with
  | untried => exact attained
  | again _ surroundings behaviour depth _ ran inductionHypothesis =>
      have called := (inductionHypothesis.rearranged surroundings).called behaviour (depth + 1)
        (.native handle reported)
      rwa [ran] at called

/-- Amid the same surroundings, the attempts have made no difference but in what
is recorded. -/
theorem unrecorded_amid (vain : TriedInVain handle reported world tried)
    (attained : Attained world) (known : world.peer? handle = some peer)
    (unconfirmed : reported.kind ≠ .writeCompleted) (surroundings : Surroundings σ) :
    (tried.amid surroundings).unrecorded = (world.amid surroundings).unrecorded := by
  induction vain generalizing surroundings with
  | untried => rfl
  | @again tried after earlier between behaviour depth error wanting ran inductionHypothesis =>
      obtain ⟨_, registry⟩ := World.books_of_unrecorded (inductionHypothesis between)
      have still : (tried.amid between).peer? handle = some peer :=
        (World.peer?_amid registry handle between).trans known
      have untouched := ((earlier.attained attained).rearranged between).untouched still
        unconfirmed wanting ran
      exact (untouched.unrecorded_amid surroundings).trans (inductionHypothesis surroundings)

end TriedInVain

/-- A confirmation of bytes that are pending is told to the target, where the
runtime works. -/
theorem BridgeCall.confirmation_told (sound : world.Sound) (known : world.peer? handle = some peer)
    {byteCount : Nat} {target : TargetId} {next : Lifecycle}
    (accepted : (world.life peer.entry).acceptWriteCompleted byteCount = .ok (target, next))
    (works : world.runtime.Works) (behaviour : Behaviour σ) (depth : Nat) :
    ∃ rest, ((BridgeCall.native handle (.writeCompleted byteCount)).make behaviour (depth + 1)
      world).2.deeds peer.entry = world.deeds peer.entry ++ .callback .writeCompleted :: rest := by
  let call := BridgeCall.native handle (.writeCompleted byteCount)
  let host := behaviour.host (BridgeCall.make behaviour depth)
  let called := world.push (.marked (.called call))
  have calling : world.Plain called := .push (fun _ => rfl) rfl
  have knownStill : called.peer? handle = some peer := known
  obtain ⟨rest, told⟩ := Delivery.onWriteCompleted_tells (behaviour.host_make_evolves depth)
    (sound.plain calling) knownStill accepted works
  have performed : (call.perform host called).2 = _ :=
    BridgeCall.replyTo_world (Delivery.onWriteCompleted host handle byteCount)
      (fun _ => .done) called
  refine ⟨rest, ?_⟩
  rw [BridgeCall.make_succ]
  unfold BridgeCall.replied
  rw [World.deeds_push, performed, told, calling.deeds]
  exact List.append_nil _

/-- A confirmation that is refused comes to nothing. -/
theorem BridgeCall.confirmation_refused (sound : world.Sound)
    (known : world.peer? handle = some peer) {byteCount : Nat} {refusal : Refusal}
    (refused : (world.life peer.entry).acceptWriteCompleted byteCount = .error refusal)
    (behaviour : Behaviour σ) (depth : Nat) :
    ∃ after, (BridgeCall.native handle (.writeCompleted byteCount)).make behaviour (depth + 1)
      world = (.ok (.rejected (refusal.toError handle)), after) ∧ world.Plain after := by
  let call := BridgeCall.native handle (.writeCompleted byteCount)
  let host := behaviour.host (BridgeCall.make behaviour depth)
  let called := world.push (.marked (.called call))
  have calling : world.Plain called := .push (fun _ => rfl) rfl
  obtain ⟨done, rejected, plain⟩ : Rejects (Delivery.onWriteCompleted host handle byteCount) _
      called := Delivery.onWriteCompleted_rejects (sound.plain calling) known refused
  rw [World.handle_of_peer? known] at rejected
  have performed : call.perform host called = (.ok (.rejected (refusal.toError handle)), done) :=
    bind_of_ok (show (Delivery.onWriteCompleted host handle byteCount).run called = _ from rejected)
  have made := BridgeCall.make_runs behaviour depth call world
  simp only [BridgeCall.replied] at made
  rw [show call.perform _ _ = _ from performed] at made
  have proper : (world.life peer.entry).Proper :=
    sound.life_proper (Registration.genuine_of_peer? sound known)
  have noLapse : (refusal.toError handle).isLapse = false :=
    (refusal.toError_isLapse _).trans (proper.acceptWriteCompleted_refused refused)
  exact ⟨_, made, (calling.trans plain).trans (.push (fun _ => rfl) noLapse)⟩

namespace Attained

/-- An event that is not delivered for want of a context may be reported again.
A rejected report begins no callback, leaves all lifecycles, the registry and
the attachment of every thread as they were, and drops its native buffer once.
Any number of such reports makes no difference to the next one: user code that
is heedless of what has been recorded ends in the same lifecycles, and the
trace goes on with the same moments. -/
theorem redelivered (attained : Attained world) (known : world.peer? handle = some peer)
    (unconfirmed : reported.kind ≠ .writeCompleted) :
    (∀ behaviour depth error after, error.kind = .runtimeAttachment →
      (BridgeCall.native handle reported).make behaviour (depth + 1) world =
        (.ok (.rejected error), after) →
      after.entries = world.entries ∧ after.own.registry = world.own.registry ∧
        (∀ thread, after.runtime.isAttached? thread = world.runtime.isAttached? thread) ∧
        after.acts = world.acts ++ vainActs handle reported error) ∧
    ∀ tried, TriedInVain handle reported world tried →
      tried.entries = world.entries ∧ tried.own.registry = world.own.registry ∧
      ∀ behaviour : Behaviour σ, behaviour.Heedless → ∀ depth surroundings,
        let alone := (BridgeCall.native handle reported).make behaviour depth
          (world.amid surroundings)
        let again := (BridgeCall.native handle reported).make behaviour depth
          (tried.amid surroundings)
        again.1 = alone.1 ∧ again.2.entries = alone.2.entries ∧
          again.2.own.registry = alone.2.own.registry ∧
          ∃ moments, alone.2.trace = world.trace ++ moments ∧
            again.2.trace = tried.trace ++ moments := by
  refine ⟨fun behaviour depth error after wanting ran => ?_, fun tried vain => ?_⟩
  · have untouched := attained.untouched known unconfirmed wanting ran
    obtain ⟨⟨_, _, acts⟩, attachments⟩ := untouched
    exact ⟨rfl, rfl, attachments, acts⟩
  · have same := vain.unrecorded_amid attained known unconfirmed
    obtain ⟨entries, registry⟩ := World.books_of_unrecorded (same world.surroundings)
    refine ⟨entries, registry, fun behaviour heedless depth surroundings => ?_⟩
    have one := BridgeCall.make_of_unrecorded heedless depth (.native handle reported)
      (attained.rearranged surroundings).sound
    have two := BridgeCall.make_of_unrecorded heedless depth (.native handle reported)
      ((vain.attained attained).rearranged surroundings).sound
    rw [same] at two
    intro alone again
    have alone_eq : alone = _ := one
    have again_eq : again = _ := two
    rw [alone_eq, again_eq]
    exact ⟨rfl, rfl, rfl, _, rfl, rfl⟩

/-- Borrowed bytes come in three times, twice where no thread is attached for
them. -/
theorem redelivered_of_failed_twice :
    let error : BridgeError := .runtimeAttachment "on_received" (.attachFailed (-1))
    let once := Bystander.lend .failing Bystander.opened
    let twice := Bystander.lend .failing once
    let alone := Bystander.lend .working Bystander.opened
    let again := Bystander.lend .working twice
    twice.entries = Bystander.opened.entries ∧ again.entries = alone.entries ∧
      again.deeds ⟨0⟩ = [.callback .openRequest, .forwarded (.write [1, 2, 3]),
        .callback .received] ∧
      once.acts = Bystander.opened.acts ++ vainActs Bystander.handle Bystander.lent error := by
  intro error once twice alone again
  have attained : Attained Bystander.opened := (Bystander.reachable_inTurn _ _ _).attained
  have known : Bystander.opened.peer? Bystander.handle = some ⟨⟨0⟩, Bystander.handle⟩ := by
    decide +kernel
  let report := BridgeCall.native Bystander.handle Bystander.lent
  have first : report.make .silent 1 (Bystander.opened.amid .failing) =
      (.ok (.rejected error), once) := Prod.ext (Reply.ok_of_rejected (by decide +kernel)) rfl
  have second : report.make .silent 1 (once.amid .failing) = (.ok (.rejected error), twice) :=
    Prod.ext (Reply.ok_of_rejected (by decide +kernel)) rfl
  have vain : TriedInVain Bystander.handle Bystander.lent Bystander.opened twice :=
    .again (.again .untried .failing .silent 0 rfl first) .failing .silent 0 rfl second
  have unconfirmed : Bystander.lent.kind ≠ .writeCompleted := by decide
  obtain ⟨_, repeated⟩ := redelivered attained known unconfirmed
  obtain ⟨attempted, _⟩ := redelivered (attained.rearranged .failing) known unconfirmed
  obtain ⟨_, _, _, acts⟩ := attempted .silent 0 error once rfl first
  obtain ⟨entries, _, next⟩ := repeated twice vain
  obtain ⟨_, same, _⟩ := next .silent Behaviour.silent_heedless 1 .working
  have told : again.deeds ⟨0⟩ = [.callback .openRequest, .forwarded (.write [1, 2, 3]),
      .callback .received] := by decide +kernel
  refine ⟨entries, ?_, told, acts⟩
  unfold again alone Bystander.lend
  exact same

/-- A confirmation that is not delivered confirms its bytes, and nothing else is
changed by it. -/
theorem confirmed_unheard (attained : Attained world) (known : world.peer? handle = some peer)
    {byteCount : Nat} {behaviour : Behaviour σ} {depth : Nat} {error : BridgeError}
    (wanting : error.kind = .runtimeAttachment)
    (ran : (BridgeCall.native handle (.writeCompleted byteCount)).make behaviour (depth + 1)
      world = (.ok (.rejected error), after)) :
    ∃ target next, (world.life peer.entry).acceptWriteCompleted byteCount = .ok (target, next) ∧
      (world.setLife peer.entry next).Untouched (vainActs handle (.writeCompleted byteCount) error)
        after := by
  obtain ⟨ended, dispatched, rfl⟩ := BridgeCall.native_rejected ran
  obtain ⟨left, misses, missed⟩ := Delivery.onWriteCompleted_rejected (attained.sound.push _) known
    wanting dispatched
  cases misses with
  | @writeCompleted _ target next accepted =>
      refine ⟨target, left, accepted, ?_⟩
      have calling := (world.untouched_push (.marked (.called (.native handle
        (.writeCompleted byteCount)))) rfl).setLife peer.entry left
      exact (calling.trans missed).trans (ended.untouched_push _ rfl)

/-- A confirmation that is not delivered for want of a context is lost. Its
bytes count as confirmed, so that a second report of it confirms as many
others: it is told to the target only where that many are left, and rejected
as one too many otherwise. -/
theorem confirmation_lost (attained : Attained world) (known : world.peer? handle = some peer)
    {byteCount : Nat} {behaviour : Behaviour σ} {depth : Nat} {error : BridgeError}
    (wanting : error.kind = .runtimeAttachment)
    (ran : (BridgeCall.native handle (.writeCompleted byteCount)).make behaviour (depth + 1)
      world = (.ok (.rejected error), after)) :
    let pending := (world.life peer.entry).pendingWrite
    byteCount ≤ pending ∧
      after.life peer.entry =
        { world.life peer.entry with pendingWrite := pending - byteCount } ∧
      (∀ id, id ≠ peer.entry → after.life id = world.life id) ∧
      after.own.registry = world.own.registry ∧
      ∀ (behaviour : Behaviour σ) depth (surroundings : Surroundings σ),
        surroundings.runtime.Works →
        let again := (BridgeCall.native handle (.writeCompleted byteCount)).make behaviour
          (depth + 1) (after.amid surroundings)
        (2 * byteCount ≤ pending → ∃ rest, again.2.deeds peer.entry =
          after.deeds peer.entry ++ .callback .writeCompleted :: rest) ∧
        (pending < 2 * byteCount →
          again.1 = .ok (.rejected (.invariantViolation (some handle)
            (.completionExceeds byteCount (pending - byteCount)))) ∧
          again.2.entries = after.entries ∧
          again.2.deeds peer.entry = after.deeds peer.entry) := by
  intro pending
  obtain ⟨target, next, accepted, untouched⟩ := attained.confirmed_unheard known wanting ran
  obtain ⟨streaming, pinned, bounded, rfl⟩ := Lifecycle.acceptWriteCompleted_ok accepted
  obtain ⟨entry, found, _⟩ := Registration.genuine_of_peer? attained.sound known
  have left : after.life peer.entry =
      { world.life peer.entry with pendingWrite := pending - byteCount } := by
    rw [untouched.unmoved.life, World.life_setLife_self found]
  have registry : after.own.registry = world.own.registry := by
    obtain ⟨⟨_, _, _⟩, _⟩ := untouched
    rfl
  refine ⟨bounded, left, fun id other => ?_, registry, ?_⟩
  · rw [untouched.unmoved.life, World.life_setLife_of_ne _ other]
  intro behaviour' depth' surroundings works again
  have attainedAgain : Attained (after.amid surroundings) := by
    have called := attained.called behaviour (depth + 1)
      (.native handle (.writeCompleted byteCount))
    rw [ran] at called
    exact called.rearranged surroundings
  have knownAgain : (after.amid surroundings).peer? handle = some peer :=
    (World.peer?_amid registry handle surroundings).trans known
  have streamingStill : (after.life peer.entry).state.acceptsStreamEvents = true := by
    rw [left]
    exact streaming
  have pinnedStill : (after.life peer.entry).pin = some target := by
    rw [left]
    exact pinned
  have remaining : (after.life peer.entry).pendingWrite = pending - byteCount := by rw [left]
  have second := Lifecycle.acceptWriteCompleted_of_streaming streamingStill pinnedStill byteCount
  rw [remaining] at second
  constructor
  · intro enough
    rw [if_neg (by omega)] at second
    exact BridgeCall.confirmation_told attainedAgain.sound knownAgain second works behaviour' depth'
  · intro few
    rw [if_pos (by omega)] at second
    obtain ⟨last, made, plain⟩ := BridgeCall.confirmation_refused attainedAgain.sound knownAgain second
      behaviour' depth'
    have again_eq : again = (.ok (.rejected _), last) := made
    rw [again_eq]
    exact ⟨rfl, plain.entries, plain.deeds peer.entry⟩

/-- Three bytes are pending. The confirmation is not delivered, and rejected as
one too many when it is repeated. -/
theorem confirmation_lost_of_failed_once :
    let report := BridgeCall.native Bystander.handle (.writeCompleted 3)
    let once := (report.make .silent 1 (Bystander.opened.amid Surroundings.failing)).2
    let again := report.make .silent 1 (once.amid .working)
    (Bystander.opened.life ⟨0⟩).pendingWrite = 3 ∧ (once.life ⟨0⟩).pendingWrite = 0 ∧
      again.1 = .ok (.rejected (.invariantViolation (some Bystander.handle)
        (.completionExceeds 3 0))) ∧
      again.2.deeds ⟨0⟩ = once.deeds ⟨0⟩ := by
  intro report once again
  let before := Bystander.opened.amid Surroundings.failing
  have attained : Attained before :=
    (Bystander.reachable_inTurn _ _ _).attained.rearranged Surroundings.failing
  have known : before.peer? Bystander.handle = some ⟨⟨0⟩, Bystander.handle⟩ := by decide +kernel
  have pending : (before.life ⟨0⟩).pendingWrite = 3 := by decide +kernel
  let error : BridgeError := .runtimeAttachment "on_write_completed" (.attachFailed (-1))
  have ran : report.make .silent 1 before = (.ok (.rejected error), once) :=
    Prod.ext (Reply.ok_of_rejected (by decide +kernel)) rfl
  obtain ⟨_, left, _, _, next⟩ := confirmation_lost attained known rfl ran
  obtain ⟨_, few⟩ := next .silent 0 .working trivial
  obtain ⟨rejected, _, untold⟩ := few (by rw [pending]; decide)
  rw [pending] at left rejected
  have spent : (once.life ⟨0⟩).pendingWrite = 0 := by rw [left]
  exact ⟨pending, spent, rejected, untold⟩

end Attained

end Attempts

end TransportBridge
