import TransportBridge.Proofs.Contexts
import TransportBridge.Proofs.Strides

/-!
Contract: the computations of the bridge that the books do not tell of.

A calm computation gives a result, never panics, and leaves entries, registry,
deeds and the counters of registrations and disposals as they are. Notes, other
counters, holds, attachments, and dropped buffers are calm, and so is letting
go of a registration: in sound books, one that nobody holds is disposed of, and
there is nothing left in it to let go of.
-/

namespace TransportBridge

variable {σ α β : Type} {world : World σ Mark}

/-- The computation gives a result, and the books do not tell of it. -/
def Calm (body : BridgeM σ Mark α) (world : World σ Mark) : Prop :=
  ∃ result after, body world = (.ok result, after) ∧ world.Plain after

/-- The call is rejected for `error`, and the books do not tell of it. -/
def Rejects (body : Call σ Mark α) (error : BridgeError) (world : World σ Mark) : Prop :=
  ∃ after, body world = (.ok (.error error), after) ∧ world.Plain after

/-- The change of the counters leaves registrations and disposals alone. -/
def Metrics.SetsAside (change : Metrics → Metrics) : Prop :=
  ∀ metrics, (change metrics).registered = metrics.registered ∧
    (change metrics).disposed = metrics.disposed

namespace Calm

theorem plain {body : BridgeM σ Mark α} (calm : Calm body world) :
    world.Plain (body world).2 := by
  obtain ⟨result, after, ran, plain⟩ := calm
  rw [ran]
  exact plain

theorem after {body : BridgeM σ Mark α} {outcome : Except Panic α} {after : World σ Mark}
    (calm : Calm body world) (ran : body world = (outcome, after)) : world.Plain after := by
  have plain := calm.plain
  rwa [ran] at plain

theorem pure (result : α) : Calm (Pure.pure result : BridgeM σ Mark α) world :=
  ⟨result, world, rfl, .refl world⟩

theorem bind {first : BridgeM σ Mark α} {next : α → BridgeM σ Mark β} (one : Calm first world)
    (two : ∀ result after, first world = (.ok result, after) → world.Plain after →
      Calm (next result) after) : Calm (first >>= next) world := by
  obtain ⟨result, middle, ran, plain⟩ := one
  obtain ⟨last, after, finished, rest⟩ := two result middle ran plain
  exact ⟨last, after, (bind_of_ok ran).trans finished, plain.trans rest⟩

/-- Sequencing where the second computation is calm in any world. -/
theorem andThen {first : BridgeM σ Mark α} {next : α → BridgeM σ Mark β}
    (one : Calm first world) (two : ∀ result after, Calm (next result) after) :
    Calm (first >>= next) world :=
  one.bind fun result after _ _ => two result after

theorem of_change {change : World σ Mark → World σ Mark} (plain : world.Plain (change world)) :
    Calm (modify change : BridgeM σ Mark Unit) world :=
  ⟨(), change world, rfl, plain⟩

theorem witness {moment : Moment Mark} (untold : ∀ id, moment.deed? id = none)
    (noLapse : moment.isLapse = false) :
    Calm (TransportBridge.witness moment : BridgeM σ Mark Unit) world :=
  of_change (.push untold noLapse)

theorem note (notice : Notice) (noLapse : notice.isLapse = false) :
    Calm (TransportBridge.note notice : BridgeM σ Mark Unit) world :=
  witness (fun _ => rfl) noLapse

theorem count (book : Book) {change : Metrics → Metrics} (aside : Metrics.SetsAside change) :
    Calm (TransportBridge.count book change : BridgeM σ Mark Unit) world := by
  apply of_change
  cases book with
  | own =>
      obtain ⟨registered, disposed⟩ := aside world.own.metrics
      exact ⟨rfl, rfl, rfl, registered, disposed, fun _ => rfl, rfl⟩
  | foreign => exact .aside rfl rfl rfl rfl

theorem forM {items : List α} {body : α → BridgeM σ Mark Unit}
    (each : ∀ item world, Calm (body item) world) : Calm (items.forM body) world := by
  induction items generalizing world with
  | nil => exact .pure ()
  | cons item rest inductionHypothesis =>
      exact (each item world).bind fun _ _ _ _ => inductionHypothesis

theorem optionForM {item : Option α} {body : α → BridgeM σ Mark Unit}
    (each : ∀ item, Calm (body item) world) : Calm (item.forM body) world := by
  cases item with
  | none => exact .pure ()
  | some item => exact each item

theorem dropBuffer (buffer : NativeBuffer Hook) :
    Calm (TransportBridge.dropBuffer buffer : BridgeM σ Mark Unit) world :=
  forM fun _ _ => witness (fun _ => rfl) rfl

end Calm

/-! ## Rejected calls -/

namespace References

/-- Whatever is reported, the log goes on and the error is given back. -/
theorem report_ends (world : World σ Mark) (book : Book) (error : BridgeError) :
    ∃ counted notice, (report book error : BridgeM σ Mark BridgeError) world =
        (.ok error, counted.push (.noted notice)) ∧
      world.Plain counted ∧ notice.isLapse = error.isLapse := by
  unfold report
  split
  · obtain ⟨_, counted, count, plain⟩ : Calm (count book Metrics.countViolation) world :=
      .count book fun _ => ⟨rfl, rfl⟩
    exact ⟨counted, .invariantViolated error, bind_of_ok count, plain, rfl⟩
  · exact ⟨world, .callRejected error, rfl, .refl world, rfl⟩

theorem reject_ends (world : World σ Mark) (book : Book) (error : BridgeError) :
    ∃ after, (reject book error : Call σ Mark α) world = (.ok (.error error), after) := by
  obtain ⟨_, _, reported, _⟩ := report_ends world book error
  exact ⟨_, effectBind_of_ok reported⟩

theorem reject_rejects (book : Book) {error : BridgeError} (noLapse : error.isLapse = false) :
    Rejects (reject book error : Call σ Mark α) error world := by
  obtain ⟨counted, notice, reported, plain, same⟩ := report_ends world book error
  have noting : counted.Plain (counted.push (.noted notice)) :=
    .push (fun _ => rfl) (same.trans noLapse)
  exact ⟨_, effectBind_of_ok reported, plain.trans noting⟩

theorem checked_of_ok {book : Book} {peer : Peer} {step : Lifecycle → Lifecycle.Step α}
    {result : α} {next : Lifecycle} (taken : step (world.life peer.entry) = .ok (result, next)) :
    checked book peer step world = (.ok (.ok result), world.setLife peer.entry next) := by
  have ran : attempt peer.entry step world =
      (.ok (.ok result), world.setLife peer.entry next) := by
    unfold attempt
    rw [taken]
  exact effectBind_of_ok ran

section Refused

variable {book : Book} {peer : Peer} {step : Lifecycle → Lifecycle.Step α} {refusal : Refusal}

private theorem checked_refused_eq (refused : step (world.life peer.entry) = .error refusal) :
    checked book peer step world =
      (reject book (refusal.toError peer.handle) : Call σ Mark α) world := by
  have ran : attempt peer.entry step world = (.ok (.error refusal), world) := by
    unfold attempt
    rw [refused]
  exact effectBind_of_ok ran

theorem checked_ends (refused : step (world.life peer.entry) = .error refusal) :
    ∃ after, checked book peer step world =
      (.ok (.error (refusal.toError peer.handle)), after) := by
  rw [checked_refused_eq refused]
  exact reject_ends world book _

theorem checked_of_refused (refused : step (world.life peer.entry) = .error refusal)
    (noLapse : refusal.isLapse = false) :
    Rejects (checked book peer step) (refusal.toError peer.handle) world := by
  unfold Rejects
  rw [checked_refused_eq refused]
  exact reject_rejects book ((refusal.toError_isLapse _).trans noLapse)

theorem checkedBind_of_refused (refused : step (world.life peer.entry) = .error refusal)
    (noLapse : refusal.isLapse = false) (rest : α → Call σ Mark β) :
    Rejects (checked book peer step >>= rest) (refusal.toError peer.handle) world := by
  obtain ⟨after, ran, plain⟩ : Rejects (checked book peer step) _ world :=
    checked_of_refused refused noLapse
  exact ⟨after, callBind_of_rejected ran, plain⟩

end Refused

end References

/-! ## Holds -/

namespace Custody

theorem lend_calm (target : TargetId) : Calm (lend target : BridgeM σ Mark Unit) world :=
  .of_change (.aside rfl rfl rfl rfl)

theorem takeBack_calm (target : TargetId) :
    Calm (takeBack target : BridgeM σ Mark Unit) world :=
  .of_change (.aside rfl rfl rfl rfl)

variable [Custodian σ]

omit [Custodian σ] in
/-- An entry that its handle does not stand for is disposed of, or was never
there. -/
theorem abandon_of_unbound (sound : world.Sound) {id : EntryId} (unbound : world.binds id = false) :
    (world.life id).abandon = (([], none), world.life id) := by
  cases found : world.entry? id with
  | none =>
      rw [World.life_of_absent found]
      rfl
  | some entry =>
      have other : world.own.registry.lookup? entry.handle ≠ some id := by
        intro bound
        unfold World.binds at unbound
        rw [found] at unbound
        simp [bound] at unbound
      have disposed : entry.life.state = .disposed :=
        Decidable.not_not.mp fun live => other ((sound.bound found).mpr live)
      rw [World.life_of_entry found]
      exact ((sound.proper found).spent disposed).abandon

/-- Nothing comes of letting go of a registration that has nothing left to give. -/
theorem letGo_of_spent {id : EntryId}
    (spent : world.binds id = false → (world.life id).abandon = (([], none), world.life id)) :
    letGo id world = (.ok (), world) := by
  cases held : isHeld world id with
  | true => exact letGo_of_isHeld held
  | false =>
      have unbound : world.binds id = false := by
        simp only [isHeld, Bool.or_eq_false_iff] at held
        exact held.1.1
      have abandoned : change id Lifecycle.abandon world = (.ok ([], none), world) := by
        unfold change
        rw [spent unbound]
        exact congrArg (Prod.mk _) (World.setLife_life world id)
      show letGoWithin (world.entries.size + 1) id world = (.ok (), world)
      unfold letGoWithin
      show (if isHeld world id = true then (return () : BridgeM σ Mark Unit) else _) world = _
      rw [if_neg (Bool.eq_false_iff.mp held)]
      exact bind_of_ok abandoned

theorem letGo_of_sound (sound : world.Sound) (id : EntryId) :
    letGo id world = (.ok (), world) :=
  letGo_of_spent (abandon_of_unbound sound)

theorem letGo_calm (sound : world.Sound) (id : EntryId) :
    Calm (letGo id : BridgeM σ Mark Unit) world :=
  ⟨(), world, letGo_of_sound sound id, .refl world⟩

theorem forgetTarget_calm (target : TargetId) :
    Calm (forgetTarget target : BridgeM σ Mark (Option EntryId)) world := by
  unfold Calm forgetTarget
  split
  · exact ⟨none, world, rfl, .refl world⟩
  · exact ⟨_, _, rfl, .aside rfl rfl rfl rfl⟩

theorem letGoOfTarget_calm (sound : world.Sound) (target : TargetId) :
    Calm (letGoOfTarget target : BridgeM σ Mark Unit) world := by
  unfold letGoOfTarget
  apply (forgetTarget_calm target).bind
  intro known after _ plain
  cases known with
  | none => exact .pure ()
  | some known => exact letGo_calm (sound.plain plain) known

/-- A target that was held is let go of. -/
theorem giveBack_calm (sound : world.Sound) (target : TargetId) :
    Calm (do takeBack target; letGoOfTarget target : BridgeM σ Mark Unit) world :=
  (takeBack_calm target).bind fun _ _ _ plain => letGoOfTarget_calm (sound.plain plain) target

end Custody

/-! ## Attachments -/

namespace World.Plain

theorem runtimeSet (world : World σ Mark) (runtime : ManagedRuntime) :
    world.Plain (world.runtimeSet runtime) :=
  .aside rfl rfl rfl rfl

theorem contextMissed (world : World σ Mark) (operation : String) (failure : AttachFailure) :
    world.Plain (world.contextMissed operation failure) := by
  have counted : Calm (TransportBridge.count .own Metrics.countAttachFailure) world :=
    .count .own fun _ => ⟨rfl, rfl⟩
  refine (counted.after rfl).trans (.push (fun _ => rfl) ?_)
  cases failure <;> rfl

theorem faultTaken (world : World σ Mark) : world.Plain world.faultTaken :=
  .runtimeSet world _

theorem dispatching (world : World σ Mark) (peer : Peer) (target : TargetId)
    (event : SocketEvent) : world.Plain (world.dispatching peer target event) :=
  (World.Plain.push (fun _ => rfl) rfl).trans (.aside rfl rfl rfl rfl)

theorem dispatched (world : World σ Mark) (outcome : Except Panic Unit) :
    world.Plain (world.dispatched outcome) := by
  cases outcome with
  | ok nothing =>
      have counted : Calm (TransportBridge.count .own Metrics.countDispatched) world :=
        .count .own fun _ => ⟨rfl, rfl⟩
      exact counted.after rfl
  | error panic => exact .refl world

theorem eventDropped (world : World σ Mark) (peer : Peer) (event : SocketEvent)
    (error : BridgeError) (noLapse : error.isLapse = false) :
    world.Plain (world.eventDropped peer event error) := by
  have counted : Calm (TransportBridge.count .own Metrics.countDropped) world :=
    .count .own fun _ => ⟨rfl, rfl⟩
  exact (counted.after rfl).trans (.push (fun _ => rfl) noLapse)

end World.Plain

namespace Attachment

theorem Gone.plain {held : AttachGuard} (gone : Gone held world after) : world.Plain after := by
  cases gone with
  | found => exact .refl world
  | detached => exact .runtimeSet world _
  | noted => exact (World.Plain.runtimeSet world _).trans (.push (fun _ => rfl) rfl)

theorem Attaching.plain {operation : String} {answer : Except BridgeError AttachGuard}
    (attaching : Attaching operation world answer after) : world.Plain after := by
  cases attaching with
  | found => exact .refl world
  | taken => exact .runtimeSet world _
  | unavailable => exact .contextMissed world operation _
  | failed => exact (World.Plain.runtimeSet world _).trans (.contextMissed _ operation _)

theorem attach_calm (operation : String) :
    Calm (attach operation : BridgeM σ Mark (Except BridgeError AttachGuard)) world := by
  obtain ⟨answer, after, attach, attaching⟩ := attach_runs operation world
  exact ⟨answer, after, attach, attaching.plain⟩

theorem takeFault_calm : Calm (takeFault : BridgeM σ Mark Bool) world :=
  ⟨_, _, rfl, .faultTaken world⟩

theorem drop_calm (held : AttachGuard) : Calm (drop held : BridgeM σ Mark Unit) world := by
  obtain ⟨after, drop, gone⟩ := drop_runs held world
  exact ⟨(), after, drop, gone.plain⟩

/-- Where the thunk does not run, that is for want of a context. -/
theorem withAttachedContext_gives {operation : String}
    {thunk : RuntimeContext → BridgeM σ Mark α} {error : BridgeError} {after : World σ Mark}
    (ran : withAttachedContext operation thunk world = (.ok (.error error), after)) :
    ∃ failure, error = .runtimeAttachment operation failure := by
  cases course operation world with
  | refused attaching runs =>
      cases (runs thunk).symm.trans ran
      exact attaching.error_eq
  | faulty _ _ _ runs =>
      cases (runs thunk).symm.trans ran
      exact ⟨_, rfl⟩
  | granted _ runs =>
      obtain ⟨_, _, _, given⟩ := bind_ok ((runs thunk).symm.trans ran)
      cases given

/-- Either no context can be had, or the thunk runs in one between calm
computations. -/
theorem withAttachedContext_cases (operation : String)
    (thunk : RuntimeContext → BridgeM σ Mark α) (world : World σ Mark) :
    (∃ error after, withAttachedContext operation thunk world = (.ok (.error error), after) ∧
      world.Plain after ∧ ¬ world.runtime.Works) ∨
    ∃ context ready held, world.Plain ready ∧
      withAttachedContext operation thunk world =
        (do return .ok (← ensuring (thunk context) (drop held)) :
          BridgeM σ Mark (Except BridgeError α)) ready := by
  cases course operation world with
  | refused attaching runs =>
      exact .inl ⟨_, _, runs thunk, attaching.plain, attaching.not_works⟩
  | faulty attaching fault gone runs =>
      have looked := attaching.plain.trans (.faultTaken _)
      exact .inl ⟨_, _, runs thunk, (looked.trans (.contextMissed _ _ _)).trans gone.plain,
        attaching.not_works_of_fault fault⟩
  | granted attaching runs =>
      exact .inr ⟨_, _, _, attaching.plain.trans (.faultTaken _), runs thunk⟩

end Attachment

/-! ## The end of a registration -/

namespace References

variable [Custodian σ] {peer : Peer}

/-- The handle of a registration that is torn down is freed. Nobody has the
registration any more, and all that is left is to count the disposal. -/
theorem unregister_tornDown (sound : world.Sound) (genuine : world.Genuine peer)
    {given : Lifecycle} (live : (world.life peer.entry).state ≠ .disposed)
    (held : given.tornDown.Held) :
    ∃ unbound : World σ Mark, unregister .own peer.handle
        (world.setLife peer.entry given.tornDown) = (.ok true, unbound) ∧ unbound.Sound ∧
      (world.setLife peer.entry given.tornDown).freed peer.handle =
        unbound.count .own Metrics.countDisposed := by
  have bound := sound.lookup?_of_genuine genuine live
  let disposed := world.setLife peer.entry given.tornDown
  let unbound : World σ Mark :=
    disposed.setLedger .own
      { disposed.own with registry := disposed.own.registry.erase peer.handle }
  have unboundSound : unbound.Sound :=
    (sound.freed genuine live rfl ⟨rfl, rfl, rfl, rfl⟩ held).of_same rfl rfl
  have freed : unbind .own peer.handle disposed = (.ok (some peer.entry), unbound) :=
    congrArg (fun found => ((.ok found : Except Panic (Option EntryId)), unbound)) bound
  refine ⟨unbound, ?_, unboundSound, rfl⟩
  exact (bind_of_ok freed).trans (bind_of_ok (Custody.letGo_of_sound unboundSound peer.entry))

/-- The last reference's teardown frees the handle and counts the disposal;
else nothing is left to do. -/
theorem finish_concludes (sound : world.Sound) (genuine : world.Genuine peer)
    {given : Lifecycle} (live : (world.life peer.entry).state ≠ .disposed)
    (held : given.tryTeardown.2.Held) :
    ∃ after, finish .own peer given.tryTeardown.1
        (world.setLife peer.entry given.tryTeardown.2) = (.ok (.ok ()), after) ∧
      (world.concluded peer given.tryTeardown).Plain after := by
  rcases Lifecycle.tryTeardown_cases given with ⟨_, _, torn⟩ | ⟨_, torn⟩
  · rw [torn] at held ⊢
    obtain ⟨unbound, unregistered, unboundSound, freed⟩ :=
      unregister_tornDown sound genuine live held
    obtain ⟨_, unpinned, unpin, one⟩ :
        Calm (given.pin.forM Custody.letGoOfTarget) unbound :=
      .optionForM fun target => Custody.letGoOfTarget_calm unboundSound target
    obtain ⟨_, emptied, empty, two⟩ :
        Calm ((given.receives.filterMap (·.buffer)).forM dropBuffer) unpinned :=
      .forM fun buffer _ => .dropBuffer buffer
    obtain ⟨_, after, note, three⟩ : Calm
        (note (.disposed peer.handle (given.receives.filterMap (·.buffer)).length))
        (emptied.count .own Metrics.countDisposed) := .note _ rfl
    refine ⟨after, effect_of_ok ?_, ?_⟩
    · exact (bind_of_ok unregistered).trans ((bind_of_ok unpin).trans
        ((bind_of_ok empty).trans ((bind_of_ok rfl).trans note)))
    · show World.Plain ((world.setLife peer.entry given.tornDown).freed peer.handle) after
      rw [freed]
      exact ((one.trans two).countDisposed).trans three
  · rw [torn]
    exact ⟨world.setLife peer.entry given, rfl, .refl _⟩

end References

end TransportBridge
