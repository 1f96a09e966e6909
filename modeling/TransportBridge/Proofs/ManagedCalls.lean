import TransportBridge.Proofs.Reports

/-!
Contract: every call that is no report keeps accounts.

What such a call adds to the counters is its reply's affair: one for a broken
invariant, and nothing else. The exception is a native handle that could not be
registered and is given back to an engine that panicks over it: the violation
has been counted, and the call ends in the panic.

Does not own: what user code does between calls.
-/

namespace TransportBridge

variable {σ α : Type} [Custodian σ] {may : Latitude σ} {world middle after : World σ Mark}

/-- What a call that is no report adds to the counters. -/
def reported {ε : Type} : Except ε (Except BridgeError α) → Counter → Nat
  | .ok (.error error) => error.reported
  | _ => 0

/-- What has been run keeps accounts, and adds what its outcome tells to the
counters. -/
def World.Accounted (may : Latitude σ) (before : World σ Mark)
    (run : Except Panic (Except BridgeError α) × World σ Mark) : Prop :=
  ∃ own, before.Recounts may own (reported run.1) run.2

omit [Custodian σ] in
theorem effect_congr {one two : BridgeM σ Mark α} (same : one world = two middle) :
    effect one world = effect two middle := by
  cases ran : two middle with
  | mk outcome after =>
      cases outcome with
      | ok result => exact (effect_of_ok (same.trans ran)).trans (effect_of_ok ran).symm
      | error panic => exact (effect_of_error (same.trans ran)).trans (effect_of_error ran).symm

namespace World.Accounted

open References

theorem of_run {body : Call σ Mark α} {outcome : Except Panic (Except BridgeError α)}
    {own : List (Moment Mark)} (ran : body middle = (outcome, after))
    (recounts : world.Recounts may own (reported outcome) after) :
    world.Accounted may (body middle) := by
  rw [ran]
  exact ⟨own, recounts⟩

/-- A step that is refused rejects the call; one that is taken goes on in the
next lifecycle. -/
theorem checked {β : Type} {peer : Peer} {step : Lifecycle → Lifecycle.Step α}
    {rest : α → Call σ Mark β}
    (noLapse : ∀ {refusal}, step (world.life peer.entry) = .error refusal →
      refusal.isLapse = false)
    (taken : ∀ result next, step (world.life peer.entry) = .ok (result, next) →
      world.Accounted may (rest result (world.setLife peer.entry next))) :
    world.Accounted may ((checked .own peer step >>= rest) world) := by
  cases stepped : step (world.life peer.entry) with
  | ok outcome =>
      rw [callBind_of_ok (checked_of_ok stepped)]
      exact taken outcome.1 outcome.2 stepped
  | error refusal =>
      obtain ⟨after, ran, quiet⟩ : Refuses (References.checked .own peer step) _ _ world :=
        checked_refuses stepped (noLapse stepped)
      exact .of_run (callBind_of_rejected ran) (.of_quiet quiet)

/-- A result that is replaced by another one. -/
theorem giving {β : Type} {body : Call σ Mark α} {result : α → β}
    (accounted : world.Accounted may (body middle)) :
    world.Accounted may ((body >>= fun given => Pure.pure (result given)) middle) := by
  obtain ⟨own, recounts⟩ := accounted
  cases ran : body middle with
  | mk outcome after =>
      rw [ran] at recounts
      rcases outcome with panic | error | given
      · exact .of_run (callBind_of_panicked ran) recounts
      · exact .of_run (callBind_of_rejected ran) recounts
      · exact .of_run (callBind_of_ok ran) recounts

end World.Accounted

namespace Socket

open References Registration

variable {host : Host σ Mark} {peer : Peer} {next : Lifecycle}

/-- A call that has passed its check goes on to the engine. -/
theorem forwardFor_recounts (hostRecounts : host.Recounts may) (orderly : world.Orderly)
    (genuine : world.Genuine peer) {call : EngineCall}
    (forwards : (world.life peer.entry).Forwards world.config.maxPendingWriteBytes call next)
    (asks : world.Asks peer.entry call) {ready : World σ Mark}
    (quiet : (world.setLife peer.entry next).Quiet
      ((world.life peer.entry).freedBy call) 0 ready) :
    ∃ own outcome after, forwardFor host peer call ready = (outcome, after) ∧
      world.Recounts may own 0 after ∧ .forwarded call ∈ after.deeds peer.entry := by
  let calling : Moment Mark := .engineCalled (some peer.entry) peer.handle call
  let begun := ready.push calling
  have acts : begun.acts = world.acts ++
      (((world.life peer.entry).freedBy call).map .hookRan ++ [calling]) := by
    rw [World.acts_push, quiet.acts, ← List.append_assoc]
    rfl
  have all : ∀ moment ∈ ((world.life peer.entry).freedBy call).map .hookRan ++ [calling],
      moment.isOwn = true := by
    intro moment member
    rcases List.mem_append.mp member with hook | last
    · exact Moment.isOwn_hookRan _ moment hook
    · obtain rfl := List.mem_singleton.mp last
      rfl
  have calls : world.Recounts may _ 0 begun :=
    .of_grain (.forwarded genuine forwards asks quiet) acts quiet.counted all
  have recounts := hostRecounts.engine (calls.trail.path.orderly orderly) peer.handle call
  have told : .forwarded call ∈ begun.deeds peer.entry := by
    rw [World.deeds_push]
    simp [calling, Moment.deed?]
  exact ⟨_, _, _, bind_of_ok rfl, calls.then_idle recounts,
    (recounts.trail.path.deeds_prefix peer.entry).subset told⟩

theorem forwardFor_accounted (hostRecounts : host.Recounts may) (orderly : world.Orderly)
    (genuine : world.Genuine peer) {call : EngineCall}
    (forwards : (world.life peer.entry).Forwards world.config.maxPendingWriteBytes call next)
    (asks : world.Asks peer.entry call) {ready : World σ Mark}
    (quiet : (world.setLife peer.entry next).Quiet
      ((world.life peer.entry).freedBy call) 0 ready) :
    world.Accounted may (effect (forwardFor host peer call) ready) := by
  obtain ⟨own, outcome, after, ran, recounts, _⟩ :=
    forwardFor_recounts hostRecounts orderly genuine forwards asks quiet
  cases outcome with
  | error panic => exact .of_run (effect_of_error ran) recounts
  | ok result => exact .of_run (effect_of_ok ran) recounts

/-- A call whose engine call frees nothing. -/
theorem forwardFor_bare (hostRecounts : host.Recounts may) (orderly : world.Orderly)
    (genuine : world.Genuine peer) {call : EngineCall}
    (forwards : (world.life peer.entry).Forwards world.config.maxPendingWriteBytes call next)
    (asks : world.Asks peer.entry call) (bare : (world.life peer.entry).freedBy call = []) :
    world.Accounted may (effect (forwardFor host peer call) (world.setLife peer.entry next)) :=
  forwardFor_accounted hostRecounts orderly genuine forwards asks (by rw [bare]; exact .refl _)

/-- A confirmation that is rejected has asked nothing of the engine, and one
that returns leaves the connection confirmed. -/
theorem opened_recounts (hostRecounts : host.Recounts may) (orderly : world.Orderly)
    (genuine : world.Genuine peer) (asks : world.Asks peer.entry .opened) :
    ∃ own outcome after, opened host peer world = (outcome, after) ∧
      world.Recounts may own (reported outcome) after ∧
      (∀ error, outcome = .ok (.error error) → own = []) ∧
      (outcome = .ok (.ok ()) → .forwarded .opened ∈ after.deeds peer.entry ∨
        (after.life peer.entry).managedReady = true ∨
          (after.life peer.entry).state = .opened) := by
  cases marked : (world.life peer.entry).markReady with
  | error refusal =>
      obtain ⟨after, ran, quiet⟩ : Refuses (checked .own peer Lifecycle.markReady) _ _ world :=
        checked_refuses marked (Lifecycle.markReady_refused marked)
      exact ⟨[], _, after, callBind_of_rejected ran, .of_quiet quiet, fun _ _ => rfl, nofun⟩
  | ok outcome =>
      obtain ⟨first, next⟩ := outcome
      have began : opened host peer world = _ := callBind_of_ok (checked_of_ok marked)
      cases first with
      | true =>
          obtain ⟨own, outcome, after, ran, recounts, told⟩ := forwardFor_recounts hostRecounts
            orderly genuine (.opened marked) asks (.refl _)
          cases outcome with
          | error panic =>
              exact ⟨own, _, after, began.trans (effect_of_error ran), recounts, nofun, nofun⟩
          | ok result =>
              exact ⟨own, _, after, began.trans (effect_of_ok ran), recounts, nofun,
                fun _ => .inl told⟩
      | false =>
          rcases Lifecycle.markReady_ok marked with ⟨first, _⟩ | ⟨_, known, rfl⟩
          · cases first
          · rw [World.setLife_life] at began
            exact ⟨[], _, world, began, .refl world, nofun, fun _ => .inr (known.imp_left (·.2))⟩

theorem gotHttpResponse_accounted (hostRecounts : host.Recounts may) (orderly : world.Orderly)
    (genuine : world.Genuine peer) {status : Int} {headers : Bytes}
    (asks : world.Asks peer.entry (.httpResponse status headers)) :
    world.Accounted may (gotHttpResponse host peer status headers world) :=
  .checked Lifecycle.checkHandshake_refused fun _ _ checked =>
    forwardFor_bare hostRecounts orderly genuine (.httpResponse checked) asks rfl

theorem write_accounted (hostRecounts : host.Recounts may) (orderly : world.Orderly)
    (genuine : world.Genuine peer) {data : Bytes}
    (asks : world.Asks peer.entry (.write data)) :
    world.Accounted may (write host peer data world) := by
  have began : write host peer data world = _ := callBind_of_ok rfl
  rw [began]
  exact .checked Lifecycle.recordWrite_refused fun _ _ recorded =>
    forwardFor_bare hostRecounts orderly genuine (.write recorded) asks rfl

/-- The buffers that are free by an acknowledgement are dropped before the
engine hears of it. -/
theorem completedReceive_accounted (hostRecounts : host.Recounts may) (orderly : world.Orderly)
    (genuine : world.Genuine peer) {byteCount : Nat}
    (asks : world.Asks peer.entry (.completedReceive byteCount)) :
    world.Accounted may (completedReceive host peer byteCount world) := by
  refine .checked Lifecycle.acknowledgeReceive_refused fun freed next acknowledged => ?_
  have consumed : (world.life peer.entry).freedBy (.completedReceive byteCount) =
      freed.flatMap NativeBuffer.dropped := by
    obtain ⟨_, _, rfl, _⟩ := Lifecycle.acknowledgeReceive_ok acknowledged
    rfl
  obtain ⟨_, dropped, drop, quiet⟩ : Quietly (freed.forM dropBuffer)
    (freed.flatMap NativeBuffer.dropped) 0 (world.setLife peer.entry next) := .dropBuffers freed
  rw [effectBind_of_ok drop]
  exact forwardFor_accounted hostRecounts orderly genuine (.completedReceive acknowledged) asks
    (consumed ▸ quiet)

theorem closeRequested_accounted (hostRecounts : host.Recounts may) (orderly : world.Orderly)
    (genuine : world.Genuine peer) {status : Int} {message : String}
    (asks : world.Asks peer.entry (.closeRequest status message)) :
    world.Accounted may (closeRequested host peer status message world) :=
  .checked Lifecycle.requestClose_refused fun _ _ requested =>
    forwardFor_bare hostRecounts orderly genuine (.closeRequest requested) asks rfl

theorem closed_accounted (hostRecounts : host.Recounts may) (orderly : world.Orderly)
    (genuine : world.Genuine peer) {error : ErrorRecord}
    (asks : world.Asks peer.entry (.closed error)) :
    world.Accounted may (effect (closed host peer error) world) := by
  rcases Lifecycle.markManagedClosed_cases (world.life peer.entry) with
    ⟨_, _, marked⟩ | ⟨_, marked⟩
  · rw [effect_congr (closed_forwarded marked)]
    exact forwardFor_bare hostRecounts orderly genuine (.closed marked) asks rfl
  · exact .of_run (effect_of_ok (closed_ignored marked))
      (.of_quiet (.note world (.repeatedCloseIgnored peer.handle) rfl))

/-- Every call but confirmations and those that count references. -/
theorem invoke_accounted (hostRecounts : host.Recounts may) (orderly : world.Orderly)
    (genuine : world.Genuine peer) {call : SocketCall} (notOpened : call ≠ .opened)
    (notRetain : call ≠ .retain) (notRelease : call ≠ .release)
    (asks : ∀ asked, call.engineCall? = some asked → world.Asks peer.entry asked) :
    world.Accounted may (invoke host peer call world) := by
  cases call with
  | opened => exact absurd rfl notOpened
  | httpResponse => exact .giving (gotHttpResponse_accounted hostRecounts orderly genuine (asks _ rfl))
  | write => exact .giving (write_accounted hostRecounts orderly genuine (asks _ rfl))
  | completedReceive =>
      exact .giving (completedReceive_accounted hostRecounts orderly genuine (asks _ rfl))
  | closeRequest =>
      exact .giving (closeRequested_accounted hostRecounts orderly genuine (asks _ rfl))
  | closed => exact .giving (closed_accounted hostRecounts orderly genuine (asks _ rfl))
  | retain => exact absurd rfl notRetain
  | release => exact absurd rfl notRelease

end Socket

/-! ## Registrations -/

namespace Registration

variable {host : Host σ Mark}

theorem adoptInbound_accounted (orderly : world.Orderly) (handle : Handle) (target : TargetId) :
    world.Accounted may (adoptInbound handle target world) := by
  rcases register_recounts may orderly.sound handle target with
    ⟨peer, after, ran, _, registers⟩ | ⟨after, ran, quiet⟩
  · exact .of_run ran registers.toRecounts
  · exact .of_run ran (.of_quiet quiet)

/-- The target is held while the engine is asked, and let go of if that
panics. -/
theorem asking_recounts (hostRecounts : host.Recounts may) (orderly : world.Orderly)
    (address : Address) (framing : Framing) (target : TargetId) :
    ∃ outcome after,
      Custody.lendingTarget target (askEngine host address framing) world = (outcome, after) ∧
      world.Recounts may [.engineAsked address framing] 0 after := by
  let lent : World σ Mark := { world with lent := target :: world.lent }
  have lending : world.Still lent := .aside .refl rfl rfl rfl rfl
  let asked := lent.push (.engineAsked address framing)
  have asking : world.Recounts may [.engineAsked address framing] 0 asked :=
    .after_idle (.of_quiet lending) (.of_asked lent rfl)
  have recounts := hostRecounts.createHandle ((orderly.plain lending.toPlain).push
    (.engineAsked address framing)) address framing
  have ask : askEngine host address framing lent = host.createHandle address framing asked :=
    bind_of_ok rfl
  have lend : Custody.lend target world = (.ok (), lent) := rfl
  cases ran : host.createHandle address framing asked with
  | mk outcome done =>
      rw [ran] at recounts
      have made := asking.then_idle recounts
      cases outcome with
      | ok answer =>
          obtain ⟨_, after, take, taking⟩ :
            Quietly (Custody.takeBack target) [] 0 done := Custody.takeBack_quietly target
          refine ⟨.ok answer, after, onPanic_of_ok ?_, made.then_still taking⟩
          exact (bind_of_ok lend).trans
            ((bind_of_ok (ask.trans ran)).trans ((bind_of_ok take).trans rfl))
      | error panic =>
          obtain ⟨_, after, give, giving⟩ :=
            Custody.giveBack_quietly (made.trail.sound orderly.sound) target
          refine ⟨.error panic, after, ?_, made.then_still giving⟩
          refine (onPanic_of_error
            ((bind_of_ok lend).trans (bind_of_error (ask.trans ran)))).trans ?_
          rw [give]

/-- A handle that is taken already is given back to the engine, which may panic
over that. -/
theorem givingBack_recounts (hostRecounts : host.Recounts may) (orderly : world.Orderly)
    (handle : Handle) :
    let error : BridgeError := .duplicateHandle handle
    let closing : EngineCall := .closed (unregisteredRecord error)
    ∃ outcome after,
      (do note (.outboundUnregistered handle error)
          forward host none handle closing : BridgeM σ Mark Unit) world = (outcome, after) ∧
      world.Recounts may [.engineCalled none handle closing] 0 after := by
  intro error closing
  let told := world.push (.noted (.outboundUnregistered handle error))
  let given := told.push (.engineCalled none handle closing)
  have telling : world.Still told := .note world _ rfl
  have giving : world.Recounts may [.engineCalled none handle closing] 0 given :=
    .after_idle (.of_quiet telling) (.of_asked told rfl)
  have engine := hostRecounts.engine (giving.trail.path.orderly orderly) handle closing
  exact ⟨_, _, (bind_of_ok rfl).trans (bind_of_ok rfl), giving.then_idle engine⟩

/-- An outbound connection. Where the engine's handle cannot be registered, it
is given back, and the engine may panic over that. -/
theorem openOutbound_recounts (hostRecounts : host.Recounts may) (orderly : world.Orderly)
    (address : Address) (framing : Option Framing) (target : TargetId) :
    ∃ own outcome after, openOutbound host address framing target world = (outcome, after) ∧
      world.Recounts may own (Ended.charge
        { call := .openOutbound address framing target, own
          reply := .ofOutcome (outcome.map (.ofAnswer .peer)) }) after := by
  let kind := framing.getD world.config.defaultFraming
  let asking : Moment Mark := .engineAsked address kind
  obtain ⟨outcome, asked, ask, recounts⟩ :=
    asking_recounts hostRecounts orderly address kind target
  have began : openOutbound host address framing target world = _ := callBind_of_ok rfl
  have askedOrderly := recounts.trail.path.orderly orderly
  rcases outcome with panic | error | handle
  · refine ⟨[asking], _, asked, began.trans (effectBind_of_error ask), ?_⟩
    exact recounts.charging fun counter => by cases counter <;> rfl
  · obtain ⟨_, after, refuse, refusing⟩ : Quietly
        (do note (.outboundRefused address error)
            Custody.letGoOfTarget target) [] 0 asked :=
      (Quietly.note _ rfl).andThen fun _ _ still =>
        Custody.letGoOfTarget_quietly (askedOrderly.sound.plain still.toPlain) target
    refine ⟨[asking], .ok (.error (.nativeEngine error)), after,
      began.trans ((effectBind_of_ok ask).trans (effectBind_of_ok refuse)), ?_⟩
    exact (recounts.then_still refusing).charging fun counter => by cases counter <;> rfl
  · let noted := asked.push (.noted (.outboundCreated handle address kind))
    have noting : asked.Still noted := .note asked _ rfl
    have notedOrderly := askedOrderly.plain noting.toPlain
    have begun : openOutbound host address framing target world = _ :=
      began.trans ((effectBind_of_ok ask).trans (effectBind_of_ok rfl))
    rcases register_recounts may notedOrderly.sound handle target with
      ⟨peer, after, registered, _, registers⟩ | ⟨refused, registered, quiet⟩
    · have registering : (register handle target).run noted = _ := registered
      refine ⟨[asking], .ok (.ok peer), after, begun.trans (effectBind_of_ok registering), ?_⟩
      exact ((recounts.then_still noting).then_idle registers.toRecounts).charging
        fun counter => by cases counter <;> rfl
    · have registering : (register handle target).run noted = _ := registered
      let giving : Moment Mark :=
        .engineCalled none handle (.closed (unregisteredRecord (.duplicateHandle handle)))
      have refusing := (recounts.then_still noting).then_charge (.of_quiet quiet)
      obtain ⟨outcome, after, forwarded, given⟩ :=
        givingBack_recounts hostRecounts (refusing.trail.path.orderly orderly) handle
      have ended : openOutbound host address framing target world = _ :=
        begun.trans (effectBind_of_ok registering)
      have both := refusing.trans given
      cases outcome with
      | ok result =>
          refine ⟨[asking, giving], .ok (.error (.duplicateHandle handle)), after,
            ended.trans (effectBind_of_ok forwarded), ?_⟩
          exact both.charging fun counter => by cases counter <;> rfl
      | error panic =>
          refine ⟨[asking, giving], .error panic, after,
            ended.trans (effectBind_of_error forwarded), ?_⟩
          exact both.charging fun counter => by cases counter <;> rfl

end Registration

end TransportBridge
