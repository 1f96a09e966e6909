import TransportBridge.Proofs.Answers

/-!
Contract: every report of the native side is served.

Each entry point ends in one of the ways that the rules for reports leave, and
the buffer that it is given is dropped, kept with the unacknowledged bytes, or
given away, as its reply has it.

Does not own: the calls of the managed side.
-/

namespace TransportBridge

variable {σ α : Type} [Custodian σ] {may : Latitude σ} {world middle : World σ Mark}

/-! ## Handles that nobody knows -/

namespace Registration

variable {host : Host σ Mark} {handle : Handle} {event : NativeEvent}
  {due : List Hook → Except Panic (Except BridgeError Unit) → Prop}

/-- The report of a bound handle goes on with its connection, which is held
meanwhile. -/
theorem lookup_served {kind : EventKind} {rest : Peer → Call σ Mark Unit}
    (hears : world.Hears handle event) (fits : due [] (.ok (.error (.unknownHandle handle))))
    (found : ∀ peer held, peer.handle = handle → World.Hears held peer.handle event →
      held.peer? peer.handle = some peer → (held.life peer.entry).Proper →
      held.Served may handle event due (rest peer held)) :
    world.Served may handle event due
      ((lookup handle kind >>= fun peer => Call.holding peer.entry (rest peer)) world) := by
  cases known : world.peer? handle with
  | some peer =>
      obtain rfl := handle_of_peer? known
      rw [callBind_of_ok (lookup_of_known known kind)]
      have engaging : world.Still (world.engage peer.entry) := .engage world peer.entry
      have held := hears.still engaging
      have stands := (engaging.peer? peer.handle).trans known
      exact .holding hears.sound (found peer _ rfl held stands
        (held.sound.life_proper (genuine_of_peer? held.sound stands)))
  | none =>
      have refuses : Refuses
          (lookup handle kind >>= fun peer => Call.holding peer.entry (rest peer))
          (.unknownHandle handle) (Counter.once .dropped) world := by
        obtain ⟨after, ran, quiet⟩ : Refuses (lookup handle kind) _ _ world :=
          lookup_of_unknown known kind
        exact ⟨after, callBind_of_rejected ran, quiet⟩
      exact .of_refuses refuses (BridgeError.charged_unknownHandle handle) fits

/-- A handle that nobody knows is registered with what the factory makes for
it, or the report is rejected, or the factory panics. -/
theorem adoptFromFactory_recounts (hostRecounts : host.Recounts may) (orderly : world.Orderly)
    (handle : Handle) (address : Address) (options : Bytes) :
    ∃ own, own.filter Moment.isCallback = [] ∧ own.filterMap Moment.hook? = [] ∧
      ((∃ peer after, adoptFromFactory host handle address options world =
          (.ok (.ok peer), after) ∧ peer.handle = handle ∧ Registers may world own peer after) ∨
        (∃ error after, adoptFromFactory host handle address options world =
          (.ok (.error error), after) ∧ world.Recounts may own error.charged after) ∨
        ∃ panic after, adoptFromFactory host handle address options world =
          (.error panic, after) ∧ world.Recounts may own 0 after) := by
  have began : adoptFromFactory host handle address options world = _ := callBind_of_ok rfl
  cases installed : world.factory with
  | none =>
      rw [installed] at began
      obtain ⟨after, dropped, quiet⟩ : Refuses (dropUnknown handle .openRequest :
        Call σ Mark Peer) _ _ world := dropUnknown_refuses handle _
      refine ⟨[], rfl, rfl, .inr (.inl ⟨_, after, began.trans dropped, ?_⟩)⟩
      rw [BridgeError.charged_unknownHandle]
      exact .of_quiet quiet
  | some factory =>
      rw [installed] at began
      let asking : Moment Mark := .factoryAsked factory handle address options
      let asked := world.push asking
      have ask : witness asking world = (.ok (), asked) := rfl
      have making := hostRecounts.createTarget (orderly.push asking) factory handle address options
      cases run : host.createTarget factory handle address options asked with
      | mk answer made =>
          rw [run] at making
          have recounts : world.Recounts may [asking] 0 made :=
            (World.Recounts.of_asked world rfl).then_idle making
          refine ⟨[asking], rfl, rfl, ?_⟩
          have begun : adoptFromFactory host handle address options world = _ :=
            began.trans (effectBind_of_ok ask)
          rcases answer with panic | error | target
          · exact .inr (.inr ⟨panic, made, begun.trans (effectBind_of_error run), recounts⟩)
          · obtain ⟨_, after, decline, declining⟩ : Quietly
                (do count .own Metrics.countDropped
                    note (.inboundDeclined handle error)) [] (Counter.once .dropped) made :=
              .dropEvent _ rfl
            refine .inr (.inl ⟨.nativeEngine error, after, ?_, ?_⟩)
            · exact begun.trans ((effectBind_of_ok run).trans (effectBind_of_ok decline))
            · rw [BridgeError.charged_nativeEngine]
              exact recounts.then_charge (.of_quiet declining)
          · have ended : adoptFromFactory host handle address options world =
                register handle target made := begun.trans (effectBind_of_ok run)
            rw [ended]
            rcases register_recounts may (recounts.trail.sound orderly.sound) handle target with
              ⟨peer, after, registered, named, registers⟩ | ⟨after, refused, quiet⟩
            · exact .inl ⟨peer, after, registered, named, recounts.then_idle registers.toRecounts,
                registers.stands, recounts.trail.path.absent orderly.sound registers.new⟩
            · refine .inr (.inl ⟨_, after, refused, ?_⟩)
              have charged : (BridgeError.duplicateHandle handle).charged =
                  Counter.once .violations := BridgeError.charged_of_reported rfl
              rw [charged]
              exact recounts.then_charge (.of_quiet quiet)

/-- A report goes on with a connection that was registered for it. -/
theorem Registers.serves {peer : Peer} {own more : List (Moment Mark)}
    {outcome : Except Panic (Except BridgeError Unit)} {after : World σ Mark}
    (registers : Registers may world own peer middle) (unknown : world.peer? peer.handle = none)
    (silent : own.filter Moment.isCallback = [])
    (serves : middle.Serves may peer.handle event more outcome after) :
    world.Serves may peer.handle event (own ++ more) outcome after := by
  refine ⟨?_, fun delivered => ?_, fun error rejected => ?_⟩
  · have both := registers.toRecounts.trans serves.toRecounts
    rwa [zero_add] at both
  · rw [World.Told, List.filter_append, silent, List.nil_append]
    refine (serves.told delivered).imp_left ?_
    rintro ⟨named, target, attached, told, reaches⟩
    refine ⟨named, target, attached, told, reaches.named, .inr ⟨unknown, ?_⟩, reaches.found⟩
    rcases reaches.stands with stands | ⟨unbound, _⟩
    · obtain rfl := Option.some.inj (registers.stands.symm.trans stands)
      exact registers.new
    · cases unbound.symm.trans registers.stands
  · rw [List.filter_append, silent, serves.rejected error rejected, List.append_nil]

theorem Registers.served {peer : Peer} {own : List (Moment Mark)}
    {run : Except Panic (Except BridgeError Unit) × World σ Mark}
    (registers : Registers may world own peer middle) (unknown : world.peer? peer.handle = none)
    (silent : own.filter Moment.isCallback = []) (clean : own.filterMap Moment.hook? = [])
    (served : middle.Served may peer.handle event due run) :
    world.Served may peer.handle event due run := by
  obtain ⟨outcome, after⟩ := run
  obtain ⟨more, concludes, fits⟩ := served
  refine ⟨own ++ more, ?_, ?_⟩
  · cases concludes with
    | served serves unopened => exact .served (registers.serves unknown silent serves) unopened
    | opened opening serves genuine begun told =>
        exact .opened opening (registers.serves unknown silent serves) genuine begun
          (List.mem_append_right _ told)
  · rwa [List.filterMap_append, clean, List.nil_append]

end Registration

namespace Delivery

open References Registration

variable {host : Host σ Mark} {peer : Peer} {next : Lifecycle}

/-! ## Reports without a buffer -/

/-- Taking a step back in one lifecycle. -/
theorem change_restores (genuine : world.Genuine peer) {step : Lifecycle → α × Lifecycle}
    {charge : Counter → Nat} {missed : World σ Mark}
    (quiet : (world.setLife peer.entry next).Quiet [] charge missed) :
    ∃ after, change peer.entry step missed = (.ok (step next).1, after) ∧
      (world.setLife peer.entry (step next).2).Quiet [] charge after ∧
      after.trace = missed.trace := by
  obtain ⟨entry, found, _⟩ := genuine
  have reached : missed.life peer.entry = next := by
    rw [quiet.life, World.life_setLife_self found]
  refine ⟨missed.setLife peer.entry (step next).2, ?_, ?_, rfl⟩
  · unfold change
    rw [reached]
  · have restored := quiet.setLife peer.entry (step next).2
    rwa [World.setLife_setLife] at restored

/-- A way back that frees nothing. -/
theorem undoing_restores (genuine : world.Genuine peer) (step : Lifecycle → Lifecycle)
    (missed : World σ Mark) (charge : Counter → Nat)
    (quiet : (world.setLife peer.entry next).Quiet [] charge missed) :
    ∃ restored after, undoing peer step missed = (.ok (), after) ∧
      (world.setLife peer.entry (step next)).Quiet [] charge restored ∧
      restored.trace = missed.trace ∧
      restored.Recounts may (([] : List Hook).map .hookRan) 0 after := by
  obtain ⟨after, undone, restored, trace⟩ :
      ∃ after, undoing peer step missed = (.ok (), after) ∧ _ := change_restores genuine quiet
  exact ⟨after, after, undone, restored, trace, .refl after⟩

section Bare

variable {handle : Handle}

theorem onWriteCompleted_served (hostRecounts : host.Recounts may) {byteCount : Nat}
    (hears : world.Hears handle (.writeCompleted byteCount)) :
    world.Answered may handle (.writeCompleted byteCount)
      (onWriteCompleted host handle byteCount world) := by
  have bare := NativeEvent.due_of_bare (.writeCompleted byteCount) handle fun _ => rfl
  have tells : (NativeEvent.writeCompleted byteCount).told = .writeCompleted byteCount := rfl
  refine lookup_served hears (bare _ _) ?_
  rintro peer held rfl hears stands proper
  refine .checked proper.acceptWriteCompleted_refused (bare _ _) ?_
  intro target next accepted
  have admits : held.Admits peer (.writeCompleted byteCount) target next := by
    refine hears.admits stands (.writeCompleted accepted) ?_
    obtain ⟨_, _, _, rfl⟩ := Lifecycle.acceptWriteCompleted_ok accepted
    exact (List.append_nil _).symm
  rcases deliver_serves hostRecounts admits tells (.refl _) with
    ⟨failure, after, ran, quiet, dropped⟩ | ⟨attached, outcome, after, ran, serves, _⟩
  · exact .of_run ran (.of_rejected
      (.of_missed admits.genuine (.writeCompleted accepted) quiet dropped) rfl rfl) (bare _ _) nofun
  · exact .of_run ran serves (bare _ _) nofun

theorem onCloseRequest_served (hostRecounts : host.Recounts may) {status : Int} {message : Bytes}
    (hears : world.Hears handle (.closeRequest status message)) :
    world.Answered may handle (.closeRequest status message)
      (onCloseRequest host handle status message world) := by
  have bare := NativeEvent.due_of_bare (.closeRequest status message) handle fun _ => rfl
  have tells : (NativeEvent.closeRequest status message).told =
    .closeRequest status (decodeOrPlaceholder message).1 := rfl
  refine lookup_served hears (bare _ _) ?_
  rintro peer held rfl hears stands proper
  refine .checked proper.acceptCloseRequest_refused (bare _ _) ?_
  intro (target, before) next accepted
  have admits : held.Admits peer (.closeRequest status message) target next := by
    refine hears.admits stands (.closeRequest accepted) ?_
    obtain ⟨_, _, _, rfl⟩ := Lifecycle.acceptCloseRequest_ok accepted
    exact (List.append_nil _).symm
  refine .still (noteIfAny_quietly decodeOrPlaceholder_noLapse) ?_
  intro _ noted noting
  rcases deliverOr_serves hostRecounts admits tells noting (.closeRequest accepted)
      (undoing_restores admits.genuine (Lifecycle.abortCloseRequest before)) with
    ⟨failure, after, ran, serves⟩ | ⟨attached, outcome, after, ran, serves, _⟩
  · exact .of_run ran serves (bare _ _) nofun
  · exact .of_run ran serves (bare _ _) nofun

end Bare

/-! ## Received bytes -/

section Received

variable {data spent : NativeBuffer Hook} {bytes : Bytes} {handle : Handle}

/-- Bytes for a handle that nobody knows are dropped as they came. -/
private theorem due_unknown (data : NativeBuffer Hook) (handle : Handle) :
    NativeEvent.Due (.received data) handle data.dropped
      (.ok (.error (.unknownHandle handle))) := by
  intro owed freed
  simpa [NativeEvent.frees, Reply.ofRun] using freed

/-- What is left of rejected bytes after a transfer is dropped. -/
private theorem due_rejected (data : NativeBuffer Hook) {error : BridgeError}
    (known : error ≠ .unknownHandle handle) :
    NativeEvent.Due (.received data) handle data.spent.dropped (.ok (.error error)) := by
  intro owed freed
  simpa [NativeEvent.frees, Reply.ofRun, known] using freed

/-- What was to stay with received bytes is dropped while they have not come
in. -/
private theorem loosing (may : Latitude σ) (hears : world.Hears handle (.received data))
    (taken : data.transfer = .ok (bytes, spent)) {charge : Counter → Nat}
    (accounts : world.Accounts [] charge middle) :
    ∃ after, dropIfAny data.lent middle = (.ok (), after) ∧
      middle.Recounts may (data.spent.dropped.map .hookRan) 0 after := by
  obtain ⟨_, after, drop, quiet⟩ : Quietly (dropIfAny data.lent)
    (data.lent.toList.flatMap NativeBuffer.dropped) 0 middle := dropIfAny_quietly _
  rw [NativeBuffer.dropped_lent taken] at quiet
  have drops := hears.reports.drops accounts rfl (fun _ => rfl) data.dropped_spent_sublist
  exact ⟨after, drop, .of_loosed drops quiet⟩

/-- Bytes that may not come in are dropped, and the caller is told why. -/
private theorem entering_rejected (hears : world.Hears peer.handle (.received data))
    (proper : (world.life peer.entry).Proper) (taken : data.transfer = .ok (bytes, spent))
    (refused : (world.life peer.entry).acceptReceived data.size data.lent = .error refusal) :
    ∃ after, enterReceived peer data.size data.lent world =
        (.ok (.error (refusal.toError peer.handle)), after) ∧
      world.Recounts may (data.spent.dropped.map .hookRan)
        (refusal.toError peer.handle).reported after := by
  have stepped : attempt peer.entry (Lifecycle.acceptReceived data.size data.lent) world =
      (.ok (.error refusal), world) := by
    unfold attempt
    rw [refused]
  obtain ⟨dropped, drop, freeing⟩ := loosing may hears taken (.refl world)
  have noLapse := (refusal.toError_isLapse peer.handle).trans
    (proper.acceptReceived_refused refused)
  obtain ⟨after, rejected, quiet⟩ : Refuses (reject .own (refusal.toError peer.handle) :
    Call σ Mark TargetId) _ _ dropped := reject_refuses noLapse
  exact ⟨after, (effectBind_of_ok stepped).trans ((effectBind_of_ok drop).trans rejected),
    freeing.then_charge (.of_quiet quiet)⟩

/-- The way back gives up what was kept, and the lifecycle is as before. -/
private theorem receiving_undone (hears : world.Hears peer.handle (.received data))
    (genuine : world.Genuine peer) (taken : data.transfer = .ok (bytes, spent))
    (accepted : (world.life peer.entry).acceptReceived data.size data.lent = .ok (target, next))
    {missed : World σ Mark} {charge : Counter → Nat}
    (quiet : (world.setLife peer.entry next).Quiet [] charge missed) :
    ∃ restored after, (do
        dropIfAny (← change peer.entry (Lifecycle.abortReceived data.size)) :
          BridgeM σ Mark Unit) missed = (.ok (), after) ∧
      (world.setLife peer.entry (next.abortReceived data.size).2).Quiet [] charge restored ∧
      restored.trace = missed.trace ∧
      restored.Recounts may (data.spent.dropped.map .hookRan) 0 after := by
  obtain ⟨restored, abort, restoring, trace⟩ : ∃ after,
      change peer.entry (Lifecycle.abortReceived data.size) missed =
        (.ok (next.abortReceived data.size).1, after) ∧ _ :=
    change_restores genuine quiet
  rw [Lifecycle.abortReceived_acceptReceived accepted] at abort
  have accounts : world.Accounts [] charge restored :=
    .of_acts restoring.acts (by simp) restoring.counted
  obtain ⟨after, drop, freeing⟩ := loosing may hears taken accounts
  exact ⟨restored, after, (bind_of_ok abort).trans drop, restoring, trace, freeing⟩

/-- Received bytes for a connection that is there. -/
private theorem receiving_served (hostRecounts : host.Recounts may)
    (hears : world.Hears peer.handle (.received data))
    (stands : world.peer? peer.handle = some peer) (proper : (world.life peer.entry).Proper)
    (taken : data.transfer = .ok (bytes, spent)) :
    world.Answered may peer.handle (.received data) ((do
      let target ← enterReceived peer data.size data.lent
      deliverOr host peer target (.received bytes) do
        dropIfAny (← change peer.entry (Lifecycle.abortReceived data.size)) :
          Call σ Mark Unit) world) := by
  obtain ⟨hooks, silent⟩ := Moment.hooks_hookRan data.spent.dropped
  cases accepted : (world.life peer.entry).acceptReceived data.size data.lent with
  | error refusal =>
      obtain ⟨after, entered, rejecting⟩ := entering_rejected hears proper taken accepted
      refine .of_unanswered (callBind_of_rejected entered) (.of_rejected rejecting silent ?_)
        (hooks.symm ▸ due_rejected data ?_) nofun
      · exact BridgeError.charged_of_reported (by cases refusal <;> rfl)
      · cases refusal <;> exact nofun
  | ok outcome =>
      obtain ⟨target, next⟩ := outcome
      rw [callBind_of_ok (enterReceived_of_ok accepted)]
      have size := NativeBuffer.size_of_transfer taken
      have tells : (NativeEvent.received data).told = .received bytes := by
        show SocketEvent.received (data.data.getD []) = _
        rw [NativeBuffer.data_of_transfer taken]
        rfl
      have fits : (world.life peer.entry).acceptReceived bytes.length data.lent =
        .ok (target, next) := size ▸ accepted
      have admits : world.Admits peer (.received data) target next := by
        refine hears.admits stands (tells.symm ▸ .received fits) ?_
        obtain ⟨_, _, rfl⟩ := Lifecycle.acceptReceived_ok accepted
        rfl
      have misses : (world.life peer.entry).Misses (.received bytes)
        (next.abortReceived data.size).2 := size ▸ .received fits
      rcases deliverOr_serves hostRecounts admits tells (.refl _) misses
          (fun _ _ quiet => receiving_undone hears admits.genuine taken accepted quiet) with
        ⟨failure, after, ran, serves⟩ | ⟨attached, outcome, after, ran, serves, _⟩
      · exact .of_run ran serves (hooks.symm ▸ due_rejected data nofun) nofun
      · refine .of_run ran serves ?_ nofun
        intro owed freed
        cases outcome <;> exact Option.some.inj freed

theorem onReceived_served (hostRecounts : host.Recounts may)
    (hears : world.Hears handle (.received data)) :
    world.Answered may handle (.received data) (onReceived host handle data world) := by
  cases known : world.peer? handle with
  | none =>
      obtain ⟨missed, dropped, quiet⟩ : Refuses (lookup handle .received) _ _ world :=
        lookup_of_unknown known .received
      have began : onReceived host handle data world =
          (thenDropping data (throw (.unknownHandle handle)) : Call σ Mark Unit) missed :=
        effectBind_of_ok (show (lookup handle .received).run world = _ from dropped)
      rw [began]
      refine .dropping hears (.refl _) ?_ (fun _ => ⟨_, rfl⟩) (due_unknown data handle)
      exact .of_unanswered rfl (.of_rejected (.of_quiet quiet) rfl
        (BridgeError.charged_unknownHandle handle)) rfl nofun
  | some peer =>
      obtain rfl := handle_of_peer? known
      have engaging : world.Still (world.engage peer.entry) := .engage world peer.entry
      have held := hears.still engaging
      have stands := (engaging.peer? peer.handle).trans known
      have proper := held.sound.life_proper (genuine_of_peer? held.sound stands)
      have began : onReceived host peer.handle data world = _ :=
        effectBind_of_ok (show (lookup peer.handle .received).run world = _ from
          lookup_of_known known .received)
      rw [began]
      refine .holding hears.sound ?_
      cases taken : data.transfer with
      | error violation =>
          obtain ⟨rejected, ran, quiet⟩ : Refuses (reject .own
              (.invariantViolation none violation) : Call σ Mark Unit) _ _
            (world.engage peer.entry) := reject_refuses (NativeBuffer.transfer_refused taken)
          have due : NativeEvent.Due (.received data) peer.handle data.spent.dropped
            (.ok (.error (.invariantViolation none violation))) := due_rejected data nofun
          rw [NativeBuffer.spent_of_refused taken] at due
          refine .dropping held (.refl _) (.of_refuses ⟨rejected, ran, quiet⟩
            (BridgeError.charged_of_reported rfl) rfl) (fun _ => ⟨_, congrArg Prod.fst ran⟩) ?_
          simpa only [ran] using due
      | ok outcome =>
          obtain ⟨bytes, spent⟩ := outcome
          obtain rfl : data.spent = spent := NativeBuffer.spent_of_transfer taken
          exact receiving_served hostRecounts held stands proper taken

end Received

/-! ## Open requests -/

section Open

variable {address : Address} {options : NativeBuffer Hook} {bytes : Bytes} {handle : Handle}

/-- An open request for a connection that is there. Its options are dropped
elsewhere. -/
private theorem opening_served (hostRecounts : host.Recounts may)
    (hears : world.Hears peer.handle (.openRequest address options))
    (stands : world.peer? peer.handle = some peer) (held : options.data = some bytes) :
    world.Served may peer.handle (.openRequest address options) (fun hooks _ => hooks = [])
      (opening host peer.handle address bytes peer world) := by
  have proper := hears.sound.life_proper (genuine_of_peer? hears.sound stands)
  have tells : (NativeEvent.openRequest address options).told = .openRequest address bytes := by
    show SocketEvent.openRequest address (options.data.getD []) = _
    rw [held]
    rfl
  refine .checked proper.beginOpen_refused rfl ?_
  intro target next begun
  have admits : world.Admits peer (.openRequest address options) target next := by
    refine hears.admits stands (.openRequest begun) ?_
    obtain ⟨_, _, rfl⟩ := Lifecycle.beginOpen_ok begun
    exact (List.append_nil _).symm
  rcases deliverOr_serves hostRecounts admits tells (.refl _) (.openRequest begun)
      (undoing_restores admits.genuine Lifecycle.abortOpen) with
    ⟨failure, after, ran, serves⟩ | ⟨attached, outcome, after, ran, serves, told⟩
  · exact .of_unanswered (callBind_of_rejected ran) serves rfl nofun
  · cases outcome with
    | error panic => exact .of_unanswered (callBind_of_panicked ran) serves rfl nofun
    | ok result =>
        have genuine := serves.trail.genuine admits.genuine
        let finished := after.setLife peer.entry (after.life peer.entry).finishOpen.2
        have finish : change peer.entry Lifecycle.finishOpen after =
          (.ok (after.life peer.entry).finishOpen.1, finished) := rfl
        obtain ⟨last, noted, noting⟩ : ∃ last,
            ((do
              if (after.life peer.entry).finishOpen.1 then
                effect (note (.opened peer.handle)) : Call σ Mark Unit) finished) =
              (.ok (.ok ()), last) ∧ finished.Still last := by
          cases (after.life peer.entry).finishOpen.1 with
          | true => exact ⟨_, rfl, .note finished _ rfl⟩
          | false => exact ⟨finished, rfl, .refl finished⟩
        have concludes : world.Concludes may peer.handle (.openRequest address options) _ _
          finished := .opened rfl serves genuine told (List.mem_singleton_self _)
        exact .of_concludes ((callBind_of_ok ran).trans ((effectBind_of_ok finish).trans noted))
          (concludes.then_still hears.sound noting) rfl

theorem onOpen_served (hostRecounts : host.Recounts may)
    (hears : world.Hears handle (.openRequest address options)) :
    world.Answered may handle (.openRequest address options)
      (onOpen host handle address options world) := by
  have due (outcome : Except Panic (Except BridgeError Unit)) :
      NativeEvent.Due (.openRequest address options) handle options.spent.dropped outcome :=
    fun _ freed => Option.some.inj freed
  unfold onOpen
  cases taken : options.transfer with
  | error violation =>
      rw [NativeBuffer.spent_of_refused taken] at due
      refine .dropping hears (.refl _) ?_ nofun (due _)
      exact .of_refuses (reject_refuses (NativeBuffer.transfer_refused taken))
        (BridgeError.charged_of_reported rfl) rfl
  | ok outcome =>
      obtain ⟨bytes, spent⟩ := outcome
      have held := NativeBuffer.data_of_transfer taken
      have left := NativeBuffer.spent_of_transfer taken
      have within : spent.dropped.Sublist options.dropped := left ▸ options.dropped_spent_sublist
      refine .dropping hears within (.looking ?_) nofun (left ▸ due _)
      cases known : world.peer? handle with
      | some peer =>
          obtain rfl := handle_of_peer? known
          have engaging : world.Still (world.engage peer.entry) := .engage world peer.entry
          exact .holding hears.sound (opening_served hostRecounts (hears.still engaging)
            ((engaging.peer? peer.handle).trans known) held)
      | none =>
          obtain ⟨own, silent, clean, adoption⟩ :=
            adoptFromFactory_recounts hostRecounts hears.toOrderly handle address bytes
          rcases adoption with ⟨peer, adopted, ran, rfl, registers⟩ |
            ⟨error, after, ran, recounts⟩ | ⟨panic, after, ran, recounts⟩
          · have adoptedHears := hears.along registers.toRecounts silent clean
            have engaging : adopted.Still (adopted.engage peer.entry) := .engage adopted peer.entry
            show world.Served may peer.handle _ _
              ((adoptFromFactory host peer.handle address bytes >>= _) world)
            rw [callBind_of_ok ran]
            refine registers.served known silent clean (.holding adoptedHears.sound ?_)
            exact opening_served hostRecounts (adoptedHears.still engaging)
              ((engaging.peer? peer.handle).trans registers.stands) held
          · exact .of_unanswered (callBind_of_rejected ran) (.of_rejected recounts silent rfl)
              clean nofun
          · exact .of_unanswered (callBind_of_panicked ran)
              ⟨recounts, fun _ => .inr ⟨rfl, panic, rfl⟩, nofun⟩ clean nofun

end Open

/-! ## Closed events -/

section Closed

variable {handle : Handle} {domain code : Int} {message : Bytes}

/-- The native reference of a closing lifecycle is given up, and what is left
of it is dropped. -/
theorem releaseNative_recounts (may : Latitude σ) (sound : world.Sound)
    (genuine : world.Genuine peer) (closing : (world.life peer.entry).Closing) :
    ∃ (hooks : List Hook) (after : World σ Mark),
      releaseNative .own peer world = (.ok (.ok ()), after) ∧
      world.Recounts may (hooks.map .hookRan) 0 after := by
  let given := { world.life peer.entry with nativeRef := false }
  have settled : (world.life peer.entry).releaseNative =
      .ok (given.tryTeardown.1, given.tryTeardown.2) := Lifecycle.releaseNative_of_closing closing
  have live : (world.life peer.entry).state ≠ .disposed :=
    fun disposed => nomatch closing.1.symm.trans disposed
  obtain ⟨after, finished, quiet⟩ := finish_quietly sound genuine live
    (Lifecycle.Held.releaseNative settled)
  obtain ⟨acts, counted⟩ := quiet.of_concluded
  exact ⟨given.tryTeardown.1.toList.flatMap Teardown.hooks, after,
    (callBind_of_ok (checked_of_ok settled)).trans finished,
    .of_grain (.settled genuine settled quiet) acts counted (Moment.isOwn_hookRan _)⟩

theorem onClosed_served (hostRecounts : host.Recounts may)
    (hears : world.Hears handle (.closed domain code message)) :
    world.Answered may handle (.closed domain code message)
      (onClosed host handle domain code message world) := by
  have bare := NativeEvent.due_of_bare (.closed domain code message) handle fun _ => rfl
  have tells : (NativeEvent.closed domain code message).told =
    .closed (translate domain code message).1 := rfl
  refine lookup_served hears (bare _ _) ?_
  rintro peer held rfl hears stands proper
  refine .still (noteIfAny_quietly decodeOrPlaceholder_noLapse) ?_
  intro _ noted noting
  replace hears := hears.still noting
  replace stands := (noting.peer? peer.handle).trans stands
  replace proper := hears.sound.life_proper (genuine_of_peer? hears.sound stands)
  refine .after_still noting (.checked proper.beginClose_refused (bare _ _) ?_)
  intro (target, before) next begun
  obtain ⟨live, _, _, closed⟩ := Lifecycle.beginClose_ok begun
  have admits : noted.Admits peer (.closed domain code message) target next := by
    refine hears.admits stands (.closed begun) ?_
    rw [closed]
    exact (List.append_nil _).symm
  have misses : (noted.life peer.entry).Misses (.closed (translate domain code message).1)
    (next.abortClose before) := .closed begun
  rcases deliver_serves hostRecounts admits tells (.refl _) with
    ⟨failure, missed, ran, quiet, dropped⟩ | ⟨attached, outcome, ended, ran, serves, _, closing⟩
  · obtain ⟨after, undone, restored, trace⟩ : ∃ after,
        undoing peer (Lifecycle.abortClose before) missed = (.ok (), after) ∧ _ :=
      change_restores admits.genuine quiet
    rw [← World.drops_of_trace trace] at dropped
    exact .of_run ((effectBind_of_ok (onPanic_of_ok ran)).trans (effectBind_of_ok undone))
      (.of_rejected (.of_missed admits.genuine misses restored dropped) rfl rfl) (bare _ _) nofun
  · have endedSound := serves.trail.sound hears.sound
    have endedGenuine := serves.trail.genuine admits.genuine
    have endedClosing : (ended.life peer.entry).Closing := by
      obtain ⟨entry, found, _⟩ := admits.genuine
      rw [closing, World.life_setLife_self found, closed]
      exact ⟨rfl, proper.held.native live⟩
    cases outcome with
    | ok result =>
        obtain ⟨hooks, after, released, settling⟩ :=
          releaseNative_recounts may endedSound endedGenuine endedClosing
        exact .of_run ((effectBind_of_ok (onPanic_of_ok ran)).trans released)
          (serves.trans hears.sound settling (Moment.hooks_hookRan hooks).2) (bare _ _) nofun
    | error panic =>
        obtain ⟨_, told, tell, telling⟩ : Quietly (note (.closedCallbackPanicked peer.handle)) [] 0
          ended := .note _ rfl
        obtain ⟨hooks, after, released, settling⟩ :=
          releaseNative_recounts may (endedSound.plain telling.toPlain)
            (telling.genuine endedGenuine) (by rwa [telling.life])
        have cleaned : releaseAfterPanic peer ended = (.ok (), after) :=
          (bind_of_ok tell).trans
            (bind_of_ok (show (releaseNative .own peer).run told = _ from released))
        have panicked : onPanic (deliver host peer target
            (.closed (translate domain code message).1)).run (releaseAfterPanic peer)
              (noted.setLife peer.entry next) = (.error panic, after) :=
          (onPanic_of_error ran).trans (by rw [cleaned])
        exact .of_run (effectBind_of_error panicked) ((serves.then_idle hears.sound
          (.of_quiet telling)).trans hears.sound settling (Moment.hooks_hookRan hooks).2)
          (bare _ _) nofun

end Closed

/-- Whatever the native side reports is served. -/
theorem dispatch_served (hostRecounts : host.Recounts may) {handle : Handle} {event : NativeEvent}
    (hears : world.Hears handle event) :
    world.Answered may handle event (dispatch host handle event world) := by
  cases event with
  | openRequest address options => exact onOpen_served hostRecounts hears
  | writeCompleted byteCount => exact onWriteCompleted_served hostRecounts hears
  | received data => exact onReceived_served hostRecounts hears
  | closeRequest status message => exact onCloseRequest_served hostRecounts hears
  | closed domain code message => exact onClosed_served hostRecounts hears

end Delivery

end TransportBridge
