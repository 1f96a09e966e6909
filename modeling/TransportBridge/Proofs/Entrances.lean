import TransportBridge.Proofs.Passage

/-!
Contract: the worlds evolve through the entry points of the native side.

A delivery either misses, which is one stride with the acceptance and what
takes it back, or begins the callback, and the stride is over where the
callback begins. The closed event leaves its lifecycle closing for as long as
its callback runs, and the native reference is given up after it in any case.
-/

namespace TransportBridge

variable {σ α : Type} {world : World σ Mark}

namespace Delivery

open References Registration

variable {host : Host σ Mark} {peer : Peer} {target : TargetId} {event : SocketEvent}
  {next : Lifecycle}

/-- A lifecycle that has accepted an event and is not closed by it. -/
theorem evolves_of_called (genuine : world.Genuine peer)
    (accepts : (world.life peer.entry).Accepts event target next)
    (opened : next.state.isClosed = false) {begun : World σ Mark}
    (stride : Stride world begun)
    (lives : ∀ id, begun.life id = (world.setLife peer.entry next).life id) :
    world.Evolves begun := by
  have same : next.Closing ↔ (world.life peer.entry).Closing :=
    iff_of_false (Lifecycle.not_closing_of_live opened)
      (Lifecycle.not_closing_of_live accepts.keeps.live)
  exact .of_stride stride genuine same lives

theorem evolves_of_missed (sound : world.Sound) (genuine : world.Genuine peer)
    {left : Lifecycle} (misses : (world.life peer.entry).Misses event left)
    {after : World σ Mark} (plain : (world.setLife peer.entry left).Plain after) :
    world.Evolves after := by
  obtain ⟨keeps, stays⟩ := misses.keeps (sound.life_held _)
  have same : left.Closing ↔ (world.life peer.entry).Closing :=
    iff_of_false (Lifecycle.not_closing_of_live stays) (Lifecycle.not_closing_of_live keeps.live)
  exact .of_stride (.missed genuine misses plain) genuine same plain.life

/-- Taking a step back in one lifecycle, after calm things. -/
theorem change_undoes (genuine : world.Genuine peer) {step : Lifecycle → α × Lifecycle}
    {missed : World σ Mark} (plain : (world.setLife peer.entry next).Plain missed) :
    ∃ after, change peer.entry step missed = (.ok (step next).1, after) ∧
      (world.setLife peer.entry (step next).2).Plain after := by
  obtain ⟨entry, found, _⟩ := genuine
  have reached : missed.life peer.entry = next := by
    rw [plain.life, World.life_setLife_self found]
  refine ⟨missed.setLife peer.entry (step next).2, ?_, ?_⟩
  · unfold change
    rw [reached]
  · have restored := plain.setLife peer.entry (step next).2
    rwa [World.setLife_setLife] at restored

theorem undoing_undoes (genuine : world.Genuine peer) {step : Lifecycle → Lifecycle}
    {missed : World σ Mark} (plain : (world.setLife peer.entry next).Plain missed) :
    ∃ after, undoing peer step missed = (.ok (), after) ∧
      (world.setLife peer.entry (step next)).Plain after :=
  change_undoes genuine plain

theorem thenDropping_evolves {buffer : NativeBuffer Hook} {body : Call σ Mark α}
    (ran : world.Evolves (body world).2) :
    world.Evolves (thenDropping buffer body world).2 :=
  .ensuring ran (.dropBuffer buffer)

/-- No books are to blame for a message that cannot be decoded. -/
theorem decodeOrPlaceholder_noLapse {message : Bytes} {notice : Notice}
    (noted : (decodeOrPlaceholder message).2 = some notice) : notice.isLapse = false := by
  unfold decodeOrPlaceholder decodeMessage at noted
  cases decoded : Utf8.decode message <;> rw [decoded] at noted <;> cases noted
  rfl

theorem noteIfAny_runs {notice : Option Notice}
    (noLapse : ∀ {noted}, notice = some noted → noted.isLapse = false) (world : World σ Mark) :
    ∃ after, noteIfAny notice world = (.ok (), after) ∧ world.Plain after ∧
      after.runtime = world.runtime := by
  cases notice with
  | none => exact ⟨world, rfl, .refl world, rfl⟩
  | some notice =>
      exact ⟨world.push (.noted notice), rfl, .push (fun _ => rfl) (noLapse rfl), rfl⟩

theorem noteIfAny_calm {notice : Option Notice}
    (noLapse : ∀ {noted}, notice = some noted → noted.isLapse = false) :
    Calm (noteIfAny notice : BridgeM σ Mark Unit) world := by
  obtain ⟨after, ran, plain, _⟩ := noteIfAny_runs noLapse world
  exact ⟨(), after, ran, plain⟩

theorem dropIfAny_calm (buffer : Option (NativeBuffer Hook)) :
    Calm (dropIfAny buffer : BridgeM σ Mark Unit) world :=
  .optionForM fun buffer => .dropBuffer buffer

variable [Custodian σ]

theorem context_noLapse {thunk : RuntimeContext → BridgeM σ Mark α} {operation : String}
    {error : BridgeError} {after : World σ Mark}
    (ran : Custody.holdingTarget target (Attachment.withAttachedContext operation thunk) world =
      (.ok (.error error), after)) : error.isLapse = false := by
  obtain ⟨_, lent, _⟩ := ensuring_ok ran
  obtain ⟨_, _, _, attached⟩ := bind_ok lent
  obtain ⟨_, rfl⟩ := Attachment.withAttachedContext_gives attached
  rfl

/-- A delivery either misses, and nothing comes of it, or begins the callback,
which goes on as the target has it. -/
theorem deliver_cases (hostEvolves : host.Evolves) (sound : world.Sound)
    (genuine : world.Genuine peer)
    (accepts : (world.life peer.entry).Accepts event target next) {accepted : World σ Mark}
    (accepting : (world.setLife peer.entry next).Plain accepted) :
    (∃ error after, deliver host peer target event accepted = (.ok (.error error), after) ∧
      (world.setLife peer.entry next).Plain after ∧ ¬ accepted.runtime.Works) ∨
    ∃ begun outcome after, deliver host peer target event accepted = (outcome, after) ∧
      (∀ error, outcome ≠ .ok (.error error)) ∧ Stride world begun ∧
      (∀ id, begun.life id = (world.setLife peer.entry next).life id) ∧
      begun.deeds peer.entry = world.deeds peer.entry ++ [.callback event.kind] ∧
      begun.Evolves after := by
  have nextSound : (world.setLife peer.entry next).Sound := sound.keepsHolds accepts.keeps
  have prepared := accepting.trans (.dispatching accepted peer target event)
  rcases Attachment.withAttachedContext_cases event.name (fun _ => invoke host peer target event)
    (accepted.dispatching peer target event) with
    ⟨error, missed, context, plain, broken⟩ | ⟨_, ready, held, plain, granted⟩
  · have missedPlain := prepared.trans plain
    obtain ⟨_, given, give, giving⟩ := Custody.giveBack_calm (nextSound.plain missedPlain) target
    have noLapse : error.isLapse = false := by
      obtain ⟨_, rfl⟩ := Attachment.withAttachedContext_gives context
      rfl
    exact .inl ⟨error, _, deliver_missed context give,
      (missedPlain.trans giving).trans (.eventDropped given peer event error noLapse), broken⟩
  · have readied := prepared.trans plain
    let begun := ready.calling peer target event
    have begunSound : begun.Sound := (nextSound.plain readied).push _
    have stride : Stride world begun := .called genuine accepts readied ready.attached?
    have told : begun.deeds peer.entry =
        world.deeds peer.entry ++ [.callback event.kind] := by
      show (ready.push _).deeds peer.entry = _
      rw [World.deeds_push, readied.deeds]
      simp [Moment.deed?, World.deeds, World.setLife]
    have evolves : begun.Evolves (host.callback peer target event begun).2 :=
      hostEvolves.callback begunSound peer target event
    cases returned : host.callback peer target event begun with
    | mk outcome done =>
        rw [returned] at evolves
        obtain ⟨_, dropped, drop, dropping⟩ : Calm (Attachment.drop held) done :=
          Attachment.drop_calm held
        have ended := evolves.then_plain dropping
        obtain ⟨_, given, give, giving⟩ := Custody.giveBack_calm (ended.sound begunSound) target
        refine .inr ⟨begun, outcome.map .ok, given.dispatched outcome,
          deliver_called granted returned drop give, ?_, stride, readied.life, told,
          (ended.then_plain giving).then_plain (.dispatched given outcome)⟩
        cases outcome <;> exact nofun

/-- Delivering with a way back: the deed is done where the delivery gives a
result, and where it misses, the way back leads to what is left. -/
theorem deliverOr_evolves (hostEvolves : host.Evolves) (sound : world.Sound)
    (genuine : world.Genuine peer)
    (accepts : (world.life peer.entry).Accepts event target next)
    (opened : next.state.isClosed = false) {accepted : World σ Mark}
    (accepting : (world.setLife peer.entry next).Plain accepted)
    {undo : BridgeM σ Mark Unit} {left : Lifecycle}
    (misses : (world.life peer.entry).Misses event left)
    (undone : ∀ missed, (world.setLife peer.entry next).Plain missed → ∃ after,
      undo missed = (.ok (), after) ∧ (world.setLife peer.entry left).Plain after) :
    ∃ outcome after, deliverOr host peer target event undo accepted = (outcome, after) ∧
      world.Evolves after ∧
      (outcome = .ok (.ok ()) → .callback event.kind ∈ after.deeds peer.entry) := by
  rcases deliver_cases hostEvolves sound genuine accepts accepting with
    ⟨error, missed, ran, plain, _⟩ |
    ⟨begun, outcome, after, ran, delivered, stride, lives, told, rest⟩
  · obtain ⟨after, undo, last⟩ := undone missed plain
    refine ⟨.ok (.error error), after, ?_, evolves_of_missed sound genuine misses last, nofun⟩
    exact (effectBind_of_ok ran).trans (effectBind_of_ok undo)
  · have evolves := (evolves_of_called genuine accepts opened stride lives).trans rest
    have kept := (rest.path.deeds_prefix peer.entry).subset (told ▸ List.mem_concat_self)
    cases outcome with
    | error panic => exact ⟨.error panic, after, effectBind_of_error ran, evolves, nofun⟩
    | ok answer =>
        cases answer with
        | error error => exact absurd rfl (delivered error)
        | ok result => exact ⟨.ok (.ok ()), after, effectBind_of_ok ran, evolves, fun _ => kept⟩

/-! ## The entry points -/

theorem onWriteCompleted_evolves (hostEvolves : host.Evolves) (sound : world.Sound)
    (handle : Handle) (byteCount : Nat) :
    world.Evolves (onWriteCompleted host handle byteCount world).2 := by
  apply lookup_holding_evolves sound
  intro peer held heldSound genuine
  apply checked_evolves (heldSound.life_proper genuine).acceptWriteCompleted_refused
  intro target next accepted
  rcases deliver_cases hostEvolves heldSound genuine (.writeCompleted accepted) (.refl _) with
    ⟨error, missed, ran, plain, _⟩ | ⟨begun, outcome, after, ran, _, stride, lives, _, rest⟩
  · rw [ran]
    exact evolves_of_missed heldSound genuine (.writeCompleted accepted) plain
  · rw [ran]
    obtain ⟨streaming, _, _, rfl⟩ := Lifecycle.acceptWriteCompleted_ok accepted
    exact (evolves_of_called genuine (.writeCompleted accepted)
      (SocketState.not_isClosed_of_acceptsStreamEvents streaming) stride lives).trans rest

theorem onCloseRequest_evolves (hostEvolves : host.Evolves) (sound : world.Sound)
    (handle : Handle) (status : Int) (message : Bytes) :
    world.Evolves (onCloseRequest host handle status message world).2 := by
  apply lookup_holding_evolves sound
  intro peer held heldSound genuine
  apply checked_evolves (heldSound.life_proper genuine).acceptCloseRequest_refused
  intro (target, before) next accepted
  have opened : next.state.isClosed = false := by
    obtain ⟨_, _, _, rfl⟩ := Lifecycle.acceptCloseRequest_ok accepted
    rfl
  refine .afterCalm (noteIfAny_calm decodeOrPlaceholder_noLapse) ?_
  intro _ noted noting
  obtain ⟨outcome, after, ran, evolves, _⟩ := deliverOr_evolves hostEvolves heldSound genuine
    (.closeRequest accepted) opened noting (.closeRequest accepted) fun missed plain =>
      undoing_undoes genuine plain
  rw [ran]
  exact evolves

omit [Custodian σ] in
theorem enterReceived_of_ok {byteCount : Nat} {retained : Option (NativeBuffer Hook)}
    (accepted : (world.life peer.entry).acceptReceived byteCount retained = .ok (target, next)) :
    enterReceived peer byteCount retained world =
      (.ok (.ok target), world.setLife peer.entry next) := by
  have stepped : attempt peer.entry (Lifecycle.acceptReceived byteCount retained) world =
      (.ok (.ok target), world.setLife peer.entry next) := by
    unfold attempt
    rw [accepted]
  exact effectBind_of_ok stepped

section Refused

omit [Custodian σ]

variable {byteCount : Nat} {retained : Option (NativeBuffer Hook)} {refusal : Refusal}

/-- Received bytes that are refused are dropped with their buffer. -/
private theorem enterReceived_refused_eq
    (refused : (world.life peer.entry).acceptReceived byteCount retained = .error refusal) :
    ∃ dropped, world.Plain dropped ∧ enterReceived peer byteCount retained world =
      (reject .own (refusal.toError peer.handle) : Call σ Mark TargetId) dropped := by
  have stepped : attempt peer.entry (Lifecycle.acceptReceived byteCount retained) world =
      (.ok (.error refusal), world) := by
    unfold attempt
    rw [refused]
  obtain ⟨_, dropped, drop, dropping⟩ : Calm (dropIfAny retained) world := dropIfAny_calm _
  exact ⟨dropped, dropping, (effectBind_of_ok stepped).trans (effectBind_of_ok drop)⟩

theorem enterReceived_ends
    (refused : (world.life peer.entry).acceptReceived byteCount retained = .error refusal) :
    ∃ after, enterReceived peer byteCount retained world =
      (.ok (.error (refusal.toError peer.handle)), after) := by
  obtain ⟨dropped, _, rejected⟩ := enterReceived_refused_eq refused
  rw [rejected]
  exact reject_ends dropped .own _

theorem enterReceived_of_refused
    (refused : (world.life peer.entry).acceptReceived byteCount retained = .error refusal)
    (noLapse : refusal.isLapse = false) :
    Rejects (enterReceived peer byteCount retained) (refusal.toError peer.handle) world := by
  obtain ⟨dropped, dropping, rejected⟩ := enterReceived_refused_eq refused
  obtain ⟨after, ran, plain⟩ : Rejects (reject .own (refusal.toError peer.handle) :
    Call σ Mark TargetId) _ dropped :=
      reject_rejects .own ((refusal.toError_isLapse _).trans noLapse)
  exact ⟨after, rejected.trans ran, dropping.trans plain⟩

theorem enterReceived_evolves {rest : TargetId → Call σ Mark α}
    (proper : (world.life peer.entry).Proper)
    (taken : ∀ target next,
      (world.life peer.entry).acceptReceived byteCount retained = .ok (target, next) →
      world.Evolves (rest target (world.setLife peer.entry next)).2) :
    world.Evolves ((enterReceived peer byteCount retained >>= rest) world).2 := by
  cases accepted : (world.life peer.entry).acceptReceived byteCount retained with
  | error refusal =>
      obtain ⟨after, rejected, plain⟩ :=
        enterReceived_of_refused accepted (proper.acceptReceived_refused accepted)
      rw [callBind_of_rejected rejected]
      exact .of_plain plain
  | ok outcome =>
      obtain ⟨target, next⟩ := outcome
      rw [callBind_of_ok (enterReceived_of_ok accepted)]
      exact taken target next accepted

end Refused

theorem onReceived_evolves (hostEvolves : host.Evolves) (sound : world.Sound)
    (handle : Handle) (data : NativeBuffer Hook) :
    world.Evolves (onReceived host handle data world).2 := by
  rcases lookup_cases sound handle .received with ⟨peer, bound, genuine⟩ | ⟨_, unknown, plain⟩
  · unfold onReceived
    rw [effectBind_of_ok (show (lookup handle .received).run world = _ from bound)]
    apply Call.holding_evolves sound
    intro held holding
    have genuineHeld := holding.genuine genuine
    cases taken : data.transfer with
    | error violation =>
        have noLapse := NativeBuffer.transfer_refused taken
        exact thenDropping_evolves (.rejected (reject_rejects .own noLapse))
    | ok outcome =>
        obtain ⟨bytes, spent⟩ := outcome
        apply enterReceived_evolves ((sound.plain holding).life_proper genuineHeld)
        intro target next accepted
        rw [NativeBuffer.size_of_transfer taken] at accepted ⊢
        have opened : next.state.isClosed = false := by
          obtain ⟨streaming, _, rfl⟩ := Lifecycle.acceptReceived_ok accepted
          exact SocketState.not_isClosed_of_acceptsStreamEvents streaming
        obtain ⟨outcome, after, ran, evolves, _⟩ := deliverOr_evolves hostEvolves
          (sound.plain holding) genuineHeld (.received accepted) opened (.refl _)
          (.received accepted) fun missed plain => by
            obtain ⟨aborted, abort, restored⟩ : ∃ after,
                change peer.entry (Lifecycle.abortReceived bytes.length) missed =
                  (.ok (next.abortReceived bytes.length).1, after) ∧ _ :=
              change_undoes genuineHeld plain
            obtain ⟨_, after, drop, dropping⟩ : Calm (dropIfAny _) aborted := dropIfAny_calm _
            exact ⟨after, (bind_of_ok abort).trans drop, restored.trans dropping⟩
        rw [ran]
        exact evolves
  · unfold onReceived
    rw [effectBind_of_ok (show (lookup handle .received).run world = _ from unknown)]
    exact (World.Evolves.of_plain plain).trans (thenDropping_evolves (.refl _))

theorem opening_evolves (hostEvolves : host.Evolves) (sound : world.Sound)
    (genuine : world.Genuine peer) (handle : Handle) (address : Address) (options : Bytes) :
    world.Evolves (opening host handle address options peer world).2 := by
  apply checked_evolves (sound.life_proper genuine).beginOpen_refused
  intro target next begun
  have opened : next.state.isClosed = false := by
    obtain ⟨_, _, rfl⟩ := Lifecycle.beginOpen_ok begun
    rfl
  obtain ⟨outcome, after, ran, evolves, told⟩ := deliverOr_evolves hostEvolves sound genuine
    (.openRequest begun) opened (.refl _) (.openRequest begun)
    fun missed plain => undoing_undoes genuine plain
  rcases outcome with panic | error | result
  · rw [callBind_of_panicked ran]
    exact evolves
  · rw [callBind_of_rejected ran]
    exact evolves
  · rw [callBind_of_ok ran]
    apply evolves.trans
    have genuineAfter := evolves.genuine genuine
    have finished : after.Evolves (change peer.entry Lifecycle.finishOpen after).2 :=
      .of_stride (.opened genuineAfter (told rfl) (.refl _)) genuineAfter (Lifecycle.finishOpen_closing _)
        fun _ => rfl
    refine .effectBind finished ?_
    intro opened last _ _
    cases opened with
    | true => exact .effect (.calm (.note _ rfl))
    | false => exact .refl last

theorem onOpen_evolves (hostEvolves : host.Evolves) (sound : world.Sound)
    (handle : Handle) (address : Address) (options : NativeBuffer Hook) :
    world.Evolves (onOpen host handle address options world).2 := by
  unfold onOpen
  cases taken : options.transfer with
  | error violation =>
      have noLapse := NativeBuffer.transfer_refused taken
      exact thenDropping_evolves (.rejected (reject_rejects .own noLapse))
  | ok outcome =>
      obtain ⟨bytes, spent⟩ := outcome
      apply thenDropping_evolves
      refine .looking ?_
      cases known : world.peer? handle with
      | none =>
          apply adoptFromFactory_evolves hostEvolves sound
          intro peer adopted evolves genuine
          have adoptedSound := evolves.sound sound
          apply Call.holding_evolves adoptedSound
          intro held holding
          exact opening_evolves hostEvolves (adoptedSound.plain holding)
            (holding.genuine genuine) handle address bytes
      | some peer =>
          apply Call.holding_evolves sound
          intro held holding
          exact opening_evolves hostEvolves (sound.plain holding)
            (holding.genuine (genuine_of_peer? sound known)) handle address bytes

/-- The native reference of a closing lifecycle is given up, and the
registration with it if nobody else holds it. -/
theorem releaseNative_concludes (sound : world.Sound) (genuine : world.Genuine peer)
    (closing : (world.life peer.entry).Closing) :
    ∃ after, releaseNative .own peer world = (.ok (.ok ()), after) ∧
      (world.concluded peer { world.life peer.entry with nativeRef := false }.tryTeardown).Plain
        after ∧ Stride world after := by
  let given := { world.life peer.entry with nativeRef := false }
  have settled : (world.life peer.entry).releaseNative =
      .ok (given.tryTeardown.1, given.tryTeardown.2) := Lifecycle.releaseNative_of_closing closing
  have live : (world.life peer.entry).state ≠ .disposed :=
    fun disposed => nomatch closing.1.symm.trans disposed
  have held : given.tryTeardown.2.Held := Lifecycle.Held.releaseNative settled
  obtain ⟨after, finished, plain⟩ := finish_concludes sound genuine live held
  exact ⟨after, (callBind_of_ok (checked_of_ok settled)).trans finished, plain,
    .settled genuine settled plain⟩

/-- The native reference of a closing lifecycle is given up, and only that
lifecycle is closing no more. -/
theorem releaseNative_settles (sound : world.Sound) (genuine : world.Genuine peer)
    (closing : (world.life peer.entry).Closing) :
    ∃ after, releaseNative .own peer world = (.ok (.ok ()), after) ∧ Path world after ∧
      ¬ (after.life peer.entry).Closing ∧
      ∀ id, id ≠ peer.entry → after.life id = world.life id := by
  obtain ⟨after, released, plain, stride⟩ := releaseNative_concludes sound genuine closing
  refine ⟨after, released, .single stride, ?_, ?_⟩
  · obtain ⟨entry, found, _⟩ := genuine
    rw [plain.life, World.life_concluded, World.life_setLife_self found]
    rintro ⟨_, native⟩
    rw [Lifecycle.tryTeardown_nativeRef] at native
    exact absurd native Bool.false_ne_true
  · intro id other
    rw [plain.life, World.life_concluded, World.life_setLife_of_ne _ other]

omit [Custodian σ] in
/-- A world that goes on from the end of a closed callback until the lifecycle
is closing no more, and the others are as the callback left them. -/
private theorem evolves_of_settled {begun ended last : World σ Mark}
    (live : (world.life peer.entry).state.isClosed = false) (stride : Stride world begun)
    (lives : ∀ id, begun.life id = (world.setLife peer.entry next).life id)
    (rest : begun.Evolves ended) (settling : Path ended last)
    (settled : ¬ (last.life peer.entry).Closing)
    (others : ∀ id, id ≠ peer.entry → last.life id = ended.life id) : world.Evolves last := by
  refine ⟨(rest.path.head stride).trans settling, ?_⟩
  intro id
  by_cases own : id = peer.entry
  · subst own
    exact iff_of_false settled (Lifecycle.not_closing_of_live live)
  · rw [others id own, rest.closing, lives, World.life_setLife_of_ne _ own]

omit [Custodian σ] in
/-- At the end of a closed callback the lifecycle is closing. -/
theorem closing_of_called (sound : world.Sound) (genuine : world.Genuine peer)
    {before : SocketState}
    (began : (world.life peer.entry).beginClose = .ok ((target, before), next))
    {begun ended : World σ Mark} (stride : Stride world begun)
    (lives : ∀ id, begun.life id = (world.setLife peer.entry next).life id)
    (rest : begun.Evolves ended) :
    ended.Sound ∧ ended.Genuine peer ∧ (ended.life peer.entry).Closing := by
  have path : Path world ended := (Relation.ReflTransGen.single stride).trans rest.path
  refine ⟨path.sound sound, path.genuine genuine, ?_⟩
  obtain ⟨live, _, _, rfl⟩ := Lifecycle.beginClose_ok began
  obtain ⟨entry, found, _⟩ := genuine
  rw [rest.closing, lives, World.life_setLife_self found]
  exact ⟨rfl, (sound.life_held _).native live⟩

/-- The native reference is given up after a panic as well. -/
theorem releaseAfterPanic_settles (sound : world.Sound) (genuine : world.Genuine peer)
    (closing : (world.life peer.entry).Closing) :
    ∃ after, releaseAfterPanic peer world = (.ok (), after) ∧ Path world after ∧
      ¬ (after.life peer.entry).Closing ∧
      ∀ id, id ≠ peer.entry → after.life id = world.life id := by
  obtain ⟨_, noted, note, noting⟩ : Calm (note (.closedCallbackPanicked peer.handle)) world :=
    .note _ rfl
  obtain ⟨after, released, settling, settled, others⟩ :=
    releaseNative_settles (sound.plain noting) (noting.genuine genuine) (by rwa [noting.life])
  refine ⟨after, ?_, settling.head (.plain noting), settled, fun id other => ?_⟩
  · exact (bind_of_ok note).trans
      (bind_of_ok (show (releaseNative .own peer).run noted = _ from released))
  · rw [others id other, noting.life]

/-- A closed event that is accepted is not delivered for want of a context, or
its callback begins, and the native reference is given up whether that ends by a
result or by a panic. -/
theorem closing_cases (hostEvolves : host.Evolves) (sound : world.Sound)
    (genuine : world.Genuine peer) (error : ErrorRecord) {before : SocketState}
    (began : (world.life peer.entry).beginClose = .ok ((target, before), next)) :
    let closing : Call σ Mark Unit := do
      match ← effect (onPanic (deliver host peer target (.closed error)).run
          (releaseAfterPanic peer)) with
      | .ok () => releaseNative .own peer
      | .error error =>
        effect (undoing peer (Lifecycle.abortClose before))
        throw error
    ∃ outcome last, closing (world.setLife peer.entry next) = (outcome, last) ∧
      world.Evolves last ∧ (¬ world.runtime.Works ∨
        (∀ error, outcome ≠ .ok (.error error)) ∧ .callback .closed ∈ last.deeds peer.entry) := by
  intro closing
  have accepts : (world.life peer.entry).Accepts (.closed error) target next := .closed began
  have misses : (world.life peer.entry).Misses (.closed error) (next.abortClose before) :=
    .closed began
  obtain ⟨live, _, _, _⟩ := Lifecycle.beginClose_ok began
  rcases deliver_cases hostEvolves sound genuine accepts (.refl _) with
    ⟨error, missed, ran, plain, broken⟩ |
    ⟨begun, outcome, ended, ran, delivered, stride, lives, told, rest⟩
  · obtain ⟨after, undone, restored⟩ : ∃ after,
        undoing peer (Lifecycle.abortClose before) missed = (.ok (), after) ∧ _ :=
      undoing_undoes genuine plain
    exact ⟨_, after, (effectBind_of_ok (onPanic_of_ok ran)).trans (effectBind_of_ok undone),
      evolves_of_missed sound genuine misses restored, .inl broken⟩
  · obtain ⟨endedSound, endedGenuine, endedClosing⟩ :=
      closing_of_called sound genuine began stride lives rest
    have heard {last : World σ Mark} (settling : Path ended last) :
        .callback .closed ∈ last.deeds peer.entry := by
      have onwards : Path begun last := rest.path.trans settling
      exact (onwards.deeds_prefix peer.entry).subset (told ▸ List.mem_concat_self)
    rcases outcome with panic | error | result
    · obtain ⟨last, released, settling, settled, others⟩ :=
        releaseAfterPanic_settles endedSound endedGenuine endedClosing
      have panicked : onPanic (deliver host peer target (.closed error)).run
          (releaseAfterPanic peer) (world.setLife peer.entry next) = (.error panic, last) :=
        (onPanic_of_error ran).trans (by rw [released])
      exact ⟨_, last, effectBind_of_error panicked,
        evolves_of_settled live stride lives rest settling settled others,
        .inr ⟨nofun, heard settling⟩⟩
    · exact absurd rfl (delivered error)
    · obtain ⟨last, released, settling, settled, others⟩ :=
        releaseNative_settles endedSound endedGenuine endedClosing
      exact ⟨_, last, (effectBind_of_ok (onPanic_of_ok ran)).trans released,
        evolves_of_settled live stride lives rest settling settled others,
        .inr ⟨nofun, heard settling⟩⟩

theorem onClosed_evolves (hostEvolves : host.Evolves) (sound : world.Sound)
    (handle : Handle) (domain code : Int) (message : Bytes) :
    world.Evolves (onClosed host handle domain code message world).2 := by
  apply lookup_holding_evolves sound
  intro peer held heldSound genuine
  refine .afterCalm (noteIfAny_calm decodeOrPlaceholder_noLapse) ?_
  intro _ noted noting
  apply (World.Evolves.of_plain noting).trans
  have notedSound : noted.Sound := heldSound.plain noting
  have notedGenuine : noted.Genuine peer := noting.genuine genuine
  apply checked_evolves (notedSound.life_proper notedGenuine).beginClose_refused
  intro (target, before) next began
  obtain ⟨_, _, ran, evolves, _⟩ := closing_cases hostEvolves notedSound notedGenuine
    (translate domain code message).1 began
  exact .of_run ran evolves

/-- Whatever the native side reports, the world evolves. -/
theorem dispatch_evolves (hostEvolves : host.Evolves) (sound : world.Sound) (handle : Handle)
    (event : NativeEvent) : world.Evolves (dispatch host handle event world).2 := by
  cases event with
  | openRequest address options => exact onOpen_evolves hostEvolves sound handle address options
  | writeCompleted byteCount => exact onWriteCompleted_evolves hostEvolves sound handle byteCount
  | received data => exact onReceived_evolves hostEvolves sound handle data
  | closeRequest status message =>
      exact onCloseRequest_evolves hostEvolves sound handle status message
  | closed domain code message =>
      exact onClosed_evolves hostEvolves sound handle domain code message

/-! ## What a working runtime delivers -/

theorem deliverOr_tells (hostEvolves : host.Evolves) (sound : world.Sound)
    (genuine : world.Genuine peer)
    (accepts : (world.life peer.entry).Accepts event target next) {accepted : World σ Mark}
    (accepting : (world.setLife peer.entry next).Plain accepted)
    (works : accepted.runtime.Works) (undo : BridgeM σ Mark Unit) :
    ∃ outcome after, deliverOr host peer target event undo accepted = (outcome, after) ∧
      Path world after ∧ .callback event.kind ∈ after.deeds peer.entry := by
  rcases deliver_cases hostEvolves sound genuine accepts accepting with
    ⟨_, _, _, _, broken⟩ | ⟨_, outcome, after, ran, delivered, stride, _, told, rest⟩
  · exact absurd works broken
  · refine ⟨outcome, after, ?_, (Relation.ReflTransGen.single stride).trans rest.path,
      (rest.path.deeds_prefix peer.entry).subset (told ▸ List.mem_concat_self)⟩
    rcases outcome with panic | error | result
    · exact effectBind_of_error ran
    · exact absurd rfl (delivered error)
    · exact effectBind_of_ok ran

/-- A close request is told of wherever the lifecycle accepts stream events. -/
theorem onCloseRequest_tells (hostEvolves : host.Evolves) (sound : world.Sound)
    {handle : Handle} (known : world.peer? handle = some peer)
    (streaming : (world.life peer.entry).state.acceptsStreamEvents = true)
    (works : world.runtime.Works) (status : Int) (message : Bytes) :
    .callback .closeRequest ∈
      (onCloseRequest host handle status message world).2.deeds peer.entry := by
  let held := world.engage peer.entry
  have holding : world.Plain held := world.plain_engage peer.entry
  have genuine : held.Genuine peer := holding.genuine (genuine_of_peer? sound known)
  have proper : (held.life peer.entry).Proper := (sound.plain holding).life_proper genuine
  have streams : (held.life peer.entry).state.acceptsStreamEvents = true := streaming
  have live := SocketState.not_isClosed_of_acceptsStreamEvents streams
  obtain ⟨target, pinned⟩ := proper.exists_pin (SocketState.ne_disposed_of_not_isClosed live)
  have accepted := Lifecycle.acceptCloseRequest_of_streaming streams pinned
  obtain ⟨noted, note, noting, runtime⟩ := noteIfAny_runs
    (decodeOrPlaceholder_noLapse : ∀ {noted}, (decodeOrPlaceholder message).2 = some noted → _)
    (held.setLife peer.entry { held.life peer.entry with state := .closePending })
  obtain ⟨outcome, done, ran, path, told⟩ := deliverOr_tells hostEvolves (sound.plain holding)
    genuine (.closeRequest accepted) noting (by rw [runtime]; exact works)
    (undoing peer (Lifecycle.abortCloseRequest (held.life peer.entry).state))
  obtain ⟨after, ended, plain⟩ : ∃ after,
      onCloseRequest host handle status message world = (outcome, after) ∧ done.Plain after := by
    have began : onCloseRequest host handle status message world = _ :=
      callBind_of_ok (lookup_of_known known _)
    rw [began]
    refine Custody.holding_runs ?_ (path.sound (sound.plain holding))
    exact (callBind_of_ok (checked_of_ok accepted)).trans ((effectBind_of_ok note).trans ran)
  rw [ended, plain.deeds]
  exact told

/-- Bytes that may not be confirmed are refused, whatever the runtime. -/
theorem onWriteCompleted_rejects (sound : world.Sound) {handle : Handle}
    (known : world.peer? handle = some peer) {byteCount : Nat} {refusal : Refusal}
    (refused : (world.life peer.entry).acceptWriteCompleted byteCount = .error refusal) :
    Rejects (onWriteCompleted host handle byteCount) (refusal.toError peer.handle) world := by
  let held := world.engage peer.entry
  have holding : world.Plain held := world.plain_engage peer.entry
  have still : (held.life peer.entry).acceptWriteCompleted byteCount = .error refusal := refused
  have proper : (held.life peer.entry).Proper :=
    (sound.plain holding).life_proper (holding.genuine (genuine_of_peer? sound known))
  obtain ⟨done, rejected, plain⟩ := checkedBind_of_refused still
    (proper.acceptWriteCompleted_refused still)
    fun target => deliver host peer target (.writeCompleted byteCount)
  obtain ⟨after, ran, ended⟩ := Custody.holding_runs rejected
    ((sound.plain holding).plain plain)
  exact ⟨after, (callBind_of_ok (lookup_of_known known _)).trans ran,
    (holding.trans plain).trans ended⟩

/-- Bytes that may be confirmed are told of where the runtime works. -/
theorem onWriteCompleted_tells (hostEvolves : host.Evolves) (sound : world.Sound)
    {handle : Handle} (known : world.peer? handle = some peer) {byteCount : Nat}
    (accepted : (world.life peer.entry).acceptWriteCompleted byteCount = .ok (target, next))
    (works : world.runtime.Works) :
    ∃ rest, (onWriteCompleted host handle byteCount world).2.deeds peer.entry =
      world.deeds peer.entry ++ .callback .writeCompleted :: rest := by
  let held := world.engage peer.entry
  have holding : world.Plain held := world.plain_engage peer.entry
  have heldSound := sound.plain holding
  have genuine : held.Genuine peer := holding.genuine (genuine_of_peer? sound known)
  have taken : (held.life peer.entry).acceptWriteCompleted byteCount = .ok (target, next) :=
    accepted
  rcases deliver_cases hostEvolves heldSound genuine (.writeCompleted taken) (.refl _) with
    ⟨_, _, _, _, broken⟩ | ⟨begun, outcome, done, ran, _, stride, _, told, rest⟩
  · exact absurd works broken
  have path : Path held done := (Relation.ReflTransGen.single stride).trans rest.path
  obtain ⟨after, ended, plain⟩ : ∃ after,
      onWriteCompleted host handle byteCount world = (outcome, after) ∧ done.Plain after := by
    have began : onWriteCompleted host handle byteCount world = _ :=
      callBind_of_ok (lookup_of_known known _)
    rw [began]
    refine Custody.holding_runs ?_ (path.sound heldSound)
    exact (callBind_of_ok (checked_of_ok taken)).trans ran
  obtain ⟨later, grown⟩ := rest.path.deeds_prefix peer.entry
  refine ⟨later, ?_⟩
  rw [ended, plain.deeds, ← grown, told, holding.deeds, List.append_assoc]
  rfl

/-- The end of a connection is told of once, where the runtime works. -/
theorem onClosed_tells (hostEvolves : host.Evolves) (sound : world.Sound) {handle : Handle}
    (known : world.peer? handle = some peer)
    (live : (world.life peer.entry).state.isClosed = false) (works : world.runtime.Works)
    (domain code : Int) (message : Bytes) :
    ∃ outcome after, onClosed host handle domain code message world = (outcome, after) ∧
      (∀ error, outcome ≠ .ok (.error error)) ∧
      .callback .closed ∈ after.deeds peer.entry := by
  let held := world.engage peer.entry
  have holding : world.Plain held := world.plain_engage peer.entry
  obtain ⟨noted, note, noting, runtime⟩ := noteIfAny_runs
    (decodeOrPlaceholder_noLapse : ∀ {noted}, (decodeOrPlaceholder message).2 = some noted → _)
    held
  have heard : world.Plain noted := holding.trans noting
  have notedSound := sound.plain heard
  have genuine : noted.Genuine peer := heard.genuine (genuine_of_peer? sound known)
  obtain ⟨target, pinned⟩ := (sound.life_proper (genuine_of_peer? sound known)).exists_pin
    (SocketState.ne_disposed_of_not_isClosed live)
  have began := Lifecycle.beginClose_of_live live pinned
  rw [← heard.life] at began
  obtain ⟨outcome, done, ran, evolves, told⟩ :=
    closing_cases hostEvolves notedSound genuine (translate domain code message).1 began
  obtain ⟨after, ended, plain⟩ : ∃ after,
      onClosed host handle domain code message world = (outcome, after) ∧ done.Plain after := by
    have found : onClosed host handle domain code message world = _ :=
      callBind_of_ok (lookup_of_known known _)
    rw [found]
    refine Custody.holding_runs ?_ (evolves.sound notedSound)
    exact (effectBind_of_ok note).trans ((callBind_of_ok (checked_of_ok began)).trans ran)
  rw [runtime] at told
  obtain ⟨delivered, told⟩ := told.resolve_left fun broken => broken works
  refine ⟨outcome, after, ended, delivered, ?_⟩
  rw [plain.deeds]
  exact told

end Delivery

end TransportBridge
