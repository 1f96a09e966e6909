import TransportBridge.Proofs.Rebuffs

/-!
Contract: an outbound connection for which the engine gives a handle that is
taken already.

The connection is rejected, and the native handle is closed, as the engine has
allocated it. The handle is one name for both, though. What comes of the
registration that it stands for is up to the engine: nothing, where the engine
lets the matter rest, and where it reports the end of what it was told to close,
the registration is told of its own.

Owns: engines that echo a closed call, and what either of them makes of a
collision.
-/

namespace TransportBridge

variable {σ : Type} {world answered : World σ Mark}

/-! ## Engines that echo -/

/-- Reports the end that was asked for, and lets a panic of its target go on. -/
def UserCode.echo (handle : Handle) (error : ErrorRecord) : UserCode σ Unit :=
  .call (.native handle (.closed error.domain.raw error.code (messageBytes error.message))) fun
    | .panicked panic => .unwind panic
    | _ => .finish ()

/-- The engine answers a closed call by the end that it was asked for, if it is
so set, and by nothing else. -/
def Behaviour.Echoes (behaviour : Behaviour σ) (set : σ → Bool) : Prop :=
  ∀ handle error, behaviour.engine handle (.closed error) =
    .look fun world => if set world.host then .echo handle error else .finish ()

/-- A panic goes on as one, and all else is for the caller to reply to. -/
def Reply.within : Reply → Reply → Reply
  | .panicked panic, _ => .panicked panic
  | _, outer => outer

namespace Bystander

/-- The engine gives the same handle again, and echoes. -/
def echoing : Behaviour Bystander where
  callback _ _ _ := .finish ()
  createHandle _ _ := .finish (.ok handle)
  engine
    | handle, .closed error => .look fun _ => .echo handle error
    | _, _ => .finish ()
  createTarget _ _ _ _ := .unwind .other

theorem echoing_echoes : echoing.Echoes fun _ => true :=
  fun _ _ => rfl

/-- A connection that both sides take for open. -/
def ready : World Bystander Mark :=
  (Behaviour.silent.inTurn 1
    [.adoptInbound handle ⟨0⟩,
      .native handle (.openRequest ⟨"stream", "near", 1, ""⟩ (.transferable [])),
      .socket ⟨0⟩ .opened] start).amid .working

theorem attained_ready : Attained ready :=
  (reachable_inTurn _ _ _).attained.rearranged .working

end Bystander

/-! ## Collisions -/

section Collisions

variable [Custodian σ] {handle : Handle} {peer : Peer} {address : Address} {target : TargetId}

namespace World

/-- The target is held while the engine is asked for a handle. -/
def asking (world : World σ Mark) (target : TargetId) (address : Address) (framing : Framing) :
    World σ Mark :=
  { world with lent := target :: world.lent }.push (.engineAsked address framing)

/-- The target is held no more on behalf of the one who asked. -/
def unlent (world : World σ Mark) (target : TargetId) : World σ Mark :=
  { world with lent := world.lent.erase target }

omit [Custodian σ] in
theorem taken_of_peer? (known : world.peer? handle = some peer) (id : EntryId) :
    world.own.registry.insert? handle id = none := by
  obtain ⟨entry, bound, _⟩ := Option.map_eq_some_iff.mp known
  rw [Registry.insert?_eq_none_iff, Registry.contains_eq_isSome_lookup?, bound]
  rfl

end World

namespace Registration

variable {host : Host σ Mark} {framing : Option Framing}

/-- The handle that the engine has given is closed again before the rejection
is passed on. -/
theorem openOutbound_of_taken (sound : answered.Sound)
    (asked : host.createHandle address (framing.getD world.config.defaultFraming)
      (world.asking target address (framing.getD world.config.defaultFraming)) =
        (.ok (.ok handle), answered))
    (known : answered.peer? handle = some peer) :
    let record := unregisteredRecord (.duplicateHandle handle)
    ∃ begun : World σ Mark,
      ((answered.unlent target).givingUp target).Spared [.engineCalled none handle (.closed record)]
        answered.own.metrics.countViolation begun ∧
      ∀ outcome after, host.engine handle (.closed record) begun = (outcome, after) →
        openOutbound host address framing target world =
          (outcome.map fun _ => .error (.duplicateHandle handle), after) := by
  intro record
  let settled := framing.getD world.config.defaultFraming
  let created : Moment Mark := .noted (.outboundCreated handle address settled)
  let returned := answered.unlent target
  have lending : Custody.lendingTarget target (askEngine host address settled) world =
      (.ok (.ok handle), returned) :=
    onPanic_of_ok ((bind_of_ok rfl).trans
      ((bind_of_ok ((bind_of_ok rfl).trans asked)).trans (bind_of_ok rfl)))
  have notedSound : (returned.push created).Sound := sound.of_same rfl rfl
  have knownStill : (returned.push created).peer? handle = some peer := known
  obtain ⟨rejected, registering, spared⟩ :=
    register_of_taken notedSound (World.taken_of_peer? knownStill _) target
  rw [World.givingUp_push] at spared
  let told := rejected.push (.noted (.outboundUnregistered handle (.duplicateHandle handle)))
  let closing : Moment Mark := .engineCalled none handle (.closed record)
  have rejecting : (register handle target).run (returned.push created) = _ := registering
  have looked : openOutbound host address framing target world = _ := callBind_of_ok rfl
  have noted : openOutbound host address framing target world = _ :=
    looked.trans ((effectBind_of_ok lending).trans (effectBind_of_ok rfl))
  have began : openOutbound host address framing target world = _ :=
    noted.trans (effectBind_of_ok rejecting)
  refine ⟨told.push closing, ?_, fun outcome after closed => ?_⟩
  · have counted : told.own.metrics = answered.own.metrics.countViolation := spared.counters
    have calling : told.Spared [closing] answered.own.metrics.countViolation
        (told.push closing) := by
      rw [← counted]
      exact .push told rfl
    exact (World.Spared.note _ _).trans (spared.trans ((World.Spared.note _ _).trans calling))
  · have forwarded : (do
        note (.outboundUnregistered handle (.duplicateHandle handle))
        forward host none handle (.closed record) : BridgeM σ Mark Unit) rejected =
          (outcome, after) := (bind_of_ok rfl).trans ((bind_of_ok rfl).trans closed)
    rw [began]
    cases outcome with
    | ok nothing => exact effectBind_of_ok forwarded
    | error panic => exact effectBind_of_error forwarded

end Registration

/-- A standing registration is told of the end of its connection, where the
runtime works. -/
theorem BridgeCall.closed_tells (sound : world.Sound) (known : world.peer? handle = some peer)
    (live : (world.life peer.entry).state.isClosed = false) (works : world.runtime.Works)
    (behaviour : Behaviour σ) (depth : Nat) (domain code : Int) (message : Bytes) :
    .callback .closed ∈ ((BridgeCall.native handle (.closed domain code message)).make behaviour
      (depth + 1) world).2.deeds peer.entry := by
  let call := BridgeCall.native handle (.closed domain code message)
  let host := behaviour.host (make behaviour depth)
  let called := world.push (.marked (.called call))
  have knownStill : called.peer? handle = some peer := known
  obtain ⟨_, after, ran, _, told⟩ := Delivery.onClosed_tells (behaviour.host_make_evolves depth)
    (sound.push (.marked (.called call))) knownStill live works domain code message
  have performed : (call.perform host called).2 = after :=
    (replyTo_world (Delivery.onClosed host handle domain code message) (fun _ => .done) called).trans
      (congrArg Prod.snd ran)
  rw [make_succ]
  unfold replied
  rw [World.deeds_push, performed]
  exact List.mem_append_left _ told

/-- Once the engine is told to close the handle that it has given, the call ends
as that of the engine does, and until then nothing has changed. -/
theorem BridgeCall.openOutbound_of_taken (sound : world.Sound) {behaviour : Behaviour σ}
    {depth : Nat} {framing : Option Framing}
    (answer : (behaviour.createHandle address (framing.getD world.config.defaultFraming)).run
      (make behaviour depth) ((world.push (.marked (.called (.openOutbound address framing
        target)))).asking target address (framing.getD world.config.defaultFraming)) =
          (.ok (.ok handle), answered))
    (known : answered.peer? handle = some peer) :
    let call := BridgeCall.openOutbound address framing target
    let rejection := BridgeError.duplicateHandle handle
    let record := Registration.unregisteredRecord rejection
    answered.Sound ∧ ∃ begun : World σ Mark,
      ((answered.unlent target).givingUp target).Spared [.engineCalled none handle (.closed record)]
        answered.own.metrics.countViolation begun ∧
      ∀ outcome after,
        (behaviour.engine handle (.closed record)).run (make behaviour depth) begun =
          (outcome, after) →
        let reply := Reply.ofOutcome (outcome.map fun _ => .rejected rejection)
        call.make behaviour (depth + 1) world =
          (.ok reply, after.push (.marked (.replied call reply))) := by
  intro call rejection record
  let host := behaviour.host (make behaviour depth)
  let called := world.push (.marked (.called call))
  let settled := framing.getD called.config.defaultFraming
  have asking : (called.asking target address settled).Sound := sound.of_same rfl rfl
  have asked : host.createHandle address settled (called.asking target address settled) =
    (.ok (.ok handle), answered) := answer
  have evolves := World.Evolves.after_run
    ((behaviour.host_make_evolves depth).createHandle asking address settled) asked
  obtain ⟨begun, spared, closing⟩ :=
    Registration.openOutbound_of_taken (evolves.sound asking) asked known
  refine ⟨evolves.sound asking, begun, spared, fun outcome after closed => ?_⟩
  have opened := closing outcome after closed
  have performed : call.perform host called =
      (outcome.map fun _ => .rejected rejection, after) := by
    cases outcome with
    | ok nothing => exact bind_of_ok opened
    | error panic => exact bind_of_error opened
  rw [make_runs behaviour depth call world]
  unfold replied
  rw [performed]

/-- What stands under a handle is left standing. -/
theorem World.Spared.standing {done : List (Moment Mark)} {metrics : Metrics}
    {begun : World σ Mark}
    (spared : ((answered.unlent target).givingUp target).Spared done metrics begun) :
    begun.entries = answered.entries ∧ begun.own.registry = answered.own.registry ∧
      begun.runtime = answered.runtime := by
  obtain ⟨entries, registry, runtime⟩ := spared.books
  obtain ⟨unchanged, own, same⟩ := (answered.unlent target).givingUp_books target
  exact ⟨entries.trans unchanged, registry.trans (congrArg Ledger.registry own),
    runtime.trans same⟩

namespace Attained

/-- The engine gives a handle that stands for a registration already, whatever
has happened since it was asked. It is told to close that handle, once and as
WebSocket/1011, on behalf of no registration; until then every registration is
as it was, and so is the registry.

An engine that does not echo has heard the last of it: the connection is
rejected as a duplicate, and nothing else comes of the call. The report of an
engine that does echo is one like any other of that handle. So where its
runtime works, the registration that the handle stands for is told of the end
of a connection that nobody has closed, and is closed. -/
theorem collided (attained : Attained world) {behaviour : Behaviour σ} {set : σ → Bool}
    (echoes : behaviour.Echoes set) {depth : Nat} {framing : Option Framing}
    (answer : (behaviour.createHandle address (framing.getD world.config.defaultFraming)).run
      (BridgeCall.make behaviour (depth + 1))
      ((world.push (.marked (.called (.openOutbound address framing target)))).asking target
        address (framing.getD world.config.defaultFraming)) = (.ok (.ok handle), answered))
    (known : answered.peer? handle = some peer) :
    let call := BridgeCall.openOutbound address framing target
    let rejection := BridgeError.duplicateHandle handle
    let record := Registration.unregisteredRecord rejection
    let ended := call.make behaviour (depth + 2) world
    record.domain = .webSocket ∧ record.code = 1011 ∧
    ∃ begun : World σ Mark,
      ((answered.unlent target).givingUp target).Spared [.engineCalled none handle (.closed record)]
        answered.own.metrics.countViolation begun ∧
      (set begun.host = false → ended = (.ok (.rejected rejection),
        begun.push (.marked (.replied call (.rejected rejection))))) ∧
      (set begun.host = true →
        let report := BridgeCall.native handle
          (.closed record.domain.raw record.code (messageBytes record.message))
        ∃ reply told, report.make behaviour (depth + 1) begun = (.ok reply, told) ∧
          ended = (.ok (reply.within (.rejected rejection)),
            told.push (.marked (.replied call (reply.within (.rejected rejection))))) ∧
          (answered.runtime.Works → (answered.life peer.entry).state.isClosed = false →
            .callback .closed ∈ ended.2.deeds peer.entry ∧
              (ended.2.life peer.entry).state.isClosed = true)) := by
  intro call rejection record ended
  obtain ⟨answeredSound, begun, spared, made⟩ :=
    BridgeCall.openOutbound_of_taken attained.sound answer known
  have looked : (behaviour.engine handle (.closed record)).run (BridgeCall.make behaviour (depth + 1))
      begun = (if set begun.host then .echo handle record else .finish () : UserCode σ Unit).run
        (BridgeCall.make behaviour (depth + 1)) begun := by
    rw [echoes]
    rfl
  refine ⟨rfl, rfl, begun, spared, fun silent => ?_, fun echoing => ?_⟩
  · rw [silent] at looked
    exact made _ _ looked
  · rw [echoing] at looked
    intro report
    obtain ⟨reply, told, reported⟩ :
        ∃ reply told, report.make behaviour (depth + 1) begun = (.ok reply, told) :=
      ⟨_, _, BridgeCall.make_runs behaviour depth report begun⟩
    have echoed : ended = (.ok (reply.within (.rejected rejection)),
        told.push (.marked (.replied call (reply.within (.rejected rejection))))) := by
      have heard := looked.trans (bind_of_ok reported)
      cases reply with
      | panicked panic => exact made _ _ heard
      | _ => exact made _ _ heard
    refine ⟨reply, told, reported, echoed, fun works live => ?_⟩
    obtain ⟨entries, registry, runtime⟩ := spared.standing
    have knownStill : begun.peer? handle = some peer := by
      unfold World.peer?
      rw [registry]
      exact known
    have liveStill : (begun.life peer.entry).state.isClosed = false := by
      unfold World.life World.entry?
      rw [entries]
      exact live
    have worksStill : begun.runtime.Works := by
      rw [runtime]
      exact works
    have closedTold : .callback .closed ∈ ended.2.deeds peer.entry := by
      have heard := BridgeCall.closed_tells (answeredSound.of_same entries registry)
        knownStill liveStill worksStill behaviour depth record.domain.raw record.code
        (messageBytes record.message)
      rw [reported] at heard
      rw [echoed, World.deeds_push]
      exact List.mem_append_left _ heard
    have attainedEnd : Attained ended.2 := attained.called behaviour (depth + 2) call
    exact ⟨closedTold, (attainedEnd.reflects peer.entry).closed.mpr closedTold⟩

/-- Nothing is left of the connection that was open under the handle. -/
private theorem torn_down_by_echo :
    let ended := (BridgeCall.openOutbound ⟨"stream", "near", 1, ""⟩ none ⟨1⟩).make
      Bystander.echoing 2 Bystander.ready
    Reply.ofOutcome ended.1 = .rejected (.duplicateHandle Bystander.handle) ∧
      (ended.2.life ⟨0⟩).state = .disposed ∧ ended.2.own.registry.size = 0 := by
  decide +kernel

/-- The engine echoes. The connection that was open under its handle is
closed by an attempt to open another one, and torn down. -/
theorem collided_of_echoed :
    let call := BridgeCall.openOutbound ⟨"stream", "near", 1, ""⟩ none ⟨1⟩
    let ended := call.make Bystander.echoing 2 Bystander.ready
    (Bystander.ready.life ⟨0⟩).state = .opened ∧
      ended.1 = .ok (.rejected (.duplicateHandle Bystander.handle)) ∧
      .callback .closed ∈ ended.2.deeds ⟨0⟩ ∧ (ended.2.life ⟨0⟩).state = .disposed ∧
      ended.2.own.registry.size = 0 := by
  intro call ended
  let framing := Bystander.ready.config.defaultFraming
  let answered : World Bystander Mark :=
    (Bystander.ready.push (.marked (.called call))).asking ⟨1⟩ ⟨"stream", "near", 1, ""⟩ framing
  have answer : (Bystander.echoing.createHandle ⟨"stream", "near", 1, ""⟩ framing).run
      (BridgeCall.make Bystander.echoing 1) answered = (.ok (.ok Bystander.handle), answered) := rfl
  have known : answered.peer? Bystander.handle = some ⟨⟨0⟩, Bystander.handle⟩ := by decide +kernel
  have live : (answered.life ⟨0⟩).state.isClosed = false := by decide +kernel
  obtain ⟨_, _, begun, _, _, echoed⟩ :=
    Bystander.attained_ready.collided Bystander.echoing_echoes answer known
  obtain ⟨_, _, _, _, harmed⟩ := echoed rfl
  obtain ⟨told, _⟩ := harmed trivial live
  obtain ⟨rejected, left⟩ := torn_down_by_echo
  exact ⟨by decide +kernel, Reply.ok_of_rejected rejected, told, left⟩

end Attained

end Collisions

end TransportBridge
