import TransportBridge.Proofs.CallLedger
import TransportBridge.Proofs.Onsets
import TransportBridge.Proofs.Rebuffs

/-!
Contract: a connection that the factory makes a target for goes on as one that
is adopted.

An open request of a handle that nobody knows is offered to the factory. From
the moment that the handle is registered with what the factory has made, the
request is one of a handle that is known, and cannot tell how it came to be so.
That holds for every way in which the delivery may end, as the code that is called
in the course of it sees two worlds that differ in their traces alone.

Owns: code that does not look at the trace, how an open request begins and ends,
and that the factory's way agrees with adoption.

Does not own: factories that call the bridge while they are asked.
-/

namespace TransportBridge

variable {σ : Type} {world made other after : World σ Mark} {handle : Handle} {peer : Peer}
  {target : TargetId} {address : Address} {bytes : Bytes} {options spent : NativeBuffer Hook}

/-! ## Traces left out -/

namespace World

/-- The world without its trace. -/
def silenced (world : World σ Mark) : World σ Mark :=
  { world with trace := #[] }

theorem preceded_trace (world : World σ Mark) :
    world.silenced.preceded ⟨world.trace, {}⟩ = world := by
  obtain ⟨_, _, _, _, ⟨_, _⟩, _, _, _, _, _, _⟩ := world
  simp [preceded, silenced, Metrics.since]

end World

/-- Code that does not look at the trace, which is a record of the run and no
part of the bridge. -/
def Behaviour.Untraced (behaviour : Behaviour σ) : Prop :=
  ∀ trace, behaviour.Overlooks ⟨trace, {}⟩

/-- From worlds that differ in their traces alone, a call ends alike, and the
traces go on alike. -/
theorem BridgeCall.perform_of_silenced [Custodian σ] {behaviour : Behaviour σ}
    (untraced : behaviour.Untraced) (depth : Nat) (call : BridgeCall) (sound : world.Sound)
    (same : other.silenced = world.silenced) :
    let host := behaviour.host (BridgeCall.make behaviour depth)
    (call.perform host other).1 = (call.perform host world).1 ∧
      (call.perform host other).2.silenced = (call.perform host world).2.silenced ∧
      ∃ moments, (call.perform host world).2.trace = world.trace ++ moments ∧
        (call.perform host other).2.trace = other.trace ++ moments := by
  intro host
  -- Neither run is the past of the other: both follow the one that starts without a trace.
  have silencedSound : world.silenced.Sound := sound.of_same rfl rfl
  have follows (seen : World σ Mark) (whole : seen.silenced = world.silenced) :
      call.perform host seen =
        (Past.view ⟨seen.trace, {}⟩).upon (call.perform host world.silenced) := by
    have one : Follows (Past.view ⟨seen.trace, {}⟩) (call.perform host) (call.perform host)
        world.silenced := (untraced seen.trace).perform_follows depth call silencedSound
    have back : world.silenced.through (Past.view ⟨seen.trace, {}⟩) = seen := by
      rw [← whole]
      exact seen.preceded_trace
    unfold Follows at one
    rwa [back] at one
  rw [follows world rfl, follows other same]
  exact ⟨rfl, rfl, _, rfl, rfl⟩

variable [Custodian σ]

/-! ## Registered by the factory's answer -/

namespace Registration

variable {host : Host σ Mark} {factory : FactoryId}

/-- What the factory makes is registered. -/
theorem adoptFromFactory_of_ok (installed : world.factory = some factory)
    (answered : host.createTarget factory handle address bytes
      (world.push (.factoryAsked factory handle address bytes)) = (.ok (.ok target), made)) :
    adoptFromFactory host handle address bytes world = register handle target made := by
  have began : adoptFromFactory host handle address bytes world = _ := callBind_of_ok rfl
  rw [installed] at began
  exact began.trans ((effectBind_of_ok rfl).trans (effectBind_of_ok answered))

/-- What the factory declines is counted as dropped, and nothing is registered. -/
theorem adoptFromFactory_of_error (installed : world.factory = some factory)
    {error : ErrorRecord}
    (answered : host.createTarget factory handle address bytes
      (world.push (.factoryAsked factory handle address bytes)) = (.ok (.error error), made)) :
    adoptFromFactory host handle address bytes world = (.ok (.error (.nativeEngine error)),
      (made.count .own Metrics.countDropped).push (.noted (.inboundDeclined handle error))) := by
  have began : adoptFromFactory host handle address bytes world = _ := callBind_of_ok rfl
  rw [installed] at began
  exact began.trans ((effectBind_of_ok rfl).trans ((effectBind_of_ok answered).trans
    (effectBind_of_ok (bind_of_ok rfl))))

end Registration

namespace World

/-- A handle is bound to a new registration of the target. -/
def adopting (world : World σ Mark) (registry : Registry) (handle : Handle) (target : TargetId) :
    World σ Mark :=
  (world.enrolled registry handle target).push (.noted (.registered handle))

variable {registry : Registry}

omit [Custodian σ] in
theorem peer?_adopting
    (inserted : world.own.registry.insert? handle ⟨world.entries.size⟩ = some registry)
    (target : TargetId) :
    (world.adopting registry handle target).peer? handle =
      some ⟨⟨world.entries.size⟩, handle⟩ := by
  have bound : registry.lookup? handle = some ⟨world.entries.size⟩ :=
    (Registry.lookup?_of_insert? inserted handle).trans (if_pos rfl)
  exact congrArg (Option.map _) bound

omit [Custodian σ] in
theorem entry?_adopting (world : World σ Mark) (registry : Registry) (handle : Handle)
    (target : TargetId) :
    World.entry? (world.adopting registry handle target) ⟨world.entries.size⟩ =
      some ⟨handle, target, { pin := some target }⟩ :=
  (entry?_enrolled world registry handle target _).trans (if_pos rfl)

end World

namespace Delivery

open References Registration

variable {host : Host σ Mark}

/-- The open request after the options have been taken over. -/
theorem onOpen_of_taken (taken : options.transfer = .ok (bytes, spent)) :
    let opens peer := Call.holding peer.entry (opening host handle address bytes peer)
    onOpen host handle address options world =
      thenDropping spent (match world.peer? handle with
        | some peer => opens peer
        | none => adoptFromFactory host handle address bytes >>= opens) world := by
  intro opens
  unfold onOpen
  simp only [taken]
  refine ensuring_congr ((bind_of_ok rfl).trans ?_)
  cases world.peer? handle <;> rfl

theorem onOpen_of_known (taken : options.transfer = .ok (bytes, spent))
    (known : world.peer? handle = some peer) :
    onOpen host handle address options world =
      thenDropping spent (Call.holding peer.entry (opening host handle address bytes peer))
        world := by
  rw [onOpen_of_taken taken, known]

/-- The open request of a handle that is offered to the factory is one of the
registration that comes of it. -/
theorem onOpen_of_adopted (taken : options.transfer = .ok (bytes, spent))
    (unknown : world.peer? handle = none)
    (adopts : adoptFromFactory host handle address bytes world = (.ok (.ok peer), made))
    (known : made.peer? handle = some peer) :
    onOpen host handle address options world = onOpen host handle address options made := by
  rw [onOpen_of_taken taken, unknown, onOpen_of_known taken known]
  exact ensuring_congr (callBind_of_ok adopts)

theorem onOpen_of_declined {error : BridgeError}
    (taken : options.transfer = .ok (bytes, spent)) (unknown : world.peer? handle = none)
    (declined : adoptFromFactory host handle address bytes world = (.ok (.error error), made)) :
    ∃ after, onOpen host handle address options world = (.ok (.error error), after) ∧
      made.Spared (spent.dropped.map .hookRan) made.own.metrics after := by
  obtain ⟨after, dropped, spared⟩ := dropBuffer_spared spent made
  rw [onOpen_of_taken taken, unknown]
  exact ⟨after, ensuring_of_ok (callBind_of_rejected declined) dropped, spared⟩

/-- A registration is let go of after its open request, and the buffer is dropped
last. -/
theorem onOpen_of_opening (hostEvolves : host.Evolves) (sound : world.Sound)
    (taken : options.transfer = .ok (bytes, spent)) (known : world.peer? handle = some peer)
    {outcome : Except Panic (Except BridgeError Unit)} {done : World σ Mark}
    (ran : opening host handle address bytes peer (world.engage peer.entry) = (outcome, done)) :
    ∃ after, onOpen host handle address options world = (outcome, after) ∧
      after.acts = done.acts ++ spent.dropped.map .hookRan := by
  have heldSound : (world.engage peer.entry).Sound := sound.plain (world.plain_engage peer.entry)
  have evolves : (world.engage peer.entry).Evolves done := World.Evolves.after_run
    (opening_evolves hostEvolves heldSound (genuine_of_peer? sound known) handle address bytes) ran
  obtain ⟨ended, holding, still⟩ := Custody.holding_still ran (evolves.sound heldSound)
  obtain ⟨_, after, dropped, quiet⟩ : Quietly (dropBuffer spent) spent.dropped 0 ended :=
    .dropBuffer spent
  refine ⟨after, ?_, ?_⟩
  · rw [onOpen_of_known taken known]
    exact ensuring_of_ok holding dropped
  · rw [quiet.acts, still.acts, List.map_nil, List.append_nil]

/-- An open request ends as its delivery does, and what comes after that is noted
at most. -/
theorem opening_of_delivered {accepted delivered : World σ Mark} {outcome : Except Panic Unit}
    (checking : checked .own peer Lifecycle.beginOpen world = (.ok (.ok target), accepted))
    (delivery : deliver host peer target (.openRequest address bytes) accepted =
      (outcome.map .ok, delivered)) :
    ∃ done, opening host handle address bytes peer world = (outcome.map .ok, done) ∧
      done.acts = delivered.acts := by
  cases outcome with
  | error panic =>
      have panicked : deliverOr host peer target (.openRequest address bytes)
          (undoing peer Lifecycle.abortOpen) accepted = (.error panic, delivered) :=
        effectBind_of_error delivery
      exact ⟨delivered, (callBind_of_ok checking).trans (callBind_of_panicked panicked), rfl⟩
  | ok nothing =>
      let finished := delivered.setLife peer.entry (delivered.life peer.entry).finishOpen.2
      have returned : deliverOr host peer target (.openRequest address bytes)
          (undoing peer Lifecycle.abortOpen) accepted = (.ok (.ok ()), delivered) :=
        effectBind_of_ok delivery
      have opens : opening host handle address bytes peer world =
          (if (delivered.life peer.entry).finishOpen.1 then effect (note (.opened handle))
            else pure () : Call σ Mark Unit) finished :=
        (callBind_of_ok checking).trans ((callBind_of_ok returned).trans (effectBind_of_ok rfl))
      rw [opens]
      cases (delivered.life peer.entry).finishOpen.1 with
      | true => exact ⟨_, effect_of_ok rfl, (finished.acts_push _).trans (List.append_nil _)⟩
      | false => exact ⟨finished, rfl, rfl⟩

/-- An open request of a registration that is not open yet begins the callback,
and all that it does by itself after that is to drop its buffer. Or it is rejected
for want of a context, as the runtime does not work. -/
theorem onOpen_onset (host : Host σ Mark) (hostEvolves : host.Evolves) (sound : world.Sound)
    (taken : options.transfer = .ok (bytes, spent)) (known : world.peer? handle = some peer)
    (created : (world.life peer.entry).state = .created)
    (pinned : (world.life peer.entry).pin = some target) :
    (¬ world.runtime.Works ∧ ∃ error missed, error.kind = .runtimeAttachment ∧
      onOpen host handle address options world = (.ok (.error error), missed)) ∨
    ∃ attached begun, begun.acts =
        world.acts ++ [.callback peer target (.openRequest address bytes) attached] ∧
      ∀ {outcome told}, host.callback peer target (.openRequest address bytes) begun =
          (outcome, told) →
        ∃ after, onOpen host handle address options world = (outcome.map .ok, after) ∧
          after.acts = told.acts ++ spent.dropped.map .hookRan := by
  let held := world.engage peer.entry
  let accepted := held.setLife peer.entry { world.life peer.entry with state := .opening }
  have began : (held.life peer.entry).beginOpen =
      .ok (target, { world.life peer.entry with state := .opening }) :=
    Lifecycle.beginOpen_of_created created pinned
  have accepts : (held.life peer.entry).Accepts (.openRequest address bytes) target _ :=
    .openRequest began
  have acceptedSound : accepted.Sound :=
    (sound.plain (world.plain_engage peer.entry)).keepsHolds accepts.keeps
  have checking : checked .own peer Lifecycle.beginOpen held = (.ok (.ok target), accepted) :=
    checked_of_ok began
  rcases deliver_onset host acceptedSound peer target (.openRequest address bytes) with
    ⟨unready, error, missed, wanting, rejected⟩ | ⟨begun, begins, delivers⟩
  · have opened : opening host handle address bytes peer held = (.ok (.error error), _) :=
      (callBind_of_ok checking).trans (callBind_of_rejected
        ((effectBind_of_ok rejected).trans (effectBind_of_ok rfl)))
    obtain ⟨after, ran, _⟩ := onOpen_of_opening hostEvolves sound taken known opened
    exact .inl ⟨unready, error, after, wanting, ran⟩
  · obtain ⟨attached, acts⟩ := begins.acts
    refine .inr ⟨attached, begun, acts, fun {outcome told} returned => ?_⟩
    have begunSound := begins.sound acceptedSound
    have evolves : begun.Evolves told := World.Evolves.after_run
      (hostEvolves.callback begunSound peer target _) returned
    obtain ⟨_, delivered, delivery, quiet⟩ := delivers returned (evolves.sound begunSound)
    obtain ⟨done, opened, noted⟩ := opening_of_delivered checking delivery
    obtain ⟨after, ran, dropped⟩ := onOpen_of_opening hostEvolves sound taken known opened
    refine ⟨after, ran, ?_⟩
    rw [dropped, noted, quiet.acts, List.map_nil, List.append_nil]

end Delivery

/-! ## Open requests that are made again -/

/-- All that the call does by itself is to call back and, in the end, to drop a
buffer. It ends as the callback does. -/
def BridgeCall.CallsBack (request : BridgeCall) (behaviour : Behaviour σ) (depth : Nat)
    (world : World σ Mark) (peer : Peer) (target : TargetId) (event : SocketEvent)
    (hooks : List Hook) : Prop :=
  ∃ attached begun,
    begun.acts = world.acts ++
      [.marked (.called request), .callback peer target event attached] ∧
    ∀ outcome told, (behaviour.callback peer target event).run (make behaviour depth) begun =
        (outcome, told) →
      let reply := Reply.ofOutcome (outcome.map fun _ => .done)
      ∃ after, request.make behaviour (depth + 1) world = (.ok reply, after) ∧
        after.acts = told.acts ++ (hooks.map .hookRan ++ [.marked (.replied request reply)])

/-- An open request of a registration that is not open yet reaches its target, or
is rejected for want of a context and leaves all as it was. -/
theorem BridgeCall.open_onset (attained : Attained world)
    (known : world.peer? handle = some peer)
    (created : (world.life peer.entry).state = .created)
    (pinned : (world.life peer.entry).pin = some target)
    (taken : options.transfer = .ok (bytes, spent)) (behaviour : Behaviour σ) (depth : Nat) :
    let request := BridgeCall.native handle (.openRequest address options)
    (¬ world.runtime.Works ∧ ∃ error after, error.kind = .runtimeAttachment ∧
      request.make behaviour (depth + 1) world = (.ok (.rejected error), after) ∧
      world.Untouched (vainActs handle (.openRequest address options) error) after) ∨
    request.CallsBack behaviour depth world peer target (.openRequest address bytes)
      spent.dropped := by
  intro request
  let host := behaviour.host (make behaviour depth)
  let called := world.push (.marked (.called request))
  have knownStill : called.peer? handle = some peer := known
  have calling : called.acts = world.acts ++ [.marked (.called request)] := world.acts_push _
  have unconfirmed : (NativeEvent.openRequest address options).kind ≠ .writeCompleted := by
    simp [NativeEvent.kind]
  rcases Delivery.onOpen_onset host (behaviour.host_make_evolves depth) (attained.sound.push _)
    taken knownStill created pinned with
    ⟨unready, error, missed, wanting, rejected⟩ | ⟨attached, begun, acts, tells⟩
  · have made : request.make behaviour (depth + 1) world = (.ok (.rejected error), _) :=
      make_of_performed (bind_of_ok rejected)
    exact .inl ⟨unready, error, _, wanting, made,
      attained.untouched known unconfirmed wanting made⟩
  · refine .inr ⟨attached, begun, ?_, fun outcome told returned => ?_⟩
    · rw [acts, calling]
      simp
    · obtain ⟨after, ran, dropped⟩ := tells returned
      have performed : request.perform host called = (outcome.map fun _ => .done, after) := by
        cases outcome with
        | error panic => exact bind_of_error ran
        | ok nothing => exact bind_of_ok ran
      refine ⟨_, make_of_ended performed, ?_⟩
      rw [World.acts_push, dropped, List.append_assoc]
      rfl

namespace Bystander

/-- The first factory has a target for every handle, and all others decline. -/
def supplied : Behaviour Bystander where
  callback _ _ _ := .finish ()
  createHandle _ _ := .unwind .other
  engine _ _ := .finish ()
  createTarget factory _ _ _ :=
    .finish (if factory = ⟨0⟩ then .ok ⟨5⟩ else .error ⟨.webSocket, 1013, "no target"⟩)

theorem supplied_untraced : supplied.Untraced := fun _ =>
  { callback := fun _ _ _ => trivial
    createHandle := fun _ _ => trivial
    engine := fun _ _ => trivial
    createTarget := fun _ _ _ _ => trivial }

/-- A handle that nobody knows yet. -/
def newcomer : Handle where
  raw := 11
  nonzero := by decide

/-- A connection is open, a factory is installed, and the next thread will not be
attached. -/
def supplying (factory : FactoryId) : World Bystander Mark :=
  opened.amid { Surroundings.failing with factory := some factory }

theorem attained_supplying (factory : FactoryId) : Attained (supplying factory) :=
  (reachable_inTurn _ _ _).attained.rearranged _

end Bystander

/-! ## The two ways -/

/-- The native side reports an open request of a handle that nobody knows, and the
factory is asked. -/
def World.offering (world : World σ Mark) (factory : FactoryId) (handle : Handle)
    (address : Address) (options : NativeBuffer Hook) (bytes : Bytes) : World σ Mark :=
  (world.push (.marked (.called (.native handle (.openRequest address options))))).push
    (.factoryAsked factory handle address bytes)

/-- The factory answers, and may rearrange what is around the bridge, which it does
not touch. -/
def Behaviour.Answers (behaviour : Behaviour σ) (depth : Nat) (factory : FactoryId)
    (handle : Handle) (address : Address) (bytes : Bytes) (asked : World σ Mark)
    (answer : Except ErrorRecord TargetId) (left : Surroundings σ) : Prop :=
  (behaviour.createTarget factory handle address bytes).run (BridgeCall.make behaviour depth)
    asked = (.ok answer, asked.amid left)

section Ways

variable {factory : FactoryId} {behaviour : Behaviour σ} {depth : Nat} {left : Surroundings σ}
  {registry : Registry}

namespace BridgeCall

/-- What is adopted under a free handle is registered. -/
theorem make_adopting
    (inserted : world.own.registry.insert? handle ⟨world.entries.size⟩ = some registry)
    (target : TargetId) (behaviour : Behaviour σ) (depth : Nat) :
    let adoption := BridgeCall.adoptInbound handle target
    let reply := Reply.peer ⟨⟨world.entries.size⟩, handle⟩
    adoption.make behaviour (depth + 1) world = (.ok reply,
      ((world.push (.marked (.called adoption))).adopting registry handle target).push
        (.marked (.replied adoption reply))) := by
  intro adoption reply
  let called := world.push (.marked (.called adoption))
  have free : called.own.registry.insert? handle ⟨called.entries.size⟩ = some registry := inserted
  exact make_of_performed (bind_of_ok (Registration.register_of_inserted free target))

/-- From the registration on, an open request that is offered to the factory goes
on as one of a handle that is known. -/
theorem offer_registers (sound : world.Sound) (unknown : world.peer? handle = none)
    (installed : world.factory = some factory) (taken : options.transfer = .ok (bytes, spent))
    (answers : behaviour.Answers depth factory handle address bytes
      (world.offering factory handle address options bytes) (.ok target) left) :
    let host := behaviour.host (make behaviour depth)
    let called := world.push (.marked (.called (.native handle (.openRequest address options))))
    let ready := (world.offering factory handle address options bytes).amid left
    ∃ registry, world.own.registry.insert? handle ⟨world.entries.size⟩ = some registry ∧
      (ready.adopting registry handle target).Sound ∧
      (ready.adopting registry handle target).peer? handle =
        some ⟨⟨world.entries.size⟩, handle⟩ ∧
      Delivery.onOpen host handle address options called =
        Delivery.onOpen host handle address options (ready.adopting registry handle target) := by
  intro host called ready
  obtain ⟨registry, inserted⟩ : ∃ registry,
      world.own.registry.insert? handle ⟨world.entries.size⟩ = some registry :=
    Registry.exists_insert? (Option.map_eq_none_iff.mp unknown) _
  have readySound : ready.Sound := sound.of_same rfl rfl
  have free : ready.own.registry.insert? handle ⟨ready.entries.size⟩ = some registry := inserted
  have known := World.peer?_adopting free target
  have stillUnknown : called.peer? handle = none := unknown
  have stillInstalled : called.factory = some factory := installed
  have answered : host.createTarget factory handle address bytes
      (called.push (.factoryAsked factory handle address bytes)) = (.ok (.ok target), ready) :=
    answers
  have adopts : Registration.adoptFromFactory host handle address bytes called =
      (.ok (.ok ⟨⟨ready.entries.size⟩, handle⟩), ready.adopting registry handle target) :=
    (Registration.adoptFromFactory_of_ok stillInstalled answered).trans
      (Registration.register_of_inserted free target)
  exact ⟨registry, inserted, (readySound.enrolled free target).push _, known,
    Delivery.onOpen_of_adopted taken stillUnknown adopts known⟩

/-- Whether its target is of the factory's making or was adopted before, an open
request ends alike. -/
theorem offered_as_adopted (untraced : behaviour.Untraced) (sound : world.Sound)
    (unknown : world.peer? handle = none) (installed : world.factory = some factory)
    (taken : options.transfer = .ok (bytes, spent))
    (answers : behaviour.Answers depth factory handle address bytes
      (world.offering factory handle address options bytes) (.ok target) left) :
    let peer : Peer := ⟨⟨world.entries.size⟩, handle⟩
    let request := BridgeCall.native handle (.openRequest address options)
    let adoption := BridgeCall.adoptInbound handle target
    let offered := request.make behaviour (depth + 1) world
    let adopted := adoption.make behaviour (depth + 1) (world.amid left)
    let opened := request.make behaviour (depth + 1) adopted.2
    adopted.1 = .ok (.peer peer) ∧ opened.1 = offered.1 ∧
      opened.2.silenced = offered.2.silenced ∧
      ∃ moments,
        offered.2.trace = world.trace ++ #[.marked (.called request),
          .factoryAsked factory handle address bytes, .noted (.registered handle)] ++ moments ∧
        opened.2.trace = world.trace ++ #[.marked (.called adoption), .noted (.registered handle),
          .marked (.replied adoption (.peer peer)), .marked (.called request)] ++ moments := by
  intro peer request adoption offered adopted opened
  obtain ⟨registry, inserted, registeredSound, _, offer⟩ :=
    offer_registers sound unknown installed taken answers
  let host := behaviour.host (make behaviour depth)
  let ready := (world.offering factory handle address options bytes).amid left
  let registered := ready.adopting registry handle target
  have made : adopted = (.ok (.peer peer), _) :=
    make_adopting (show (world.amid left).own.registry.insert? handle _ = some registry from
      inserted) target behaviour depth
  let called := adopted.2.push (.marked (.called request))
  have same : called.silenced = registered.silenced := by
    unfold called
    rw [made]
    rfl
  obtain ⟨reply, silent, moments, one, two⟩ :=
    perform_of_silenced untraced depth request registeredSound same
  have offering : request.perform host (world.push (.marked (.called request))) =
      request.perform host registered := bindRun_congr offer
  let replied : Moment Mark :=
    .marked (.replied request (.ofOutcome (request.perform host registered).1))
  have offers : offered = (.ok (.ofOutcome (request.perform host registered).1),
      (request.perform host registered).2.push replied) := make_of_ended offering
  have opening : request.perform host called =
      ((request.perform host registered).1, (request.perform host called).2) :=
    Prod.ext reply rfl
  have opens : opened = (.ok (.ofOutcome (request.perform host registered).1),
      (request.perform host called).2.push replied) := make_of_ended opening
  rw [offers, opens]
  refine ⟨congrArg Prod.fst made, rfl, silent, moments.push replied, ?_, ?_⟩
  · show (request.perform host registered).2.trace.push replied = _
    rw [one, Array.append_push]
    rfl
  · show (request.perform host called).2.trace.push replied = _
    rw [two, Array.append_push]
    unfold called
    rw [made]
    rfl

/-- An open request that is offered to the factory and fails for want of a context
leaves its registration behind, which is not open yet and holds the target. -/
theorem offered_in_vain (sound : world.Sound) (unknown : world.peer? handle = none)
    (installed : world.factory = some factory) (taken : options.transfer = .ok (bytes, spent))
    (answers : behaviour.Answers depth factory handle address bytes
      (world.offering factory handle address options bytes) (.ok target) left)
    {error : BridgeError} (wanting : error.kind = .runtimeAttachment)
    (ran : (BridgeCall.native handle (.openRequest address options)).make behaviour (depth + 1)
      world = (.ok (.rejected error), after)) :
    after.entry? ⟨world.entries.size⟩ = some ⟨handle, target, { pin := some target }⟩ := by
  let id : EntryId := ⟨world.entries.size⟩
  obtain ⟨registry, inserted, registeredSound, known, offer⟩ :=
    offer_registers sound unknown installed taken answers
  let ready := (world.offering factory handle address options bytes).amid left
  let registered := ready.adopting registry handle target
  have found : registered.entry? id = some ⟨handle, target, { pin := some target }⟩ :=
    ready.entry?_adopting registry handle target
  have fresh : registered.life id = { pin := some target } := World.life_of_entry found
  obtain ⟨ended, dispatched, rfl⟩ := native_rejected ran
  obtain ⟨_, left, misses, ⟨_, _, _⟩, _⟩ :=
    Delivery.onOpen_rejected registeredSound known wanting (offer.symm.trans dispatched)
  have restored : left = registered.life id := by
    rw [fresh] at misses ⊢
    cases misses with
    | openRequest begun =>
        obtain ⟨_, _, rfl⟩ := Lifecycle.beginOpen_ok begun
        rfl
  have standing : registered.setLife id left = registered := by
    rw [restored]
    exact registered.setLife_life id
  show World.entry? (registered.setLife id left) id = _
  rw [standing]
  exact found

/-- What the factory declines is rejected, and nothing is registered. -/
theorem offer_declined (unknown : world.peer? handle = none)
    (installed : world.factory = some factory) (taken : options.transfer = .ok (bytes, spent))
    {error : ErrorRecord} (answers : behaviour.Answers depth factory handle address bytes
      (world.offering factory handle address options bytes) (.error error) left) :
    let request := BridgeCall.native handle (.openRequest address options)
    let reply := Reply.rejected (.nativeEngine error)
    ∃ after, request.make behaviour (depth + 1) world = (.ok reply, after) ∧
      (world.amid left).Spared ([.marked (.called request),
          .factoryAsked factory handle address bytes] ++ (spent.dropped.map .hookRan ++
          [.marked (.replied request reply)])) world.own.metrics.countDropped after := by
  intro request reply
  let host := behaviour.host (make behaviour depth)
  let called := world.push (.marked (.called request))
  let ready := (world.offering factory handle address options bytes).amid left
  let declined := (ready.count .own Metrics.countDropped).push
    (.noted (.inboundDeclined handle error))
  have stillUnknown : called.peer? handle = none := unknown
  have stillInstalled : called.factory = some factory := installed
  have answered : host.createTarget factory handle address bytes
      (called.push (.factoryAsked factory handle address bytes)) = (.ok (.error error), ready) :=
    answers
  obtain ⟨ended, ran, dropped⟩ := Delivery.onOpen_of_declined taken stillUnknown
    (Registration.adoptFromFactory_of_error stillInstalled answered)
  refine ⟨_, make_of_performed (bind_of_ok ran), ?_⟩
  have asking : (world.amid left).Spared [.marked (.called request),
      .factoryAsked factory handle address bytes] world.own.metrics ready :=
    (World.Spared.push (world.amid left) rfl).trans (.push _ rfl)
  have declining : ready.Spared [] world.own.metrics.countDropped declined :=
    (World.Spared.count ready Metrics.countDropped).trans (.note _ _)
  have replying : ended.Spared [.marked (.replied request reply)] ended.own.metrics _ :=
    .push ended rfl
  rw [dropped.counters] at replying
  exact (asking.trans (declining.trans (dropped.trans replying)))

end BridgeCall

namespace Attained

/-- A registration that is not open yet has its handle, and holds its target. -/
theorem holds_created (attained : Attained world) {id : EntryId} {entry : Entry}
    (found : world.entry? id = some entry) (created : (world.life id).state = .created) :
    world.peer? entry.handle = some ⟨id, entry.handle⟩ ∧
      (world.life id).pin = some entry.target := by
  have live : (world.life id).state ≠ .disposed := by
    rw [created]
    decide
  have genuine : world.Genuine ⟨id, entry.handle⟩ := ⟨entry, found, rfl⟩
  obtain ⟨target, pinned⟩ := (attained.sound.life_proper genuine).exists_pin live
  refine ⟨attained.sound.peer?_of_genuine genuine live, pinned.trans ?_⟩
  rw [World.life_of_entry found] at pinned
  rw [attained.orderly.pinned id entry found target pinned]

/-- The factory's way of registering a connection agrees with adoption. In a world
that user code comes to see, between calls or within them, let the native side
report an open request of a handle that nobody knows, with options that have not
been taken over. The factory answers, and does not touch the bridge; what is around
the bridge it may rearrange, the runtime and its faults included.

If the answer is a target, the request ends as it does when that target is adopted
first: with the same reply, and in the same world but for the traces, to which both
add the same moments once the handle is registered and the request is made. If it
fails for want of a context, the registration stays. However things go on, until
it is open every request that is made again calls that target and does not ask the
factory, or fails for want of a context in its turn.

If the factory declines, the request is rejected with what the factory says, and
all is left as it was but for one more event that is counted as dropped. -/
theorem offered_agrees (attained : Attained world) (unknown : world.peer? handle = none)
    (installed : world.factory = some factory) (taken : options.transfer = .ok (bytes, spent))
    (behaviour : Behaviour σ) (depth : Nat) :
    let request := BridgeCall.native handle (.openRequest address options)
    let asked := world.offering factory handle address options bytes
    let answers := behaviour.Answers depth factory handle address bytes asked
    let offered := request.make behaviour (depth + 1) world
    (∀ target left, answers (.ok target) left →
      let peer : Peer := ⟨⟨world.entries.size⟩, handle⟩
      (behaviour.Untraced →
        let adoption := BridgeCall.adoptInbound handle target
        let adopted := adoption.make behaviour (depth + 1) (world.amid left)
        let opened := request.make behaviour (depth + 1) adopted.2
        adopted.1 = .ok (.peer peer) ∧ opened.1 = offered.1 ∧
          opened.2.silenced = offered.2.silenced ∧
          ∃ moments,
            offered.2.trace = world.trace ++ #[.marked (.called request),
              .factoryAsked factory handle address bytes, .noted (.registered handle)] ++
                moments ∧
            opened.2.trace = world.trace ++ #[.marked (.called adoption),
              .noted (.registered handle), .marked (.replied adoption (.peer peer)),
              .marked (.called request)] ++ moments) ∧
      ∀ error, offered.1 = .ok (.rejected error) → error.kind = .runtimeAttachment →
        offered.2.life peer.entry = { pin := some target } ∧
        ∀ later, Onward offered.2 later → (later.life peer.entry).state = .created →
          ∀ address options bytes spent, options.transfer = .ok (bytes, spent) →
            ∀ (behaviour : Behaviour σ) depth,
            let again := BridgeCall.native handle (.openRequest address options)
            (¬ later.runtime.Works ∧ ∃ error after, error.kind = .runtimeAttachment ∧
              again.make behaviour (depth + 1) later = (.ok (.rejected error), after) ∧
              later.Untouched (vainActs handle (.openRequest address options) error) after) ∨
            again.CallsBack behaviour depth later peer target (.openRequest address bytes)
              spent.dropped) ∧
    ∀ error left, answers (.error error) left →
      let reply := Reply.rejected (.nativeEngine error)
      ∃ after, offered = (.ok reply, after) ∧
        (world.amid left).Spared ([.marked (.called request),
            .factoryAsked factory handle address bytes] ++ (spent.dropped.map .hookRan ++
            [.marked (.replied request reply)])) world.own.metrics.countDropped after := by
  intro request asked answers offered
  refine ⟨fun target left answered => ?_, fun error left declined =>
    BridgeCall.offer_declined unknown installed taken declined⟩
  intro peer
  refine ⟨fun untraced => BridgeCall.offered_as_adopted untraced attained.sound unknown installed
    taken answered, fun error rejected wanting => ?_⟩
  have ran : offered = (.ok (.rejected error), offered.2) := Prod.ext rejected rfl
  have found := BridgeCall.offered_in_vain attained.sound unknown installed taken answered
    wanting ran
  refine ⟨World.life_of_entry found, fun later onward created => ?_⟩
  have offeredAttained : Attained offered.2 := attained.called behaviour (depth + 1) request
  have laterAttained := onward.attained offeredAttained
  obtain ⟨entry, kept, rfl, rfl⟩ :=
    (onward.path offeredAttained.sound).entry_kept offeredAttained.sound found
  obtain ⟨known, pinned⟩ := laterAttained.holds_created kept created
  intro address options bytes spent taken behaviour depth
  exact BridgeCall.open_onset laterAttained known created pinned taken behaviour depth

/-- No thread is attached for the target of the factory's making. It is called when
the request is made once more. Another factory declines. -/
theorem offered_agrees_of_failed_once :
    let address : Address := ⟨"stream", "near", 1, ""⟩
    let options : NativeBuffer Hook := (NativeBuffer.borrowed [9]).withRelease "options"
    let request := BridgeCall.native Bystander.newcomer (.openRequest address options)
    let world := Bystander.supplying ⟨0⟩
    let offered := request.make Bystander.supplied 1 world
    let adopted := (BridgeCall.adoptInbound Bystander.newcomer ⟨5⟩).make Bystander.supplied 1 world
    let opened := request.make Bystander.supplied 1 adopted.2
    let declined := request.make Bystander.supplied 1 (Bystander.supplying ⟨1⟩)
    let error : BridgeError := .runtimeAttachment "on_open" (.attachFailed (-1))
    offered.1 = .ok (.rejected error) ∧ opened.1 = offered.1 ∧
      opened.2.silenced = offered.2.silenced ∧
      request.CallsBack Bystander.supplied 0 (offered.2.amid .working)
        ⟨⟨world.entries.size⟩, Bystander.newcomer⟩ ⟨5⟩ (.openRequest address [9]) ["options"] ∧
      declined.1 = .ok (.rejected (.nativeEngine ⟨.webSocket, 1013, "no target"⟩)) ∧
      declined.2.own.registry = (Bystander.supplying ⟨1⟩).own.registry := by
  intro address options request world offered adopted opened declined error
  have taken : options.transfer = .ok ([9], options) := rfl
  have unknown : world.peer? Bystander.newcomer = none := by decide +kernel
  obtain ⟨registers, _⟩ := (Bystander.attained_supplying ⟨0⟩).offered_agrees unknown rfl
    taken Bystander.supplied 0
  obtain ⟨agrees, again⟩ := registers ⟨5⟩ world.surroundings rfl
  obtain ⟨_, same, silent, _⟩ := agrees Bystander.supplied_untraced
  have rejected : offered.1 = .ok (.rejected error) := Reply.ok_of_rejected (by decide +kernel)
  obtain ⟨left, repeats⟩ := again error rejected rfl
  have reached := (repeats _ (Onward.here.rearranged .working) (congrArg Lifecycle.state left)
    address options _ _ taken Bystander.supplied 0).resolve_left fun missed => missed.1 trivial
  have unknownThere : (Bystander.supplying ⟨1⟩).peer? Bystander.newcomer = none := by
    decide +kernel
  obtain ⟨_, declines⟩ := (Bystander.attained_supplying ⟨1⟩).offered_agrees unknownThere
    rfl taken Bystander.supplied 0
  obtain ⟨after, made, spared⟩ := declines _ (Bystander.supplying ⟨1⟩).surroundings rfl
  have ended : declined = (.ok (.rejected _), after) := made
  refine ⟨rejected, same, silent, reached, congrArg Prod.fst ended, ?_⟩
  rw [ended]
  exact spared.books.2.1

end Attained

end Ways

end TransportBridge
