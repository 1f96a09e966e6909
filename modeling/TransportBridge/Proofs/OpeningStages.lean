import TransportBridge.Proofs.OpeningParts

/-!
Contract: how far an opening and an open request can be at the same time.

One of three things is so from some turn on. The opener registers and the open
request will be refused; the opener has registered and the request is on its way
to its target; or what the factory had is registered, and the request is on its
way to that. Each is told by the stages of both sides and how far the entry is,
and each lasts, whosever turn it is.

Owns: what the host may do meanwhile, the stages at which each of the three is
so, and the turns that keep it so.
Does not own: which of them a schedule leads to.
-/

namespace TransportBridge

open References Registration Delivery

variable {σ : Type} {base world after : World σ Mark}

/-! ## What the host does meanwhile -/

/-- Callbacks and engine calls return, and let the bridge alone. -/
structure Host.StandsBy (host : Host σ Mark) : Prop where
  callback (peer : Peer) (target : TargetId) (event : SocketEvent) (world : World σ Mark) :
    ∃ after, host.callback peer target event world = (.ok (), after) ∧ world.Undisturbed after
  engine (handle : Handle) (call : EngineCall) (world : World σ Mark) :
    ∃ after, host.engine handle call world = (.ok (), after) ∧ world.Undisturbed after

/-- The factory gives that answer, and lets the bridge alone. -/
def Host.Answers (host : Host σ Mark) (factory : FactoryId)
    (answer : Except ErrorRecord TargetId) : Prop :=
  ∀ (handle : Handle) (address : Address) (options : Bytes) (world : World σ Mark),
    ∃ after, host.createTarget factory handle address options world = (.ok answer, after) ∧
      world.Undisturbed after

namespace Encounter

/-- The registration that the handle gets, whoever binds it. -/
abbrev peer (encounter : Encounter) (base : World σ Mark) : Peer :=
  ⟨⟨base.entries.size⟩, encounter.handle⟩

variable (encounter : Encounter) (host : Host σ Mark)

/-- Asking the factory comes to that, and leaves the entries alone. -/
def Offers (factory : Option FactoryId) (answer : Except BridgeError TargetId) : Prop :=
  ∀ world : World σ Mark, world.factory = factory →
    ∃ after, offer host encounter.handle encounter.address encounter.bytes world =
      (.ok answer, after) ∧ world.Undisturbed after

/-- An open request was delivered in a world in which it had been accepted, and
ended as the callback did. -/
def Heard (peer : Peer) (target : TargetId)
    (delivery : Option (World σ Mark × Peer × TargetId))
    (outcome : Except Panic (Except BridgeError Unit)) : Prop :=
  let event : SocketEvent := .openRequest encounter.address encounter.bytes
  ∃ before begun, delivery = some (before, peer, target) ∧
    before.Begins peer target event begun ∧
    outcome = (host.callback peer target event begun).1.map .ok

variable {encounter host}

theorem offers_of_none :
    encounter.Offers host none (.error (.unknownHandle encounter.handle)) := by
  intro world bare
  have dropped : offer host encounter.handle encounter.address encounter.bytes world =
      dropUnknown encounter.handle .openRequest world := by
    refine (callBind_of_ok rfl).trans ?_
    rw [bare]
  have noted : (do
      count .own Metrics.countDropped
      note (.unknownHandle encounter.handle .openRequest) : BridgeM σ Mark Unit) world =
        (.ok (), _) := bind_of_ok rfl
  exact ⟨_, dropped.trans (effectBind_of_ok noted), (World.Undisturbed.count world _).trans
    (.push _ _)⟩

theorem offers_of_answers {factory : FactoryId} {answer : Except ErrorRecord TargetId}
    (answers : host.Answers factory answer) :
    encounter.Offers host (some factory) (answer.mapError .nativeEngine) := by
  intro world installed
  let asked := world.push
    (.factoryAsked factory encounter.handle encounter.address encounter.bytes)
  obtain ⟨answered, answering, same⟩ := answers encounter.handle encounter.address
    encounter.bytes asked
  have asking : world.Undisturbed answered := (World.Undisturbed.push world _).trans same
  cases answer with
  | ok target =>
    have offered : offer host encounter.handle encounter.address encounter.bytes world =
        (.ok (.ok target), answered) := by
      refine (callBind_of_ok rfl).trans ?_
      rw [installed]
      exact (effectBind_of_ok rfl).trans (effectBind_of_ok answering)
    exact ⟨answered, offered, asking⟩
  | error error =>
    let counted := answered.count .own Metrics.countDropped
    let declined := counted.push (.noted (.inboundDeclined encounter.handle error))
    have noted : (do
        count .own Metrics.countDropped
        note (.inboundDeclined encounter.handle error) : BridgeM σ Mark Unit) answered =
          (.ok (), declined) := bind_of_ok rfl
    have offered : offer host encounter.handle encounter.address encounter.bytes world =
        (.ok (.error (.nativeEngine error)), declined) := by
      refine (callBind_of_ok rfl).trans ?_
      rw [installed]
      exact (effectBind_of_ok rfl).trans ((effectBind_of_ok answering).trans
        (effectBind_of_ok noted))
    exact ⟨declined, offered, asking.trans
      ((World.Undisturbed.count answered _).trans (.push counted _))⟩

end Encounter

/-! ## How far they are -/

/-- The opening has bound the handle, and the lifecycle of its entry is that, as
far as the opener goes. -/
inductive Outbound.Progress (peer : Peer) (target : TargetId) : Outbound → Lifecycle → Prop
  | bound : Progress peer target (.bound peer) {}
  | pinned : Progress peer target (.pinned peer) { pin := some target }
  | ended : Progress peer target (.ended (.ok (.ok peer))) { pin := some target }

/-- The pin has been adopted, and all that is left to the opener is to announce
it. -/
inductive Outbound.Announcing (peer : Peer) : Outbound → Prop
  | pinned : Announcing peer (.pinned peer)
  | ended : Announcing peer (.ended (.ok (.ok peer)))

/-- The handle is taken, and the opening ends in that error. -/
inductive Outbound.Yielding (error : BridgeError) : Outbound → Prop
  | given : Yielding error .given
  | refused : Yielding error (.refused error)
  | ended : Yielding error (.ended (.ok (.error error)))

/-- The open request has not been delivered yet, and the lifecycle of the entry is
that. -/
inductive Inbound.Approach (peer : Peer) (target : TargetId) : Inbound → Lifecycle → Prop
  | called : Approach peer target .called { pin := some target }
  | adopting : Approach peer target (.adopting peer target) {}
  | adopted : Approach peer target (.adopted peer) { pin := some target }
  | known : Approach peer target (.known peer) { pin := some target }
  | accepted : Approach peer target (.accepted peer target)
      { state := .opening, pin := some target }

/-- The open request has been delivered with that outcome. -/
inductive Inbound.Departure (peer : Peer) (outcome : Except Panic (Except BridgeError Unit)) :
    Inbound → Prop
  | leaving : Departure peer outcome (.leaving peer outcome)
  | dropping : Departure peer outcome (.dropping outcome)
  | ended : Departure peer outcome (.ended outcome)

section Invariants

variable (host : Host σ Mark) (encounter : Encounter) (base : World σ Mark) (registry : Registry)

/-- The opener gets the handle, and all that has been done so far is what it
did. -/
inductive Registering (world : World σ Mark) (stage : Outbound) : Prop
  | given (unbound : stage = .given) (same : base.Undisturbed world)
  | registered {life : Lifecycle}
      (progress : Outbound.Progress (encounter.peer base) encounter.target stage life)
      (same : (base.entered registry encounter.handle encounter.target life).Undisturbed world)

/-- The open request will end in that error. -/
inductive Losing (outbound : Outbound) : BridgeError → Inbound → Prop
  | asking {error : BridgeError} (offers : encounter.Offers host base.factory (.error error)) :
      Losing outbound error .unknown
  | late {other : TargetId} (offers : encounter.Offers host base.factory (.ok other))
      (begun : outbound ≠ .given) : Losing outbound (.duplicateHandle encounter.handle) .unknown
  | offered {other : TargetId} (begun : outbound ≠ .given) :
      Losing outbound (.duplicateHandle encounter.handle) (.offered other)
  | leaving {error : BridgeError} (begun : outbound ≠ .given) :
      Losing outbound error (.leaving (encounter.peer base) (.ok (.error error)))
  | dropping {error : BridgeError} : Losing outbound error (.dropping (.ok (.error error)))
  | ended {error : BridgeError} : Losing outbound error (.ended (.ok (.error error)))

/-- The open request of a registration with that target is on its way to the
target, or has reached it. -/
inductive Underway (target : TargetId) (world : World σ Mark) (stage : Inbound)
    (delivery : Option (World σ Mark × Peer × TargetId)) : Prop
  | ahead {life : Lifecycle} (approach : stage.Approach (encounter.peer base) target life)
      (same : (base.entered registry encounter.handle target life).Undisturbed world)
      (undelivered : delivery = none)
  | done {outcome : Except Panic (Except BridgeError Unit)}
      (departure : stage.Departure (encounter.peer base) outcome) (sound : world.Sound)
      (stays : host.StandsBy → world.Occupied (encounter.peer base))
      (heard : encounter.Heard host (encounter.peer base) target delivery outcome)

end Invariants

variable {host : Host σ Mark} {encounter : Encounter} {registry : Registry}

namespace Outbound

theorem turn_given [Custodian σ] (host : Host σ Mark)
    (inserted : base.own.registry.insert? encounter.handle ⟨base.entries.size⟩ = some registry)
    (same : base.Undisturbed world) :
    ∃ after, Outbound.given.turn host encounter world = (.bound (encounter.peer base), after) ∧
      (base.entered registry encounter.handle encounter.target {}).Undisturbed after := by
  obtain ⟨after, entered, binding⟩ := enter_of_free inserted same encounter.target
  refine ⟨after, ?_, binding⟩
  rw [turn, entered]
  rfl

theorem turn_bound [Custodian σ] (host : Host σ Mark)
    (same : (base.entered registry encounter.handle encounter.target {}).Undisturbed world) :
    ∃ after, (Outbound.bound (encounter.peer base)).turn host encounter world =
        (.pinned (encounter.peer base), after) ∧
      (base.entered registry encounter.handle encounter.target
        { pin := some encounter.target }).Undisturbed after := by
  obtain ⟨after, adopted, pinning⟩ := adoptPin_of_entered same encounter.target
  refine ⟨after, ?_, pinning⟩
  rw [turn, adopted]
  rfl

theorem turn_pinned [Custodian σ] (host : Host σ Mark) (encounter : Encounter) (peer : Peer)
    (world : World σ Mark) :
    ∃ after, (Outbound.pinned peer).turn host encounter world =
        (.ended (.ok (.ok peer)), after) ∧ world.Undisturbed after := by
  obtain ⟨after, announced, kept⟩ := World.Undisturbed.announce encounter.handle world
  refine ⟨after, ?_, kept⟩
  rw [turn, announced]
  rfl

/-- A handle that stands for a registration already is refused to the opener. -/
theorem turn_given_of_occupied [Custodian σ] (host : Host σ Mark)
    (occupied : world.Occupied (encounter.peer base)) (tidy : world.Tidy) :
    ∃ after, Outbound.given.turn host encounter world =
        (.refused (.duplicateHandle encounter.handle), after) ∧ world.Undisturbed after := by
  obtain ⟨after, refused, kept⟩ := enter_of_occupied occupied tidy encounter.target
  refine ⟨after, ?_, kept⟩
  rw [turn, refused]
  rfl

theorem turn_refused [Custodian σ] (stands : host.StandsBy) (encounter : Encounter)
    (error : BridgeError) (world : World σ Mark) :
    ∃ after, (Outbound.refused error).turn host encounter world =
        (.ended (.ok (.error error)), after) ∧ world.Undisturbed after := by
  let closing : EngineCall := .closed (unregisteredRecord error)
  let noted := world.push (.noted (.outboundUnregistered encounter.handle error))
  obtain ⟨after, closed, kept⟩ := stands.engine encounter.handle closing
    (noted.push (.engineCalled none encounter.handle closing))
  have gaveUp : giveUp host encounter.handle error world = (.ok (), after) :=
    (bind_of_ok rfl).trans ((bind_of_ok rfl).trans closed)
  refine ⟨after, ?_, (World.Undisturbed.push world _).trans ((World.Undisturbed.push noted _).trans
    kept)⟩
  rw [turn, gaveUp]
  rfl

section Aside

variable {stage : Outbound} {peer : Peer}

theorem Announcing.turn [Custodian σ] (announcing : stage.Announcing peer) (host : Host σ Mark)
    (encounter : Encounter) (world : World σ Mark) :
    ∃ next after, stage.turn host encounter world = (next, after) ∧ world.Undisturbed after ∧
      next.Announcing peer := by
  cases announcing with
  | pinned =>
    obtain ⟨after, taken, same⟩ := turn_pinned host encounter peer world
    exact ⟨_, after, taken, same, .ended⟩
  | ended => exact ⟨_, world, rfl, .refl world, .ended⟩

theorem Announcing.ended_of_left (announcing : stage.Announcing peer) (left : stage.left = 0) :
    stage = .ended (.ok (.ok peer)) := by
  cases announcing with
  | pinned => cases left
  | ended => rfl

theorem Yielding.turn [Custodian σ] (yielding : stage.Yielding (.duplicateHandle encounter.handle))
    (stands : host.StandsBy) (occupied : world.Occupied (encounter.peer base))
    (tidy : world.Tidy) :
    ∃ next after, stage.turn host encounter world = (next, after) ∧ world.Undisturbed after ∧
      next.Yielding (.duplicateHandle encounter.handle) := by
  cases yielding with
  | given =>
    obtain ⟨after, taken, same⟩ := turn_given_of_occupied host occupied tidy
    exact ⟨_, after, taken, same, .refused⟩
  | refused =>
    obtain ⟨after, taken, same⟩ := turn_refused stands encounter
      (.duplicateHandle encounter.handle) world
    exact ⟨_, after, taken, same, .ended⟩
  | ended => exact ⟨_, world, rfl, .refl world, .ended⟩

theorem Yielding.ended_of_left {error : BridgeError} (yielding : stage.Yielding error)
    (left : stage.left = 0) : stage = .ended (.ok (.error error)) := by
  cases yielding with
  | given => cases left
  | refused => cases left
  | ended => rfl

end Aside

end Outbound

namespace Registering

variable {stage : Outbound}

theorem undisturbed (registering : Registering encounter base registry world stage)
    (same : world.Undisturbed after) : Registering encounter base registry after stage := by
  cases registering with
  | given unbound before => exact .given unbound (before.trans same)
  | registered progress before => exact .registered progress (before.trans same)

theorem factory (registering : Registering encounter base registry world stage) :
    world.factory = base.factory := by
  cases registering with
  | given _ same => exact same.factory
  | registered _ same => exact same.factory

theorem ended_of_left (registering : Registering encounter base registry world stage)
    (left : stage.left = 0) : stage = .ended (.ok (.ok (encounter.peer base))) := by
  cases registering with
  | given unbound =>
    rw [unbound] at left
    cases left
  | registered progress =>
    cases progress with
    | bound => cases left
    | pinned => cases left
    | ended => rfl

section Bound

variable (registering : Registering encounter base registry world stage)
  (inserted : base.own.registry.insert? encounter.handle ⟨base.entries.size⟩ = some registry)
include registering inserted

theorem occupied (begun : stage ≠ .given) : world.Occupied (encounter.peer base) := by
  cases registering with
  | given unbound => exact absurd unbound begun
  | registered _ same => exact World.occupied_of_entered inserted same

theorem tidy (sound : base.Sound) : world.Tidy := by
  cases registering with
  | given _ same => exact sound.tidy.undisturbed same
  | registered _ same => exact World.tidy_of_entered sound inserted same

theorem turn [Custodian σ] :
    ∃ next after, stage.turn host encounter world = (next, after) ∧
      Registering encounter base registry after next ∧ next ≠ .given := by
  cases registering with
  | given unbound same =>
    obtain ⟨after, taken, binding⟩ := Outbound.turn_given host inserted same
    exact ⟨_, after, unbound ▸ taken, .registered .bound binding, Outbound.noConfusion⟩
  | registered progress same =>
    cases progress with
    | bound =>
      obtain ⟨after, taken, pinning⟩ := Outbound.turn_bound host same
      exact ⟨_, after, taken, .registered .pinned pinning, Outbound.noConfusion⟩
    | pinned =>
      obtain ⟨after, taken, kept⟩ := Outbound.turn_pinned host encounter (encounter.peer base) world
      exact ⟨_, after, taken, .registered .ended (same.trans kept), Outbound.noConfusion⟩
    | ended => exact ⟨_, world, rfl, .registered .ended same, Outbound.noConfusion⟩

end Bound

end Registering

variable [Custodian σ]

namespace Inbound

theorem turn_called_of_occupied (host : Host σ Mark)
    (occupied : world.Occupied (encounter.peer base)) :
    Inbound.called.turn host encounter world =
      (.known (encounter.peer base), world.engage (encounter.peer base).entry) := by
  have known : world.peer? encounter.handle = some (encounter.peer base) := occupied.peer?
  simp only [turn, known]

theorem turn_called_of_unknown (host : Host σ Mark)
    (unknown : world.peer? encounter.handle = none) :
    Inbound.called.turn host encounter world = (.unknown, world) := by
  simp only [turn, unknown]

theorem turn_known_of_unpinned (host : Host σ Mark) {target : TargetId}
    (same : (base.entered registry encounter.handle target {}).Undisturbed world) :
    ∃ after, (Inbound.known (encounter.peer base)).turn host encounter world =
        (.leaving (encounter.peer base) (.ok (.error
          (.invariantViolation (some encounter.handle) .targetNotPinned))), after) ∧
      world.Undisturbed after := by
  obtain ⟨after, refused, kept⟩ := beginOpen_of_unpinned same
  refine ⟨after, ?_, kept⟩
  rw [turn, refused]
  rfl

theorem turn_unknown {target : TargetId} {factory : Option FactoryId}
    (offers : encounter.Offers host factory (.ok target)) (installed : world.factory = factory) :
    ∃ after, Inbound.unknown.turn host encounter world = (.offered target, after) ∧
      world.Undisturbed after := by
  obtain ⟨after, offered, same⟩ := offers world installed
  refine ⟨after, ?_, same⟩
  rw [turn, offered]
  rfl

end Inbound

namespace Losing

variable {outbound : Outbound} {error : BridgeError} {stage : Inbound}

omit [Custodian σ] in
theorem delivers? (losing : Losing host encounter base outbound error stage) :
    stage.delivers? = none := by
  cases losing <;> rfl

omit [Custodian σ] in
theorem begun (losing : Losing host encounter base outbound error stage) {next : Outbound}
    (begun : next ≠ .given) : Losing host encounter base next error stage := by
  cases losing with
  | asking offers => exact .asking offers
  | late offers => exact .late offers begun
  | offered => exact .offered begun
  | leaving => exact .leaving begun
  | dropping => exact .dropping
  | ended => exact .ended

omit [Custodian σ] in
theorem ended_of_left (losing : Losing host encounter base outbound error stage)
    (left : stage.left = 0) :
    stage = .ended (.ok (.error error)) := by
  cases losing with
  | ended => rfl
  | _ => cases left

theorem turn (losing : Losing host encounter base outbound error stage)
    (registering : Registering encounter base registry world outbound) (sound : base.Sound)
    (inserted : base.own.registry.insert? encounter.handle ⟨base.entries.size⟩ = some registry) :
    ∃ next after, stage.turn host encounter world = (next, after) ∧ world.Undisturbed after ∧
      Losing host encounter base outbound error next := by
  cases losing with
  | asking offers =>
    obtain ⟨after, offered, same⟩ := offers world registering.factory
    refine ⟨_, after, ?_, same, .dropping⟩
    rw [Inbound.turn, offered]
    rfl
  | late offers begun =>
    obtain ⟨after, taken, same⟩ := Inbound.turn_unknown offers registering.factory
    exact ⟨_, after, taken, same, .offered begun⟩
  | offered begun =>
    obtain ⟨after, entered, same⟩ := enter_of_occupied (registering.occupied inserted begun)
      (registering.tidy inserted sound) _
    refine ⟨_, after, ?_, same, .dropping⟩
    rw [Inbound.turn, entered]
    rfl
  | leaving begun =>
    obtain ⟨after, left, same⟩ := leave_of_occupied (registering.occupied inserted begun)
    refine ⟨_, after, ?_, same, .dropping⟩
    rw [Inbound.turn, ensuring_ending left]
    rfl
  | dropping =>
    obtain ⟨after, dropped, same⟩ := World.Undisturbed.dropBuffer encounter.spent world
    refine ⟨_, after, ?_, same, .ended⟩
    rw [Inbound.turn, ensuring_ending dropped]
    rfl
  | ended => exact ⟨_, world, rfl, .refl world, .ended⟩

end Losing

namespace Underway

variable {target : TargetId} {stage : Inbound}
  {delivery : Option (World σ Mark × Peer × TargetId)}

omit [Custodian σ] in
theorem undisturbed (underway : Underway host encounter base registry target world stage delivery)
    (same : world.Undisturbed after) :
    Underway host encounter base registry target after stage delivery := by
  cases underway with
  | ahead approach before undelivered => exact .ahead approach (before.trans same) undelivered
  | done departure sound stays heard =>
    exact .done departure (same.sound sound) (fun stands => (stays stands).undisturbed same) heard

omit [Custodian σ] in
theorem ended_of_left (underway : Underway host encounter base registry target world stage delivery)
    (left : stage.left = 0) :
    ∃ outcome, stage = .ended outcome ∧
      encounter.Heard host (encounter.peer base) target delivery outcome := by
  cases underway with
  | ahead approach => cases approach <;> cases left
  | done departure _ _ heard =>
    cases departure with
    | leaving => cases left
    | dropping => cases left
    | ended => exact ⟨_, rfl, heard⟩

section Bound

variable (underway : Underway host encounter base registry target world stage delivery)
  (inserted : base.own.registry.insert? encounter.handle ⟨base.entries.size⟩ = some registry)
include underway inserted

omit [Custodian σ] in
theorem occupied (stands : host.StandsBy) : world.Occupied (encounter.peer base) := by
  cases underway with
  | ahead _ same => exact World.occupied_of_entered inserted same
  | done _ _ stays => exact stays stands

omit [Custodian σ] in
theorem tidy (sound : base.Sound) : world.Tidy := by
  cases underway with
  | ahead _ same => exact World.tidy_of_entered sound inserted same
  | done _ lasting => exact lasting.tidy

theorem turn (hostEvolves : host.Evolves) (sound : base.Sound) (works : base.runtime.Works) :
    ∃ next after, stage.turn host encounter world = (next, after) ∧
      Underway host encounter base registry target after next
        ((stage.delivers?.map (world, ·)).or delivery) := by
  cases underway with
  | ahead approach same undelivered =>
    cases approach with
    | called =>
      have occupied := World.occupied_of_entered inserted same
      exact ⟨_, _, Inbound.turn_called_of_occupied host occupied,
        .ahead .known (same.trans (.engage world _)) undelivered⟩
    | adopting =>
      obtain ⟨after, adopted, pinning⟩ := adoptPin_of_entered same target
      refine ⟨_, after, ?_, .ahead .adopted pinning undelivered⟩
      rw [Inbound.turn, adopted]
      rfl
    | adopted =>
      obtain ⟨after, announced, kept⟩ := World.Undisturbed.announce encounter.handle world
      refine ⟨_, after.engage (encounter.peer base).entry, ?_,
        .ahead .known ((same.trans kept).trans (.engage after _)) undelivered⟩
      rw [Inbound.turn, effect_of_ok announced]
      rfl
    | known =>
      obtain ⟨after, accepted, opening⟩ := beginOpen_of_pinned same
      refine ⟨_, after, ?_, .ahead .accepted opening undelivered⟩
      rw [Inbound.turn, accepted]
      rfl
    | accepted =>
      obtain ⟨begun, after, begins, delivered, lasting, stays⟩ := deliverOpen_begins hostEvolves
        sound inserted same (same.works works) encounter.address encounter.bytes
      refine ⟨_, after, ?_, .done .leaving lasting ?_ ⟨world, begun, rfl, begins, rfl⟩⟩
      · rw [Inbound.turn, delivered]
        rfl
      · intro stands
        obtain ⟨told, returned, stood⟩ := stands.callback (encounter.peer base) target
          (.openRequest encounter.address encounter.bytes) begun
        exact stays told returned stood
  | done departure lasting stays heard =>
    cases departure with
    | leaving =>
      let left : World σ Mark :=
        { world with engaged := world.engaged.erase (encounter.peer base).entry }
      have leaving : world.Undisturbed left := ⟨rfl, rfl, rfl, rfl⟩
      have leave : leave (encounter.peer base).entry world = (.ok (), left) :=
        (bind_of_ok rfl).trans (Custody.letGo_of_sound (leaving.sound lasting) _)
      refine ⟨_, left, ?_, .done .dropping (leaving.sound lasting)
        (fun stands => (stays stands).undisturbed leaving) heard⟩
      rw [Inbound.turn, ensuring_ending leave]
      rfl
    | dropping =>
      obtain ⟨after, dropped, same⟩ := World.Undisturbed.dropBuffer encounter.spent world
      refine ⟨_, after, ?_, .done .ended (same.sound lasting)
        (fun stands => (stays stands).undisturbed same) heard⟩
      rw [Inbound.turn, ensuring_ending dropped]
      rfl
    | ended => exact ⟨_, world, rfl, .done .ended lasting stays heard⟩

end Bound

end Underway

end TransportBridge
