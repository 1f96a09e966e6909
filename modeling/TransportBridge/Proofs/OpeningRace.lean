import TransportBridge.Proofs.OpeningStages

/-!
Contract: what comes of an open request that is made while its connection is
still being opened.

The engine may report an open request from the moment that it has given the
handle. Two turns of the opener matter then: the one that binds the handle, and
the next one, which has the lifecycle adopt the pin. A request that looks the
handle up after the first and begins to open after the second is delivered. One
that begins to open between the two is refused, as no target is pinned; one that
looks the handle up before the first finds nobody, and is dropped, or offered to
the factory, whose registration and the opener's then exclude each other.

Owns: where a schedule places the open request, and the outcome of either call
for every place.
Does not own: parties that use the bridge during the factory's way.
-/

namespace TransportBridge

open References Registration Delivery

variable {σ : Type} {base world after : World σ Mark} {host : Host σ Mark}
  {encounter : Encounter} {registry : Registry}

/-! ## Where a schedule places the open request -/

/-- How many turns the opener has had when the native side, after so many turns of
its own, has the next one. -/
def opensBefore : Nat → List Side → Nat
  | _, [] => 0
  | turns, .opener :: rest => opensBefore turns rest + 1
  | 0, .native :: _ => 0
  | turns + 1, .native :: rest => opensBefore turns rest

theorem exists_native_turns {turns : Nat} {schedule : List Side}
    (enough : turns < schedule.count .native) (unopened : opensBefore turns schedule = 0) :
    ∃ rest, schedule = List.replicate (turns + 1) .native ++ rest := by
  induction schedule generalizing turns with
  | nil => exact absurd enough (Nat.not_lt_zero turns)
  | cons side rest inductionHypothesis =>
    cases side with
    | opener => exact absurd unopened (Nat.succ_ne_zero _)
    | native =>
      rw [List.count_cons_self] at enough
      cases turns with
      | zero => exact ⟨rest, rfl⟩
      | succ turns =>
        obtain ⟨later, rfl⟩ := inductionHypothesis (Nat.lt_of_succ_lt_succ enough) unopened
        exact ⟨later, rfl⟩

theorem exists_opener_turn {turns : Nat} {schedule : List Side}
    (opened : opensBefore turns schedule ≠ 0) :
    ∃ before ≤ turns, ∃ rest,
      schedule = List.replicate before .native ++ .opener :: rest := by
  induction schedule generalizing turns with
  | nil => exact absurd rfl opened
  | cons side rest inductionHypothesis =>
    cases side with
    | opener => exact ⟨0, Nat.zero_le turns, rest, rfl⟩
    | native =>
      cases turns with
      | zero => exact absurd rfl opened
      | succ turns =>
        obtain ⟨before, bound, later, rfl⟩ := inductionHypothesis opened
        exact ⟨before + 1, Nat.succ_le_succ bound, later, rfl⟩

variable [Custodian σ]

/-! ## The race -/

namespace Race

section Outcomes

variable (race : Race σ)

def Opened (peer : Peer) : Prop :=
  race.outbound = .ended (.ok (.ok peer))

def Rejected (error : BridgeError) : Prop :=
  race.outbound = .ended (.ok (.error error))

/-- The open request was refused, and nobody has heard of it. -/
def Refused (error : BridgeError) : Prop :=
  race.inbound = .ended (.ok (.error error)) ∧ race.delivery = none

variable (host : Host σ Mark) (encounter : Encounter)

/-- The open request was delivered, and ended as the callback did. -/
def Delivered (peer : Peer) (target : TargetId) : Prop :=
  ∃ outcome, race.inbound = .ended outcome ∧ encounter.Heard host peer target race.delivery outcome

/-- What comes of the race, by where its schedule places the turns of the open
request: the first looks the handle up, the second begins to open or asks the
factory, and the third registers what the factory has. -/
structure Placed (base : World σ Mark) (schedule : List Side) : Prop where
  /-- Looked up once the handle is bound, and begun once the pin is adopted. -/
  pinned : opensBefore 0 schedule ≠ 0 → 2 ≤ opensBefore 1 schedule →
    race.Opened (encounter.peer base) ∧
      race.Delivered host encounter (encounter.peer base) encounter.target
  unpinned : opensBefore 0 schedule ≠ 0 → opensBefore 1 schedule < 2 →
    race.Opened (encounter.peer base) ∧
      race.Refused (.invariantViolation (some encounter.handle) .targetNotPinned)
  unknown : opensBefore 0 schedule = 0 → base.factory = none →
    race.Opened (encounter.peer base) ∧ race.Refused (.unknownHandle encounter.handle)
  declined {factory : FactoryId} {error : ErrorRecord} : opensBefore 0 schedule = 0 →
    base.factory = some factory → host.Answers factory (.error error) →
    race.Opened (encounter.peer base) ∧ race.Refused (.nativeEngine error)
  /-- The opener binds the handle before the factory's target can be registered. -/
  supplied {factory : FactoryId} {other : TargetId} : opensBefore 0 schedule = 0 →
    opensBefore 2 schedule ≠ 0 → base.factory = some factory → host.Answers factory (.ok other) →
    race.Opened (encounter.peer base) ∧ race.Refused (.duplicateHandle encounter.handle)
  /-- The factory's target is told, and the opener refused. -/
  preempted {factory : FactoryId} {other : TargetId} : opensBefore 2 schedule = 0 →
    base.factory = some factory → host.Answers factory (.ok other) → host.StandsBy →
    race.Rejected (.duplicateHandle encounter.handle) ∧
      race.Delivered host encounter (encounter.peer base) other

end Outcomes

section Ways

variable (host : Host σ Mark) (encounter : Encounter) (base : World σ Mark) (registry : Registry)

/-- The opener registers, and the open request will not be delivered. -/
structure Lost (error : BridgeError) (race : Race σ) : Prop where
  registering : Registering encounter base registry race.world race.outbound
  losing : Losing host encounter base race.outbound error race.inbound
  undelivered : race.delivery = none

/-- The open request is on its way to a target, and the opener, at one of the
given stages, does not get in its way. -/
structure Served (aside : Outbound → Prop) (target : TargetId) (race : Race σ) : Prop where
  aside : aside race.outbound
  underway : Underway host encounter base registry target race.world race.inbound race.delivery

end Ways

variable {race : Race σ}

theorem turn_opener {next : Outbound}
    (taken : race.outbound.turn host encounter race.world = (next, after)) :
    race.turn host encounter .opener = { race with world := after, outbound := next } := by
  simp only [turn, taken]

theorem turn_native {next : Inbound}
    (taken : race.inbound.turn host encounter race.world = (next, after)) :
    race.turn host encounter .native = { race with
      world := after
      inbound := next
      delivery := (race.inbound.delivers?.map (race.world, ·)).or race.delivery } := by
  simp only [turn, taken]

section Turns

variable (inserted :
  base.own.registry.insert? encounter.handle ⟨base.entries.size⟩ = some registry)
include inserted

theorem Lost.turn {error : BridgeError} (lost : Lost host encounter base registry error race)
    (sound : base.Sound) (side : Side) :
    Lost host encounter base registry error (race.turn host encounter side) := by
  cases side with
  | opener =>
    obtain ⟨next, after, taken, registering, begun⟩ := lost.registering.turn inserted
    rw [turn_opener taken]
    exact ⟨registering, lost.losing.begun begun, lost.undelivered⟩
  | native =>
    obtain ⟨next, after, taken, same, losing⟩ := lost.losing.turn lost.registering sound inserted
    rw [turn_native taken]
    refine ⟨lost.registering.undisturbed same, losing, ?_⟩
    show (race.inbound.delivers?.map (race.world, ·)).or race.delivery = none
    rw [lost.losing.delivers?, lost.undelivered]
    rfl

theorem Served.turn {aside : Outbound → Prop} {target : TargetId}
    (served : Served host encounter base registry aside target race) (sound : base.Sound)
    (works : base.runtime.Works) (hostEvolves : host.Evolves)
    (steps : ∀ {stage world inbound delivery}, aside stage →
      Underway host encounter base registry target world inbound delivery →
        ∃ next after, stage.turn host encounter world = (next, after) ∧
          world.Undisturbed after ∧ aside next) (side : Side) :
    Served host encounter base registry aside target (race.turn host encounter side) := by
  cases side with
  | opener =>
    obtain ⟨next, after, taken, same, goesOn⟩ := steps served.aside served.underway
    rw [turn_opener taken]
    exact ⟨goesOn, served.underway.undisturbed same⟩
  | native =>
    obtain ⟨next, after, taken, underway⟩ :=
      served.underway.turn inserted hostEvolves sound works
    rw [turn_native taken]
    exact ⟨served.aside, underway⟩

end Turns

omit [Custodian σ] in
theorem Lost.outcome {error : BridgeError} (lost : Lost host encounter base registry error race)
    (ended : race.Ended) : race.Opened (encounter.peer base) ∧ race.Refused error :=
  ⟨lost.registering.ended_of_left ended.1, lost.losing.ended_of_left ended.2, lost.undelivered⟩

section Ways

variable (inserted :
    base.own.registry.insert? encounter.handle ⟨base.entries.size⟩ = some registry)
  (sound : base.Sound)
include inserted sound

theorem Lost.run {error : BridgeError} (lost : Lost host encounter base registry error race)
    (schedule : List Side) :
    Lost host encounter base registry error (race.run host encounter schedule) :=
  -- By induction on the schedule: the turns of either side keep what is so.
  List.foldlRecOn schedule _ lost fun _ lost side _ => lost.turn inserted sound side

theorem Served.announced {target : TargetId}
    (served : Served host encounter base registry (Outbound.Announcing (encounter.peer base))
      target race) (works : base.runtime.Works) (hostEvolves : host.Evolves)
    (schedule : List Side) :
    Served host encounter base registry (Outbound.Announcing (encounter.peer base)) target
      (race.run host encounter schedule) :=
  List.foldlRecOn schedule _ served fun _ served side _ =>
    served.turn inserted sound works hostEvolves
      (fun announcing _ => announcing.turn host encounter _) side

theorem Served.yielded {target : TargetId}
    (served : Served host encounter base registry
      (Outbound.Yielding (.duplicateHandle encounter.handle)) target race)
    (works : base.runtime.Works) (hostEvolves : host.Evolves) (stands : host.StandsBy)
    (schedule : List Side) :
    Served host encounter base registry
      (Outbound.Yielding (.duplicateHandle encounter.handle)) target
      (race.run host encounter schedule) :=
  List.foldlRecOn schedule _ served fun _ served side _ =>
    served.turn inserted sound works hostEvolves
      (fun yielding underway => yielding.turn stands (underway.occupied inserted stands)
        (underway.tidy inserted sound)) side

end Ways

/-! ## Every place -/

section Starts

theorem turn_binds (host : Host σ Mark)
    (inserted : base.own.registry.insert? encounter.handle ⟨base.entries.size⟩ = some registry)
    (same : base.Undisturbed world) (inbound : Inbound) :
    ∃ bound, turn host encounter { world, inbound } .opener =
        { world := bound, outbound := .bound (encounter.peer base), inbound } ∧
      (base.entered registry encounter.handle encounter.target {}).Undisturbed bound := by
  obtain ⟨bound, taken, binding⟩ := Outbound.turn_given host inserted same
  exact ⟨bound, turn_opener taken, binding⟩

/-- The handle has been bound, and is found. -/
theorem turn_finds (host : Host σ Mark)
    (inserted : base.own.registry.insert? encounter.handle ⟨base.entries.size⟩ = some registry)
    (binding : (base.entered registry encounter.handle encounter.target {}).Undisturbed world) :
    turn host encounter { world, outbound := .bound (encounter.peer base) } .native =
      { world := world.engage (encounter.peer base).entry
        outbound := .bound (encounter.peer base)
        inbound := .known (encounter.peer base) } := by
  have occupied := World.occupied_of_entered inserted binding
  exact turn_native (Inbound.turn_called_of_occupied host occupied)

theorem turn_misses (host : Host σ Mark) (unknown : base.peer? encounter.handle = none) :
    turn host encounter { world := base } .native = { world := base, inbound := .unknown } :=
  turn_native (Inbound.turn_called_of_unknown host unknown)

theorem turn_asks (host : Host σ Mark) {other : TargetId}
    (offers : encounter.Offers host base.factory (.ok other)) :
    ∃ world, turn host encounter { world := base, inbound := .unknown } .native =
        { world, inbound := .offered other } ∧ base.Undisturbed world := by
  obtain ⟨world, taken, same⟩ := Inbound.turn_unknown offers rfl
  exact ⟨world, turn_native taken, same⟩

/-- The open request has found the registration at most, when the pin is
adopted. -/
theorem served_of_bound (host : Host σ Mark)
    (outbound : race.outbound = .bound (encounter.peer base))
    (inbound : race.inbound = .called ∨ race.inbound = .known (encounter.peer base))
    (undelivered : race.delivery = none)
    (binding : (base.entered registry encounter.handle encounter.target {}).Undisturbed
      race.world) :
    Served host encounter base registry (Outbound.Announcing (encounter.peer base))
      encounter.target (race.turn host encounter .opener) := by
  obtain ⟨after, taken, pinning⟩ := Outbound.turn_bound host binding
  rw [← outbound] at taken
  rw [turn_opener taken]
  refine ⟨.pinned, .ahead ?_ pinning undelivered⟩
  show race.inbound.Approach (encounter.peer base) encounter.target _
  rcases inbound with called | known
  · rw [called]
    exact .called
  · rw [known]
    exact .known

/-- The open request begins to open, and nothing is pinned yet. -/
theorem lost_of_unpinned (host : Host σ Mark)
    (binding : (base.entered registry encounter.handle encounter.target {}).Undisturbed world) :
    Lost host encounter base registry
      (.invariantViolation (some encounter.handle) .targetNotPinned)
      (turn host encounter
        { world
          outbound := .bound (encounter.peer base)
          inbound := .known (encounter.peer base) } .native) := by
  obtain ⟨after, taken, same⟩ := Inbound.turn_known_of_unpinned host binding
  rw [turn_native taken]
  exact ⟨.registered .bound (binding.trans same), .leaving Outbound.noConfusion, rfl⟩

end Starts

section Places

variable {schedule : List Side}
  (inserted : base.own.registry.insert? encounter.handle ⟨base.entries.size⟩ = some registry)
  (sound : base.Sound)

include inserted sound

theorem served_of_placed (works : base.runtime.Works) (hostEvolves : host.Evolves)
    (bound : opensBefore 0 schedule ≠ 0) (pinned : 2 ≤ opensBefore 1 schedule) :
    Served host encounter base registry (Outbound.Announcing (encounter.peer base))
      encounter.target (run host encounter { world := base } schedule) := by
  obtain ⟨_, first, rest, rfl⟩ := exists_opener_turn bound
  cases Nat.le_zero.mp first
  obtain ⟨world, binds, binding⟩ := turn_binds host inserted (.refl base) .called
  have later : opensBefore 1 rest ≠ 0 := by
    have counted : 2 ≤ opensBefore 1 rest + 1 := pinned
    omega
  obtain ⟨before, early, last, rfl⟩ := exists_opener_turn later
  -- The pin is adopted before the handle is looked up, or right after.
  show Served host encounter base registry _ _ (run host encounter
    (turn host encounter { world := base } .opener)
    (List.replicate before .native ++ .opener :: last))
  rw [binds]
  rcases Nat.le_one_iff_eq_zero_or_eq_one.mp early with rfl | rfl
  · exact (served_of_bound host rfl (.inl rfl) rfl binding).announced inserted sound works
      hostEvolves last
  · show Served host encounter base registry _ _ (run host encounter
      (turn host encounter { world, outbound := .bound (encounter.peer base) } .native)
      (.opener :: last))
    rw [turn_finds host inserted binding]
    exact (served_of_bound host rfl (.inr rfl) rfl
      (binding.trans (.engage world _))).announced inserted sound works hostEvolves last

theorem lost_of_placed_unpinned (reports : 2 ≤ schedule.count .native)
    (bound : opensBefore 0 schedule ≠ 0) (unpinned : opensBefore 1 schedule < 2) :
    Lost host encounter base registry (.invariantViolation (some encounter.handle) .targetNotPinned)
      (run host encounter { world := base } schedule) := by
  obtain ⟨_, first, rest, rfl⟩ := exists_opener_turn bound
  cases Nat.le_zero.mp first
  obtain ⟨world, binds, binding⟩ := turn_binds host inserted (.refl base) .called
  have unopened : opensBefore 1 rest = 0 := by
    have counted : opensBefore 1 rest + 1 < 2 := unpinned
    omega
  have enough : 1 < rest.count .native := by
    have counted := reports
    rwa [List.replicate_zero, List.nil_append, List.count_cons_of_ne (by decide)] at counted
  obtain ⟨last, rfl⟩ := exists_native_turns enough unopened
  show Lost host encounter base registry _ (run host encounter (turn host encounter
    (turn host encounter (turn host encounter { world := base } .opener) .native) .native) last)
  rw [binds, turn_finds host inserted binding]
  exact (lost_of_unpinned host (binding.trans (.engage world _))).run inserted sound last

section Unknown

variable (unknown : base.peer? encounter.handle = none)

include unknown

theorem lost_of_placed_unknown {error : BridgeError} (reports : 0 < schedule.count .native)
    (first : opensBefore 0 schedule = 0)
    (offers : encounter.Offers host base.factory (.error error)) :
    Lost host encounter base registry error
      (run host encounter { world := base } schedule) := by
  obtain ⟨rest, rfl⟩ := exists_native_turns reports first
  have lost : Lost host encounter base registry error { world := base, inbound := .unknown } :=
    ⟨.given rfl (.refl base), .asking offers, rfl⟩
  show Lost host encounter base registry error
    (run host encounter (turn host encounter { world := base } .native) rest)
  rw [turn_misses host unknown]
  exact lost.run inserted sound rest

theorem lost_of_placed_late {other : TargetId} (first : opensBefore 0 schedule = 0)
    (late : opensBefore 2 schedule ≠ 0)
    (offers : encounter.Offers host base.factory (.ok other)) :
    Lost host encounter base registry (.duplicateHandle encounter.handle)
      (run host encounter { world := base } schedule) := by
  obtain ⟨before, early, last, rfl⟩ := exists_opener_turn late
  -- The opener comes in before the factory is asked, or when it has answered.
  obtain rfl | rfl | rfl : before = 0 ∨ before = 1 ∨ before = 2 := by omega
  · exact absurd first (Nat.succ_ne_zero _)
  · obtain ⟨world, binds, binding⟩ := turn_binds host inserted (.refl base) .unknown
    show Lost host encounter base registry _ (run host encounter (turn host encounter
      (turn host encounter { world := base } .native) .opener) last)
    rw [turn_misses host unknown, binds]
    have lost : Lost host encounter base registry (.duplicateHandle encounter.handle)
        { world, outbound := .bound (encounter.peer base), inbound := .unknown } :=
      ⟨.registered .bound binding, .late offers Outbound.noConfusion, rfl⟩
    exact lost.run inserted sound last
  · obtain ⟨asked, asks, asking⟩ := turn_asks host offers
    obtain ⟨world, binds, binding⟩ := turn_binds host inserted asking (.offered other)
    show Lost host encounter base registry _ (run host encounter (turn host encounter
      (turn host encounter (turn host encounter { world := base } .native) .native) .opener) last)
    rw [turn_misses host unknown, asks, binds]
    have lost : Lost host encounter base registry (.duplicateHandle encounter.handle)
        { world, outbound := .bound (encounter.peer base), inbound := .offered other } :=
      ⟨.registered .bound binding, .offered Outbound.noConfusion, rfl⟩
    exact lost.run inserted sound last

theorem preempted_of_placed {other : TargetId}
    (works : base.runtime.Works) (hostEvolves : host.Evolves) (stands : host.StandsBy)
    (reports : 2 < schedule.count .native) (unopened : opensBefore 2 schedule = 0)
    (offers : encounter.Offers host base.factory (.ok other)) :
    Served host encounter base registry
      (Outbound.Yielding (.duplicateHandle encounter.handle)) other
      (run host encounter { world := base } schedule) := by
  obtain ⟨last, rfl⟩ := exists_native_turns reports unopened
  obtain ⟨asked, asks, asking⟩ := turn_asks host offers
  obtain ⟨world, entered, binding⟩ := enter_of_free inserted asking other
  have binds : turn host encounter { world := asked, inbound := .offered other } .native =
      { world, inbound := .adopting (encounter.peer base) other } := by
    refine turn_native ?_
    rw [Inbound.turn, entered]
    rfl
  have preempted : Served host encounter base registry
      (Outbound.Yielding (.duplicateHandle encounter.handle)) other
      { world, inbound := .adopting (encounter.peer base) other } :=
    ⟨.given, .ahead .adopting binding rfl⟩
  show Served host encounter base registry _ other (run host encounter (turn host encounter
    (turn host encounter (turn host encounter { world := base } .native) .native) .native) last)
  rw [turn_misses host unknown, asks, binds]
  exact preempted.yielded inserted sound works hostEvolves stands last

end Unknown

end Places

/-- The engine has given a handle that nobody knew, and the runtime works. Then what
comes of an open request and of the opening, in the turns that make them up, is
settled by how many turns the opener has had before each of the first three of the
request. -/
theorem outcome_by_placement (behaviour : Behaviour σ) (depth : Nat) (encounter : Encounter)
    (sound : world.Sound) (works : world.runtime.Works)
    (unknown : world.peer? encounter.handle = none) {schedule : List Side}
    (opens : 3 ≤ schedule.count .opener) (reports : 9 ≤ schedule.count .native) :
    let host := behaviour.host (BridgeCall.make behaviour depth)
    TurnsAreCalls host encounter ∧
      (run host encounter { world } schedule).Placed host encounter world schedule := by
  intro host
  refine ⟨turnsAreCalls host encounter, ?_⟩
  have hostEvolves : host.Evolves := behaviour.host_make_evolves depth
  obtain ⟨registry, inserted⟩ : ∃ registry,
      world.own.registry.insert? encounter.handle ⟨world.entries.size⟩ = some registry :=
    Registry.exists_insert? (Option.map_eq_none_iff.mp unknown) _
  have ended : (run host encounter { world } schedule).Ended := ended_of_turns world opens reports
  exact
    { pinned := fun bound pinned =>
        have served := served_of_placed inserted sound works hostEvolves bound pinned
        ⟨served.aside.ended_of_left ended.1, served.underway.ended_of_left ended.2⟩
      unpinned := fun bound unpinned =>
        (lost_of_placed_unpinned inserted sound (by omega) bound unpinned).outcome ended
      unknown := fun first bare =>
        (lost_of_placed_unknown inserted sound unknown (by omega) first
          (bare ▸ Encounter.offers_of_none)).outcome ended
      declined := fun first installed answers =>
        (lost_of_placed_unknown inserted sound unknown (by omega) first
          (installed ▸ Encounter.offers_of_answers answers)).outcome ended
      supplied := fun first late installed answers =>
        (lost_of_placed_late inserted sound unknown first late
          (installed ▸ Encounter.offers_of_answers answers)).outcome ended
      preempted := fun unopened installed answers stands =>
        have served := preempted_of_placed inserted sound unknown works hostEvolves stands
          (by omega) unopened (installed ▸ Encounter.offers_of_answers answers)
        ⟨served.aside.ended_of_left ended.1, served.underway.ended_of_left ended.2⟩ }

end Race

namespace Bystander

/-- The engine has given a handle, and its connection is being opened for the
target 1. -/
def dialled : Encounter where
  handle := newcomer
  target := ⟨1⟩
  address := ⟨"wss", "far", 443, "/"⟩
  options := .transferable [1]
  bytes := [1]
  spent := ⟨none, .transferable, none⟩
  taken := rfl

/-- Another connection is open, and the runtime works. -/
def equipped (factory : Option FactoryId) : World Bystander Mark :=
  opened.amid { Surroundings.working with factory }

def hosting : Host Bystander Mark :=
  supplied.host (BridgeCall.make supplied 0)

theorem hosting_standsBy : hosting.StandsBy where
  callback _ _ _ world := ⟨world, rfl, .refl world⟩
  engine _ _ world := ⟨world, rfl, .refl world⟩

/-- All turns of the one side, and then all of the other. -/
def turns : List Side :=
  List.replicate 3 .opener ++ List.replicate 9 .native

def racing (factory : Option FactoryId) (first : List Side) : Race Bystander :=
  Race.run hosting dialled { world := equipped factory } (first ++ turns)

end Bystander

namespace Race

open Bystander

/-- With the pin adopted, the open request reaches the target. In between it does
not, nor before all, if no factory is installed, or one that declines, or has a
target too late, or in time. -/
theorem outcome_by_placement_of_dialled :
    let peer := dialled.peer (equipped none)
    (racing none [.opener, .native, .opener]).Delivered hosting dialled peer ⟨1⟩ ∧
      (racing none [.opener, .native, .native]).Refused
        (.invariantViolation (some newcomer) .targetNotPinned) ∧
      (racing none [.native]).Refused (.unknownHandle newcomer) ∧
      (racing (some ⟨1⟩) [.native]).Refused (.nativeEngine ⟨.webSocket, 1013, "no target"⟩) ∧
      (racing (some ⟨0⟩) [.native, .native]).Refused (.duplicateHandle newcomer) ∧
      (racing (some ⟨0⟩) [.native, .native, .native]).Rejected (.duplicateHandle newcomer) ∧
      (racing (some ⟨0⟩) [.native, .native, .native]).Delivered hosting dialled peer ⟨5⟩ := by
  intro peer
  have sound (factory : Option FactoryId) : (equipped factory).Sound :=
    ((reachable_inTurn _ _ _).attained.rearranged _).sound
  have unknown : opened.peer? newcomer = none := by decide +kernel
  have enough (first : List Side) (side : Side) :
      turns.count side ≤ (first ++ turns).count side := by
    rw [List.count_append]
    exact Nat.le_add_left _ _
  have placed (factory : Option FactoryId) (first : List Side) :
      (racing factory first).Placed hosting dialled (equipped factory) _ :=
    (outcome_by_placement supplied 0 dialled (sound factory) trivial unknown
      (enough first .opener) (enough first .native)).2
  have supplies : hosting.Answers ⟨0⟩ (.ok ⟨5⟩) := fun _ _ _ world => ⟨world, rfl, .refl world⟩
  have declines : hosting.Answers ⟨1⟩ (.error ⟨.webSocket, 1013, "no target"⟩) :=
    fun _ _ _ world => ⟨world, rfl, .refl world⟩
  exact ⟨((placed _ [.opener, .native, .opener]).pinned (by decide) (by decide)).2,
    ((placed _ [.opener, .native, .native]).unpinned (by decide) (by decide)).2,
    ((placed _ [.native]).unknown (by decide) rfl).2,
    ((placed _ [.native]).declined (by decide) rfl declines).2,
    ((placed _ [.native, .native]).supplied (by decide) (by decide) rfl supplies).2,
    (placed _ [.native, .native, .native]).preempted (by decide) rfl supplies hosting_standsBy⟩

end Race

end TransportBridge
