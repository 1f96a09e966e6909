import TransportBridge.Proofs.Adoption

/-!
Contract: an outbound connection and the open request of its handle, in turns.

The engine has given a handle, and two threads go on from there. The one that
opens the connection binds the handle, has the lifecycle adopt the pin, and
announces the registration; if the handle is refused, it closes it. The other
one has an open request of the native side: it looks the handle up, asks the
factory if nobody knows it, begins to open, delivers, and lets go. A turn is
what one of them does without the other coming in between.

Owns: the turns of both sides, their race under a schedule, and that the turns
of one side alone make up the call that they are a part of.
Does not own: what comes of the turns in this order or that.
-/

namespace TransportBridge

/-- A connection that is being opened, and an open request for its handle, with
options that have not been taken over. -/
structure Encounter where
  handle : Handle
  target : TargetId
  address : Address
  options : NativeBuffer Hook
  bytes : Bytes
  spent : NativeBuffer Hook
  taken : options.transfer = .ok (bytes, spent)

/-- How far the opening of the connection is, once the engine has given the
handle. -/
inductive Outbound where
  | given
  | bound (peer : Peer)
  | pinned (peer : Peer)
  | refused (error : BridgeError)
  | ended (outcome : Except Panic (Except BridgeError Peer))

/-- How far the open request is. -/
inductive Inbound where
  | called
  | unknown
  | offered (target : TargetId)
  | adopting (peer : Peer) (target : TargetId)
  | adopted (peer : Peer)
  | known (peer : Peer)
  | accepted (peer : Peer) (target : TargetId)
  | leaving (peer : Peer) (outcome : Except Panic (Except BridgeError Unit))
  | dropping (outcome : Except Panic (Except BridgeError Unit))
  | ended (outcome : Except Panic (Except BridgeError Unit))

variable {σ α β : Type}

theorem throw_bind (error : BridgeError) (rest : α → Call σ Mark β) :
    (throw error >>= rest : Call σ Mark β) = throw error :=
  rfl

/-- What has ended, has ended. -/
def ending (outcome : Except Panic α) : BridgeM σ Mark α := fun world =>
  (outcome, world)

theorem ensuring_ending {outcome : Except Panic α} {cleanup : BridgeM σ Mark Unit}
    {world after : World σ Mark} (cleaned : cleanup world = (.ok (), after)) :
    ensuring (ending outcome) cleanup world = (outcome, after) :=
  ensuring_of_ok rfl cleaned

variable [Custodian σ]

/-! ## The parts of the calls -/

namespace Registration

open References

/-- The first half of a registration: the handle is bound, or refused. -/
def enter (handle : Handle) (target : TargetId) : Call σ Mark Peer := do
  match ← effect (bind? handle target) with
  | none =>
    effect (Custody.letGoOfTarget target)
    reject .own (.duplicateHandle handle)
  | some peer => return peer

def announce (handle : Handle) : BridgeM σ Mark Unit := do
  count .own Metrics.countRegistered
  note (.registered handle)

/-- The second half: the pin is adopted, and the registration announced. -/
def settle (handle : Handle) (target : TargetId) (peer : Peer) : Call σ Mark Peer := do
  checked .own peer (Lifecycle.adoptPin target)
  effect (announce handle)
  return peer

/-- A handle that nobody knows is offered to the factory. -/
def offer (host : Host σ Mark) (handle : Handle) (address : Address) (options : Bytes) :
    Call σ Mark TargetId := do
  match (← get).factory with
  | none => dropUnknown handle .openRequest
  | some factory =>
    effect (witness (.factoryAsked factory handle address options))
    match ← effect (host.createTarget factory handle address options) with
    | .ok target => return target
    | .error error =>
      effect do
        count .own Metrics.countDropped
        note (.inboundDeclined handle error)
      throw (.nativeEngine error)

/-- A native handle that could not be registered is closed. -/
def giveUp (host : Host σ Mark) (handle : Handle) (error : BridgeError) :
    BridgeM σ Mark Unit := do
  note (.outboundUnregistered handle error)
  forward host none handle (.closed (unregisteredRecord error))

/-- What is left of an opening: a registration, or the end of the handle. -/
def orGiveUp (host : Host σ Mark) (handle : Handle) (body : Call σ Mark Peer) :
    Call σ Mark Peer := do
  match ← effect body.run with
  | .ok peer => return peer
  | .error error =>
    effect (giveUp host handle error)
    throw error

theorem register_eq_enter (handle : Handle) (target : TargetId) :
    (register handle target : Call σ Mark Peer) =
      enter handle target >>= settle handle target := by
  unfold register enter
  rw [bind_assoc]
  refine congrArg _ (funext fun bound => ?_)
  cases bound with
  | none => simp only [bind_assoc, reject, throw_bind]
  | some peer =>
    simp only [pure_bind]
    rfl

theorem adoptFromFactory_eq_offer (host : Host σ Mark) (handle : Handle) (address : Address)
    (options : Bytes) :
    adoptFromFactory host handle address options =
      offer host handle address options >>= register handle := by
  unfold adoptFromFactory offer
  rw [bind_assoc]
  refine congrArg _ (funext fun seen => ?_)
  cases seen.factory with
  | none => simp only [bind_assoc, dropUnknown, throw_bind]
  | some factory =>
    simp only [bind_assoc]
    refine congrArg _ (funext fun _ => congrArg _ (funext fun answer => ?_))
    cases answer with
    | ok target => simp only [pure_bind]
    | error error => simp only [bind_assoc, throw_bind]

/-- After the engine has given a handle, an opening is what is left of it. -/
theorem openOutbound_of_given {host : Host σ Mark} {world asked : World σ Mark}
    {address : Address} {framing : Option Framing} {target : TargetId} {handle : Handle}
    (given : Custody.lendingTarget target
      (askEngine host address (framing.getD world.config.defaultFraming)) world =
        (.ok (.ok handle), asked)) :
    openOutbound host address framing target world =
      orGiveUp host handle (register handle target) (asked.push (.noted
        (.outboundCreated handle address (framing.getD world.config.defaultFraming)))) := by
  have began : openOutbound host address framing target world = _ :=
    (callBind_of_ok rfl).trans ((effectBind_of_ok given).trans (effectBind_of_ok rfl))
  rw [began]
  refine congrFun (congrArg _ (funext fun answer => ?_)) _
  cases answer <;> rfl

end Registration

namespace Delivery

/-- An open request that has been accepted. -/
def deliverOpen (host : Host σ Mark) (handle : Handle) (address : Address) (options : Bytes)
    (peer : Peer) (target : TargetId) : Call σ Mark Unit := do
  deliverOr host peer target (.openRequest address options) (undoing peer Lifecycle.abortOpen)
  if ← effect (change peer.entry Lifecycle.finishOpen) then
    effect (note (.opened handle))

/-- A registration is held no more. -/
def leave (entry : EntryId) : BridgeM σ Mark Unit := do
  modify fun world => { world with engaged := world.engaged.erase entry }
  Custody.letGo entry

theorem opening_eq_deliverOpen (host : Host σ Mark) (handle : Handle) (address : Address)
    (options : Bytes) (peer : Peer) :
    opening host handle address options peer =
      References.checked .own peer Lifecycle.beginOpen >>=
        deliverOpen host handle address options peer :=
  rfl

end Delivery

/-! ## Turns -/

open References Registration Delivery

/-- Goes on with the result of a part; what is rejected, is refused. -/
def Outbound.onward (phase : α → Outbound) : Except Panic (Except BridgeError α) → Outbound
  | .ok (.ok result) => phase result
  | .ok (.error error) => .refused error
  | .error panic => .ended (.error panic)

/-- Ends with the last part, whose own result does not matter. -/
def Outbound.concluded (result : Except BridgeError Peer) (outcome : Except Panic Unit) :
    Outbound :=
  .ended (outcome.map fun _ => result)

/-- Goes on with the result of a part; what ends without one, stops. -/
def Inbound.onward (phase : α → Inbound)
    (stops : Except Panic (Except BridgeError Unit) → Inbound) :
    Except Panic (Except BridgeError α) → Inbound
  | .ok (.ok result) => phase result
  | .ok (.error error) => stops (.ok (.error error))
  | .error panic => stops (.error panic)

section Turns

variable (host : Host σ Mark) (encounter : Encounter)

def Outbound.turn (world : World σ Mark) : Outbound → Outbound × World σ Mark
  | .given => (enter encounter.handle encounter.target world).map (onward .bound) id
  | .bound peer =>
    (checked .own peer (Lifecycle.adoptPin encounter.target) world).map
      (onward fun _ => .pinned peer) id
  | .pinned peer => (announce encounter.handle world).map (concluded (.ok peer)) id
  | .refused error =>
    (giveUp host encounter.handle error world).map (concluded (.error error)) id
  | .ended outcome => (.ended outcome, world)

def Inbound.turn (world : World σ Mark) : Inbound → Inbound × World σ Mark
  | .called =>
    match world.peer? encounter.handle with
    | some peer => (.known peer, world.engage peer.entry)
    | none => (.unknown, world)
  | .unknown =>
    (offer host encounter.handle encounter.address encounter.bytes world).map
      (onward .offered .dropping) id
  | .offered target =>
    (enter encounter.handle target world).map (onward (.adopting · target) .dropping) id
  | .adopting peer target =>
    (checked .own peer (Lifecycle.adoptPin target) world).map
      (onward (fun _ => .adopted peer) .dropping) id
  | .adopted peer =>
    (effect (announce encounter.handle) world).map (onward (fun _ => .known peer) .dropping)
      (·.engage peer.entry)
  | .known peer =>
    (checked .own peer Lifecycle.beginOpen world).map (onward (.accepted peer) (.leaving peer)) id
  | .accepted peer target =>
    (deliverOpen host encounter.handle encounter.address encounter.bytes peer target world).map
      (.leaving peer) id
  | .leaving peer outcome => (ensuring (ending outcome) (leave peer.entry) world).map .dropping id
  | .dropping outcome =>
    (ensuring (ending outcome) (dropBuffer encounter.spent) world).map .ended id
  | .ended outcome => (.ended outcome, world)

/-- What is left of the opening. -/
def Outbound.rest : Outbound → Call σ Mark Peer
  | .given => orGiveUp host encounter.handle (register encounter.handle encounter.target)
  | .bound peer =>
    orGiveUp host encounter.handle (settle encounter.handle encounter.target peer)
  | .pinned peer =>
    orGiveUp host encounter.handle do
      effect (announce encounter.handle)
      return peer
  | .refused error => do
    effect (giveUp host encounter.handle error)
    throw error
  | .ended outcome => ending outcome

/-- What is left of an open request that has found its registration. -/
def Inbound.opens (peer : Peer) : Call σ Mark Unit :=
  Call.holding peer.entry
    (opening host encounter.handle encounter.address encounter.bytes peer)

/-- What is left of the open request. -/
def Inbound.rest : Inbound → Call σ Mark Unit
  | .called => onOpen host encounter.handle encounter.address encounter.options
  | .unknown =>
    thenDropping encounter.spent
      (adoptFromFactory host encounter.handle encounter.address encounter.bytes >>=
        opens host encounter)
  | .offered target =>
    thenDropping encounter.spent (register encounter.handle target >>= opens host encounter)
  | .adopting peer target =>
    thenDropping encounter.spent (settle encounter.handle target peer >>= opens host encounter)
  | .adopted peer =>
    thenDropping encounter.spent
      (effect (announce encounter.handle) >>= fun _ => opens host encounter peer)
  | .known peer =>
    thenDropping encounter.spent (Call.ensuring
      (opening host encounter.handle encounter.address encounter.bytes peer) (leave peer.entry))
  | .accepted peer target =>
    thenDropping encounter.spent (Call.ensuring
      (deliverOpen host encounter.handle encounter.address encounter.bytes peer target)
      (leave peer.entry))
  | .leaving peer outcome =>
    thenDropping encounter.spent (Call.ensuring (ending outcome) (leave peer.entry))
  | .dropping outcome => thenDropping encounter.spent (ending outcome)
  | .ended outcome => ending outcome

end Turns

/-! ## What a turn leaves to be done -/

section Rest

variable {host : Host σ Mark} {encounter : Encounter} {world middle : World σ Mark}

namespace Registration

omit [Custodian σ] in
theorem orGiveUp_congr {handle : Handle} {body other : Call σ Mark Peer}
    (same : body world = other middle) :
    orGiveUp host handle body world = orGiveUp host handle other middle := by
  have lifted : effect body.run world = effect other.run middle := bindRun_congr same
  exact bindRun_congr lifted

end Registration

namespace Outbound

/-- A part is done, and what comes after it is left. -/
theorem rest_onward (body : Call σ Mark α) {phase : α → Outbound}
    {next : α → Call σ Mark Peer}
    (continues : ∀ result world, (phase result).rest host encounter world =
      orGiveUp host encounter.handle (next result) world) (world : World σ Mark) :
    (onward phase (body world).1).rest host encounter (body world).2 =
      orGiveUp host encounter.handle (body >>= next) world := by
  rcases ran : body world with ⟨panic | error | result, after⟩
  · have ended : (body >>= next) world = (.error panic, after) := callBind_of_panicked ran
    exact (effectBind_of_error ended).symm
  · have rejected : (body >>= next) world = (.ok (.error error), after) :=
      callBind_of_rejected ran
    have left : orGiveUp host encounter.handle (body >>= next) world = _ :=
      effectBind_of_ok rejected
    exact left.symm
  · have passed : (body >>= next) world = next result after := callBind_of_ok ran
    exact (continues result after).trans (orGiveUp_congr passed).symm

/-- What is left of an opening is the same after a turn of it. -/
theorem rest_turn (stage : Outbound) (world : World σ Mark) :
    (stage.turn host encounter world).1.rest host encounter (stage.turn host encounter world).2 =
      stage.rest host encounter world := by
  cases stage with
  | given =>
    have continues : ∀ peer world, rest host encounter (.bound peer) world =
        orGiveUp host encounter.handle (settle encounter.handle encounter.target peer) world :=
      fun _ _ => rfl
    have left : rest host encounter .given world = orGiveUp host encounter.handle
        (enter encounter.handle encounter.target >>=
          settle encounter.handle encounter.target) world := by
      rw [← register_eq_enter]
      rfl
    exact (rest_onward _ continues world).trans left.symm
  | bound peer =>
    have continues : ∀ (_ : Unit) world, rest host encounter (.pinned peer) world =
        orGiveUp host encounter.handle (do
          effect (announce encounter.handle)
          return peer) world := fun _ _ => rfl
    exact rest_onward (checked .own peer (Lifecycle.adoptPin encounter.target)) continues world
  | pinned peer => rfl
  | refused error =>
    rcases ran : giveUp host encounter.handle error world with ⟨panic | nothing, after⟩
    · have left : rest host encounter (.refused error) world = _ := effectBind_of_error ran
      rw [left, turn, ran]
      rfl
    · have left : rest host encounter (.refused error) world = _ := effectBind_of_ok ran
      rw [left, turn, ran]
      rfl
  | ended outcome => rfl

end Outbound

namespace Inbound

/-- A part is done, and what comes after it is left, in what the call is wrapped
in. -/
theorem rest_onward {wrap : Call σ Mark Unit → Call σ Mark Unit}
    (congr : ∀ {body other world middle}, body world = other middle →
      wrap body world = wrap other middle)
    (body : Call σ Mark α) {phase : α → Inbound} {next : α → Call σ Mark Unit}
    {stops : Except Panic (Except BridgeError Unit) → Inbound}
    (continues : ∀ result, (phase result).rest host encounter = wrap (next result))
    (stopped : ∀ outcome, (stops outcome).rest host encounter = wrap (ending outcome))
    (world : World σ Mark) :
    (onward phase stops (body world).1).rest host encounter (body world).2 =
      wrap (body >>= next) world := by
  rcases ran : body world with ⟨panic | error | result, after⟩
  · have ended : (body >>= next) world = (.error panic, after) := callBind_of_panicked ran
    exact (congrFun (stopped _) after).trans (congr (ended.symm ▸ rfl))
  · have rejected : (body >>= next) world = (.ok (.error error), after) :=
      callBind_of_rejected ran
    exact (congrFun (stopped _) after).trans (congr (rejected.symm ▸ rfl))
  · have passed : (body >>= next) world = next result after := callBind_of_ok ran
    exact (congrFun (continues result) after).trans (congr passed.symm)

/-- What is left of an open request is the same after a turn of it. -/
theorem rest_turn (stage : Inbound) (world : World σ Mark) :
    (stage.turn host encounter world).1.rest host encounter (stage.turn host encounter world).2 =
      stage.rest host encounter world := by
  have dropping : ∀ {body other : Call σ Mark Unit} {world middle : World σ Mark},
      body world = other middle →
        thenDropping encounter.spent body world = thenDropping encounter.spent other middle :=
    ensuring_congr
  have stopped : ∀ outcome, rest host encounter (.dropping outcome) =
      thenDropping encounter.spent (ending outcome) := fun _ => rfl
  have opened : ∀ peer, rest host encounter (.known peer) = thenDropping encounter.spent
      (Call.ensuring (opening host encounter.handle encounter.address encounter.bytes peer)
        (leave peer.entry)) := fun _ => rfl
  have holds : ∀ peer world, rest host encounter (.known peer) (world.engage peer.entry) =
      thenDropping encounter.spent (opens host encounter peer) world :=
    fun _ _ => dropping (ensuring_congr (bind_of_ok rfl)).symm
  cases stage with
  | called =>
    have left : rest host encounter .called world = _ := onOpen_of_taken encounter.taken
    rw [left]
    cases known : world.peer? encounter.handle with
    | none =>
      simp only [turn, known]
      rfl
    | some peer =>
      simp only [turn, known]
      exact holds peer world
  | unknown =>
    have continues : ∀ target, rest host encounter (.offered target) = thenDropping encounter.spent
        (register encounter.handle target >>= opens host encounter) := fun _ => rfl
    have left : rest host encounter .unknown = thenDropping encounter.spent
        (offer host encounter.handle encounter.address encounter.bytes >>= fun target =>
          register encounter.handle target >>= opens host encounter) := by
      rw [← bind_assoc, ← adoptFromFactory_eq_offer]
      rfl
    rw [left]
    exact rest_onward dropping (offer host encounter.handle encounter.address encounter.bytes)
      continues stopped world
  | offered target =>
    have continues : ∀ peer, rest host encounter (.adopting peer target) =
        thenDropping encounter.spent (settle encounter.handle target peer >>=
          opens host encounter) := fun _ => rfl
    have left : rest host encounter (.offered target) = thenDropping encounter.spent
        (enter encounter.handle target >>= fun peer =>
          settle encounter.handle target peer >>= opens host encounter) := by
      rw [← bind_assoc, ← register_eq_enter]
      rfl
    rw [left]
    exact rest_onward dropping (enter encounter.handle target) continues stopped world
  | adopting peer target =>
    have continues : ∀ _ : Unit, rest host encounter (.adopted peer) =
        thenDropping encounter.spent (effect (announce encounter.handle) >>= fun _ =>
          opens host encounter peer) := fun _ => rfl
    have left : rest host encounter (.adopting peer target) = thenDropping encounter.spent
        (checked .own peer (Lifecycle.adoptPin target) >>= fun _ =>
          effect (announce encounter.handle) >>= fun _ => opens host encounter peer) := by
      unfold rest settle
      simp only [bind_assoc, pure_bind]
    rw [left]
    exact rest_onward dropping (checked .own peer (Lifecycle.adoptPin target)) continues
      stopped world
  | adopted peer =>
    have announced : announce encounter.handle world = (.ok (), _) := bind_of_ok rfl
    have left : rest host encounter (.adopted peer) world = _ :=
      dropping (effectBind_of_ok announced)
    rw [left, turn, effect_of_ok announced]
    exact holds peer _
  | known peer =>
    have wrapped : ∀ {body other : Call σ Mark Unit} {world middle : World σ Mark},
        body world = other middle →
          thenDropping encounter.spent (Call.ensuring body (leave peer.entry)) world =
            thenDropping encounter.spent (Call.ensuring other (leave peer.entry)) middle :=
      fun same => dropping (ensuring_congr same)
    have continues : ∀ target, rest host encounter (.accepted peer target) =
        thenDropping encounter.spent (Call.ensuring
          (deliverOpen host encounter.handle encounter.address encounter.bytes peer target)
          (leave peer.entry)) := fun _ => rfl
    have left : ∀ outcome, rest host encounter (.leaving peer outcome) =
        thenDropping encounter.spent (Call.ensuring (ending outcome) (leave peer.entry)) :=
      fun _ => rfl
    rw [opened, opening_eq_deliverOpen]
    exact rest_onward wrapped (checked .own peer Lifecycle.beginOpen) continues left world
  | accepted peer target => exact dropping (ensuring_congr rfl)
  | leaving peer outcome => exact dropping rfl
  | dropping outcome => rfl
  | ended outcome => rfl

end Inbound

end Rest

/-! ## The race -/

/-- Whose turn it is. -/
inductive Side where
  | opener
  | native
deriving DecidableEq, Repr

structure Race (σ : Type) where
  world : World σ Mark
  outbound : Outbound := .given
  inbound : Inbound := .called
  /-- The world in which an open request that was accepted has been delivered, and
  to whom. -/
  delivery : Option (World σ Mark × Peer × TargetId) := none

def Inbound.delivers? : Inbound → Option (Peer × TargetId)
  | .accepted peer target => some (peer, target)
  | _ => none

/-- How many turns the opening still takes at most. -/
def Outbound.left : Outbound → Nat
  | .given => 3
  | .bound _ => 2
  | .pinned _ | .refused _ => 1
  | .ended _ => 0

/-- How many turns the open request still takes at most. -/
def Inbound.left : Inbound → Nat
  | .called => 9
  | .unknown => 8
  | .offered _ => 7
  | .adopting _ _ => 6
  | .adopted _ => 5
  | .known _ => 4
  | .accepted _ _ => 3
  | .leaving _ _ => 2
  | .dropping _ => 1
  | .ended _ => 0

theorem Outbound.ended_of_left {stage : Outbound} (left : stage.left = 0) :
    ∃ outcome, stage = .ended outcome := by
  cases stage with
  | ended outcome => exact ⟨outcome, rfl⟩
  | _ => exact absurd left (Nat.succ_ne_zero _)

theorem Inbound.ended_of_left {stage : Inbound} (left : stage.left = 0) :
    ∃ outcome, stage = .ended outcome := by
  cases stage with
  | ended outcome => exact ⟨outcome, rfl⟩
  | _ => exact absurd left (Nat.succ_ne_zero _)

namespace Race

section Definitions

variable (host : Host σ Mark) (encounter : Encounter)

def turn (race : Race σ) : Side → Race σ
  | .opener =>
    let (outbound, world) := race.outbound.turn host encounter race.world
    { race with world, outbound }
  | .native =>
    let (inbound, world) := race.inbound.turn host encounter race.world
    { race with
      world
      inbound
      delivery := (race.inbound.delivers?.map (race.world, ·)).or race.delivery }

/-- The turns of a schedule, one after the other. -/
def run (race : Race σ) (schedule : List Side) : Race σ :=
  schedule.foldl (turn host encounter) race

end Definitions

/-- Both calls have ended. -/
def Ended (race : Race σ) : Prop :=
  race.outbound.left = 0 ∧ race.inbound.left = 0

variable {host : Host σ Mark} {encounter : Encounter}

theorem left_outbound_onward (phase : α → Outbound) {bound : Nat} (positive : 1 ≤ bound)
    (continues : ∀ result, (phase result).left ≤ bound)
    (outcome : Except Panic (Except BridgeError α)) :
    (Outbound.onward phase outcome).left ≤ bound := by
  rcases outcome with panic | error | result
  · exact Nat.zero_le bound
  · exact positive
  · exact continues result

theorem left_inbound_onward (phase : α → Inbound)
    (stops : Except Panic (Except BridgeError Unit) → Inbound) {bound : Nat}
    (continues : ∀ result, (phase result).left ≤ bound)
    (stopped : ∀ outcome, (stops outcome).left ≤ bound)
    (outcome : Except Panic (Except BridgeError α)) :
    (Inbound.onward phase stops outcome).left ≤ bound := by
  rcases outcome with panic | error | result
  · exact stopped _
  · exact stopped _
  · exact continues result

theorem left_outbound_turn (stage : Outbound) (world : World σ Mark) :
    (stage.turn host encounter world).1.left ≤ stage.left - 1 := by
  cases stage with
  | given => exact left_outbound_onward .bound (Nat.le_succ 1) (fun _ => Nat.le_refl 2) _
  | bound peer =>
    exact left_outbound_onward (fun _ => .pinned peer) (Nat.le_refl 1) (fun _ => Nat.le_refl 1) _
  | pinned peer => exact Nat.le_refl 0
  | refused error => exact Nat.le_refl 0
  | ended outcome => exact Nat.le_refl 0

theorem left_inbound_turn (stage : Inbound) (world : World σ Mark) :
    (stage.turn host encounter world).1.left ≤ stage.left - 1 := by
  have dropped : ∀ more outcome, (Inbound.dropping outcome).left ≤ more + 1 :=
    fun more _ => Nat.le_add_left 1 more
  cases stage with
  | called =>
    show (Inbound.turn host encounter world .called).1.left ≤ 8
    cases known : world.peer? encounter.handle with
    | some peer =>
      simp only [Inbound.turn, known]
      exact Nat.le_add_left 4 4
    | none =>
      simp only [Inbound.turn, known]
      exact Nat.le_refl 8
  | unknown => exact left_inbound_onward .offered .dropping (fun _ => Nat.le_refl 7) (dropped 6) _
  | offered target =>
    exact left_inbound_onward (.adopting · target) .dropping (fun _ => Nat.le_refl 6) (dropped 5) _
  | adopting peer target =>
    exact left_inbound_onward (fun _ => .adopted peer) .dropping (fun _ => Nat.le_refl 5)
      (dropped 4) _
  | adopted peer =>
    exact left_inbound_onward (fun _ : Unit => .known peer) .dropping (fun _ => Nat.le_refl 4)
      (dropped 3) (effect (announce encounter.handle) world).1
  | known peer =>
    exact left_inbound_onward (.accepted peer) (.leaving peer) (fun _ => Nat.le_refl 3)
      (fun _ => Nat.le_succ 2) _
  | accepted peer target => exact Nat.le_refl 2
  | leaving peer outcome => exact Nat.le_refl 1
  | dropping outcome => exact Nat.le_refl 0
  | ended outcome => exact Nat.le_refl 0

theorem left_run (race : Race σ) (schedule : List Side) :
    (race.run host encounter schedule).outbound.left ≤
        race.outbound.left - schedule.count .opener ∧
      (race.run host encounter schedule).inbound.left ≤
        race.inbound.left - schedule.count .native := by
  induction schedule generalizing race with
  | nil => exact ⟨Nat.le_refl _, Nat.le_refl _⟩
  | cons side rest inductionHypothesis =>
    have later := inductionHypothesis (race.turn host encounter side)
    rw [run, List.foldl_cons, ← run]
    cases side with
    | opener =>
      have less : (race.turn host encounter .opener).outbound.left ≤ race.outbound.left - 1 :=
        left_outbound_turn race.outbound race.world
      have same : (race.turn host encounter .opener).inbound = race.inbound := rfl
      rw [same] at later
      rw [List.count_cons_self, List.count_cons_of_ne (by decide)]
      omega
    | native =>
      have less : (race.turn host encounter .native).inbound.left ≤ race.inbound.left - 1 :=
        left_inbound_turn race.inbound race.world
      have same : (race.turn host encounter .native).outbound = race.outbound := rfl
      rw [same] at later
      rw [List.count_cons_self, List.count_cons_of_ne (by decide)]
      omega

/-- Each side ends, if it has turns enough. -/
theorem ended_of_turns (world : World σ Mark) {schedule : List Side}
    (opens : 3 ≤ schedule.count .opener) (reports : 9 ≤ schedule.count .native) :
    (run host encounter { world } schedule).Ended := by
  have left : (run host encounter { world } schedule).outbound.left ≤ 3 - _ ∧
      (run host encounter { world } schedule).inbound.left ≤ 9 - _ := left_run _ schedule
  constructor <;> omega

theorem rest_run_opener (race : Race σ) (count : Nat) :
    let after := race.run host encounter (List.replicate count .opener)
    after.outbound.rest host encounter after.world =
      race.outbound.rest host encounter race.world := by
  induction count generalizing race with
  | zero => rfl
  | succ count inductionHypothesis =>
    exact (inductionHypothesis (race.turn host encounter .opener)).trans
      (race.outbound.rest_turn race.world)

theorem rest_run_native (race : Race σ) (count : Nat) :
    let after := race.run host encounter (List.replicate count .native)
    after.inbound.rest host encounter after.world =
      race.inbound.rest host encounter race.world := by
  induction count generalizing race with
  | zero => rfl
  | succ count inductionHypothesis =>
    exact (inductionHypothesis (race.turn host encounter .native)).trans
      (race.inbound.rest_turn race.world)

/-- The turns of the opener alone, once the engine has given the handle, are what
is left of the call that opens the connection. -/
theorem opening_alone (host : Host σ Mark) (encounter : Encounter) (world : World σ Mark) :
    let after := run host encounter { world } (List.replicate 3 .opener)
    ∃ outcome, after.outbound = .ended outcome ∧
      orGiveUp host encounter.handle (register encounter.handle encounter.target) world =
        (outcome, after.world) := by
  intro after
  have rests : after.outbound.rest host encounter after.world =
      orGiveUp host encounter.handle (register encounter.handle encounter.target) world :=
    rest_run_opener { world } 3
  obtain ⟨outcome, ended⟩ := Outbound.ended_of_left
    (Nat.le_zero.mp (left_run { world } (List.replicate 3 .opener)).1)
  rw [ended] at rests
  exact ⟨outcome, ended, rests.symm⟩

/-- The turns of the native side alone are the report of an open request. -/
theorem report_alone (world : World σ Mark) :
    let after := run host encounter { world } (List.replicate 9 .native)
    ∃ outcome, after.inbound = .ended outcome ∧
      onOpen host encounter.handle encounter.address encounter.options world =
        (outcome, after.world) := by
  intro after
  have rests : after.inbound.rest host encounter after.world =
      onOpen host encounter.handle encounter.address encounter.options world :=
    rest_run_native { world } 9
  obtain ⟨outcome, ended⟩ := Inbound.ended_of_left
    (Nat.le_zero.mp (left_run { world } (List.replicate 9 .native)).2)
  rw [ended] at rests
  exact ⟨outcome, ended, rests.symm⟩

/-- Without the other side in between, the turns of either are its call. -/
structure TurnsAreCalls (host : Host σ Mark) (encounter : Encounter) : Prop where
  /-- The opener's are what opening a connection does once the engine has given the
  handle. -/
  opening {start asked : World σ Mark} {address : Address} {framing : Option Framing} :
    let chosen := framing.getD start.config.defaultFraming
    Custody.lendingTarget encounter.target (askEngine host address chosen) start =
        (.ok (.ok encounter.handle), asked) →
      let world := asked.push (.noted (.outboundCreated encounter.handle address chosen))
      let after := run host encounter { world } (List.replicate 3 .opener)
      ∃ outcome, after.outbound = .ended outcome ∧
        openOutbound host address framing encounter.target start = (outcome, after.world)
  report (world : World σ Mark) :
    let after := run host encounter { world } (List.replicate 9 .native)
    ∃ outcome, after.inbound = .ended outcome ∧
      onOpen host encounter.handle encounter.address encounter.options world =
        (outcome, after.world)

theorem turnsAreCalls (host : Host σ Mark) (encounter : Encounter) :
    TurnsAreCalls host encounter where
  opening := by
    intro start asked address framing chosen given world after
    obtain ⟨outcome, ended, left⟩ := opening_alone host encounter world
    exact ⟨outcome, ended, (openOutbound_of_given given).trans left⟩
  report := report_alone

end Race

end TransportBridge
