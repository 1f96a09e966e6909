import TransportBridge.Proofs.EventOrder
import TransportBridge.Proofs.Redelivery
import TransportBridge.Proofs.Sightings

/-!
Contract: the states that user code sees are those of the state machine, in its
order.

A delivery that fails has moved the state before, and moves it back without
asking whether the machine allows it. User code has no word in between, so that
all that it sees is in order.

Owns: that the steps of a lifecycle that are checked for an edge take one, that
each turn of a registration goes along edges, and that the worlds noted in a run
do.
-/

namespace TransportBridge

/-! ## Edges -/

/-- By any number of edges. -/
abbrev SocketState.Leads : SocketState → SocketState → Prop :=
  Relation.ReflTransGen fun state next => state.canMoveTo next = true

/-- No edge leads back from a closed state. -/
theorem SocketState.isClosed_of_edge {state next : SocketState}
    (edge : state.canMoveTo next = true) (closed : state.isClosed = true) :
    next.isClosed = true := by
  cases state with
  | closed | disposed => cases next <;> first | rfl | cases edge
  | _ => cases closed

/-- From every state before the closed ones a close may be delivered or asked
for. -/
theorem SocketState.closes_of_live {state : SocketState} (live : state.isClosed = false) :
    state.canMoveTo .closed = true ∧ state.canMoveTo .closePending = true := by
  cases state <;> first | exact ⟨rfl, rfl⟩ | cases live

/-- A disposed state leads nowhere. -/
theorem SocketState.Leads.disposed {state : SocketState}
    (leads : SocketState.disposed.Leads state) : state = .disposed := by
  induction leads with
  | refl => rfl
  | tail _ edge inductionHypothesis =>
      rw [inductionHypothesis] at edge
      cases edge

theorem SocketState.Leads.isClosed {state next : SocketState} (leads : state.Leads next)
    (closed : state.isClosed = true) : next.isClosed = true := by
  induction leads with
  | refl => exact closed
  | tail _ edge inductionHypothesis => exact isClosed_of_edge edge inductionHypothesis

namespace Lifecycle

variable {life next : Lifecycle}

/-- The steps that check for an edge of the state machine. -/
inductive Transits : Lifecycle → Lifecycle → Prop where
  | beginOpen {life next : Lifecycle} {target : TargetId}
      (begun : life.beginOpen = .ok (target, next)) : Transits life next
  | finishOpen (life : Lifecycle) : Transits life life.finishOpen.2
  | acceptCloseRequest {life next : Lifecycle} {target : TargetId} {before : SocketState}
      (accepted : life.acceptCloseRequest = .ok ((target, before), next)) : Transits life next
  | beginClose {life next : Lifecycle} {target : TargetId} {before : SocketState}
      (begun : life.beginClose = .ok ((target, before), next)) : Transits life next
  | markReady {life next : Lifecycle} {first : Bool}
      (marked : life.markReady = .ok (first, next)) : Transits life next
  | requestClose {life next : Lifecycle}
      (requested : life.requestClose = .ok ((), next)) : Transits life next
  | markManagedClosed (life : Lifecycle) : Transits life life.markManagedClosed.2
  | tryTeardown (life : Lifecycle) : Transits life life.tryTeardown.2

/-- Whatever the lifecycle, a step that checks for an edge takes one, or stays
where it is. -/
theorem Transits.edge (transits : Transits life next) :
    next.state = life.state ∨ life.state.canMoveTo next.state = true := by
  cases transits with
  | beginOpen begun =>
      obtain ⟨created, _, rfl⟩ := beginOpen_ok begun
      rw [created]
      exact .inr rfl
  | finishOpen =>
      rcases finishOpen_cases life with ⟨opening, _, finished⟩ | ⟨_, finished⟩
      · rw [finished, opening]
        exact .inr rfl
      · rw [finished]
        exact .inl rfl
  | acceptCloseRequest accepted =>
      obtain ⟨streaming, _, _, rfl⟩ := acceptCloseRequest_ok accepted
      exact .inr (SocketState.closes_of_live
        (SocketState.not_isClosed_of_acceptsStreamEvents streaming)).2
  | beginClose begun =>
      obtain ⟨live, _, _, rfl⟩ := beginClose_ok begun
      exact .inr (SocketState.closes_of_live live).1
  | markReady marked =>
      rcases markReady_ok marked with ⟨_, opening, _, rfl⟩ | ⟨_, _, rfl⟩
      · rw [opening]
        cases life.openDispatched
        · exact .inl rfl
        · exact .inr rfl
      · exact .inl rfl
  | requestClose requested =>
      obtain ⟨live, rfl⟩ := requestClose_ok requested
      exact .inr (SocketState.closes_of_live live).2
  | markManagedClosed =>
      rcases markManagedClosed_cases life with ⟨_, live, marked⟩ | ⟨_, marked⟩
      · rw [marked]
        exact .inr (SocketState.closes_of_live live).2
      · rw [marked]
        exact .inl rfl
  | tryTeardown =>
      rcases tryTeardown_cases life with ⟨_, closed, torn⟩ | ⟨_, torn⟩
      · rw [torn, closed]
        exact .inr rfl
      · rw [torn]
        exact .inl rfl

theorem Transits.leads (transits : Transits life next) : life.state.Leads next.state := by
  rcases transits.edge with same | edge
  · rw [same]
  · exact .single edge

theorem Accepts.leads {event : SocketEvent} {target : TargetId}
    (accepts : life.Accepts event target next) : life.state.Leads next.state := by
  cases accepts with
  | openRequest begun => exact (Transits.beginOpen begun).leads
  | writeCompleted accepted =>
      obtain ⟨_, _, _, rfl⟩ := acceptWriteCompleted_ok accepted
      exact .refl
  | received accepted =>
      obtain ⟨_, _, rfl⟩ := acceptReceived_ok accepted
      exact .refl
  | closeRequest accepted => exact (Transits.acceptCloseRequest accepted).leads
  | closed begun => exact (Transits.beginClose begun).leads

theorem Forwards.leads {limit : Nat} {call : EngineCall}
    (forwards : life.Forwards limit call next) :
    life.state.Leads next.state := by
  cases forwards with
  | opened marked => exact (Transits.markReady marked).leads
  | httpResponse checked =>
      obtain ⟨_, rfl⟩ := checkHandshake_ok checked
      exact .refl
  | write recorded =>
      obtain ⟨_, _, rfl⟩ := recordWrite_ok recorded
      exact .refl
  | completedReceive acknowledged =>
      obtain ⟨_, _, _, rfl⟩ := acknowledgeReceive_ok acknowledged
      exact .refl
  | closeRequest requested => exact (Transits.requestClose requested).leads
  | closed marked =>
      have transits := Transits.markManagedClosed life
      rw [marked] at transits
      exact transits.leads

end Lifecycle

/-! ## Turns -/

/-- Every turn goes along edges. A delivery that fails has no turn of its own
for the state that it was in meanwhile. -/
theorem Turn.leads {life next : Lifecycle} {deeds told : List Deed} (held : life.Held)
    (reflects : life.Reflects deeds) (turn : Turn life deeds next told) :
    life.state.Leads next.state := by
  cases turn with
  | idle | registered | unreleased => exact .refl
  | called accepts => exact accepts.leads
  | missed misses => rw [(reflects.same_of_misses held misses).state]
  | opened => exact (Lifecycle.Transits.finishOpen life).leads
  | settled given =>
      obtain ⟨_, _, rfl⟩ := Lifecycle.releaseNative_ok given
      exact (Lifecycle.Transits.tryTeardown { life with nativeRef := false }).leads
  | forwarded forwards => exact forwards.leads
  | retained taken =>
      obtain ⟨_, rfl, _⟩ := Lifecycle.retain_ok taken
      exact .refl
  | released given =>
      obtain ⟨_, _, rfl⟩ := Lifecycle.release_ok given
      exact (Lifecycle.Transits.tryTeardown { life with managedRefs := life.managedRefs - 1 }).leads

/-! ## Runs -/

section Runs

variable {σ : Type}

/-- The states of a registration are in the order of the state machine. -/
def World.Precedes (id : EntryId) (earlier later : World σ Mark) : Prop :=
  (earlier.life id).state.Leads (later.life id).state

/-- The states of a registration in the worlds that have been noted, one after
the other. -/
structure StatesInOrder (seen : List (World σ Mark)) (id : EntryId) : Prop where
  ordered : seen.Pairwise (World.Precedes id)
  closed : seen.Pairwise fun earlier later =>
    (earlier.life id).state.isClosed = true → (later.life id).state.isClosed = true
  /-- Callbacks have begun for the states that deliveries lead to. -/
  reflects : ∀ world ∈ seen, (world.life id).Reflects (world.deeds id)

variable [Custodian σ]

/-- All that user code sees of a registration in a run is in the order of the
state machine, and no step that checks for an edge ever fails to find one. Any
run may be watched (`Reachable.observed`). -/
theorem Observed.states_inOrder {world : World (Watched σ) Mark} (observed : Observed world)
    (id : EntryId) : StatesInOrder world.host.seen id ∧
      ∀ life next : Lifecycle, life.Transits next →
        next.state = life.state ∨ life.state.canMoveTo next.state = true := by
  obtain ⟨config, surroundings, trail⟩ := observed.trail
  have sound := World.Sound.fresh config (surroundings.watched [])
  have reflects {noted : World (Watched σ) Mark}
      (trail : Trail Truthful (.fresh config (surroundings.watched [])) noted) :
      (noted.life id).Reflects (noted.deeds id) :=
    trail.path.registration sound (fun _ => .fresh) (fun held reflects => reflects.turn held) id
  have step {before after : World (Watched σ) Mark}
      (trail : Trail Truthful (.fresh config (surroundings.watched [])) before)
      (grain : Grain Truthful before after) :
      World.Precedes id before.unwatched after.unwatched :=
    (grain.stride.turn id).leads ((trail.sound sound).life_held id) (reflects trail)
  obtain ⟨ordered, _⟩ :=
    trail.notes_ordered (World.Precedes id) rfl Relation.ReflTransGen.trans step
  refine ⟨⟨ordered, ordered.imp fun leads => leads.isClosed, ?_⟩,
    fun _ _ => Lifecycle.Transits.edge⟩
  intro seen member
  obtain ⟨noted, noting, rfl⟩ := trail.noted rfl member
  exact reflects noting

end Runs

/-- An open request that is not delivered, is repeated, and is confirmed in its
callback; and a close. -/
def Bystander.watchedTwice : World (Watched Bystander) Mark :=
  let opening :=
    BridgeCall.native handle (.openRequest ⟨"stream", "near", 1, ""⟩ (.transferable []))
  let confirming : Behaviour Bystander := answering fun event =>
    match event with
    | .openRequest _ _ => .call (.socket ⟨0⟩ .opened) fun _ => .finish ()
    | _ => .finish ()
  confirming.watchedInTurn 2
    [.adoptInbound handle ⟨0⟩, opening, opening, .native handle (.closed 1 0 [])]
    (.fresh {} (Surroundings.failing.watched []))

/-- The state of before the failed delivery is seen after it, and the state in
between is not. -/
theorem Observed.states_inOrder_of_watchedTwice :
    let seen := Bystander.watchedTwice.host.seen
    seen.map (fun world => (world.life ⟨0⟩).state) =
      [.created, .created, .created, .created, .created, .opening, .opening, .opening, .opened,
        .opened, .closed, .disposed] ∧
    StatesInOrder seen ⟨0⟩ := by
  have observed : Observed Bystander.watchedTwice := .inTurn (.fresh _ _) _ _ _
  exact ⟨by decide +kernel, (observed.states_inOrder ⟨0⟩).1⟩

end TransportBridge
