import TransportBridge.Proofs.Rebuffs
import TransportBridge.Proofs.StateOrder
import TransportBridge.Proofs.WriteWindow

/-!
Contract: what a connection has written and not been told of, in a run.

Every write that is accepted is forwarded, and every confirmation that is
accepted is told, unless there is no context for it. So the bytes that are
pending are those of the window that is left of the writes and confirmations in
the trace, whatever else happens to the connection meanwhile.

Owns: the bytes that go out on a connection, and what a run does to its window.
-/

namespace TransportBridge

/-- Confirmed bytes. -/
def SocketEvent.flow? : SocketEvent → Option Flow
  | .writeCompleted byteCount => some (.confirmed byteCount)
  | _ => none

/-- Written bytes. -/
def EngineCall.flow? : EngineCall → Option Flow
  | .write data => some (.written data.length)
  | _ => none

/-- Bytes that are written on the connection, or confirmed on it. -/
def Moment.flow? (id : EntryId) : Moment Mark → Option Flow
  | .engineCalled (some source) _ call => if source = id then call.flow? else none
  | .callback peer _ event _ => if peer.entry = id then event.flow? else none
  | _ => none

section Flows

variable {σ : Type} {world after one two three : World σ Mark} {peer : Peer}

namespace World

/-- The bytes that have gone out on a connection, in order. -/
def flows (world : World σ Mark) (id : EntryId) : List Flow :=
  world.acts.filterMap (Moment.flow? id)

theorem flows_of_acts {done : List (Moment Mark)} (acts : after.acts = world.acts ++ done)
    (id : EntryId) : after.flows id = world.flows id ++ done.filterMap (Moment.flow? id) := by
  unfold flows
  rw [acts, List.filterMap_append]

theorem flows_push (world : World σ Mark) (moment : Moment Mark) (id : EntryId) :
    (world.push moment).flows id = world.flows id ++ (moment.flow? id).toList := by
  rw [flows_of_acts (world.acts_push moment)]
  cases moment <;> rfl

/-- The bytes that go out meanwhile, and what they make of those that are
pending. -/
def Passes (earlier : World σ Mark) (id : EntryId) (since : List Flow) (later : World σ Mark) :
    Prop :=
  later.flows id = earlier.flows id ++ since ∧
    Window earlier.config.maxPendingWriteBytes (earlier.life id).pendingWrite since
      (later.life id).pendingWrite

/-- Nothing goes out. -/
theorem Passes.none {id : EntryId} (flows : after.flows id = world.flows id)
    (pending : (after.life id).pendingWrite = (world.life id).pendingWrite) :
    world.Passes id [] after :=
  ⟨by rw [flows, List.append_nil], pending ▸ .untouched⟩

/-- A moment of something else. -/
theorem Passes.silent {id : EntryId} {since : List Flow} {moment : Moment Mark}
    (passes : world.Passes id since after) (silent : moment.flow? id = Option.none) :
    world.Passes id since (after.push moment) := by
  obtain ⟨flows, window⟩ := passes
  exact ⟨by rw [flows_push, silent, Option.toList_none, List.append_nil, flows], window⟩

/-- A moment with which bytes go out, or none do. -/
theorem Passes.push {id : EntryId} {moment : Moment Mark} (flows : after.flows id = world.flows id)
    (window : Window world.config.maxPendingWriteBytes (world.life id).pendingWrite
      (moment.flow? id).toList (after.life id).pendingWrite) :
    world.Passes id (moment.flow? id).toList (after.push moment) :=
  ⟨by rw [flows_push, flows], window⟩

/-- From one world to a later one, as far as a connection is concerned. -/
structure Flowed (peer : Peer) (earlier later : World σ Mark) : Prop where
  genuine : later.Genuine peer
  config : later.config = earlier.config
  drops : earlier.drops peer.handle .writeCompleted ≤ later.drops peer.handle .writeCompleted
  leads : (earlier.life peer.entry).state.Leads (later.life peer.entry).state
  passes : (later.life peer.entry).state ≠ .disposed →
    later.drops peer.handle .writeCompleted = earlier.drops peer.handle .writeCompleted →
      ∃ since, earlier.Passes peer.entry since later

end World

theorem World.Flowed.trans (first : one.Flowed peer two) (second : two.Flowed peer three) :
    one.Flowed peer three where
  genuine := second.genuine
  config := second.config.trans first.config
  drops := Nat.le_trans first.drops second.drops
  leads := first.leads.trans second.leads
  passes live undropped := by
    have between := first.drops
    have later := second.drops
    have liveBetween : (two.life peer.entry).state ≠ .disposed := by
      intro disposed
      have leads := second.leads
      rw [disposed] at leads
      exact live leads.disposed
    obtain ⟨before, flowsBefore, windowBefore⟩ := first.passes liveBetween (by omega)
    obtain ⟨since, flowsSince, windowSince⟩ := second.passes live (by omega)
    refine ⟨before ++ since, ?_, ?_⟩
    · rw [flowsSince, flowsBefore, List.append_assoc]
    · rw [first.config] at windowSince
      exact windowBefore.trans windowSince

/-! ## Steps of a lifecycle -/

namespace Lifecycle

variable {life next : Lifecycle} {target : TargetId}

/-- Only confirmations are taken off what is pending. -/
theorem Accepts.window {event : SocketEvent} (accepts : life.Accepts event target next)
    (limit : Nat) : Window limit life.pendingWrite event.flow?.toList next.pendingWrite := by
  cases accepts with
  | openRequest begun =>
      obtain ⟨_, _, rfl⟩ := beginOpen_ok begun
      exact .untouched
  | writeCompleted accepted =>
      obtain ⟨_, _, owed, rfl⟩ := acceptWriteCompleted_ok accepted
      exact Window.untouched.confirmed owed
  | received accepted =>
      obtain ⟨_, _, rfl⟩ := acceptReceived_ok accepted
      exact .untouched
  | closeRequest accepted =>
      obtain ⟨_, _, _, rfl⟩ := acceptCloseRequest_ok accepted
      exact .untouched
  | closed begun =>
      obtain ⟨_, _, _, rfl⟩ := beginClose_ok begun
      exact .untouched

/-- Only writes are added to what is pending. -/
theorem Forwards.window {limit : Nat} {call : EngineCall} (forwards : life.Forwards limit call next) :
    Window limit life.pendingWrite call.flow?.toList next.pendingWrite := by
  cases forwards with
  | opened marked =>
      rcases markReady_ok marked with ⟨_, _, _, rfl⟩ | ⟨_, _, rfl⟩ <;> exact .untouched
  | httpResponse checked =>
      obtain ⟨_, rfl⟩ := checkHandshake_ok checked
      exact .untouched
  | write recorded =>
      obtain ⟨_, fits, rfl⟩ := recordWrite_ok recorded
      exact Window.untouched.written fits
  | completedReceive acknowledged =>
      obtain ⟨_, _, _, rfl⟩ := acknowledgeReceive_ok acknowledged
      exact .untouched
  | closeRequest requested =>
      obtain ⟨_, rfl⟩ := requestClose_ok requested
      exact .untouched
  | closed marked =>
      rcases markManagedClosed_cases life with ⟨_, _, both⟩ | ⟨_, both⟩ <;>
        cases both.symm.trans marked
      exact .untouched

theorem finishOpen_pending (life : Lifecycle) :
    life.finishOpen.2.pendingWrite = life.pendingWrite := by
  rw [finishOpen_frame]

/-- Nothing is pending any more when the lifecycle is torn down, and all is as
before otherwise. -/
theorem tryTeardown_pending (life : Lifecycle) (live : life.tryTeardown.2.state ≠ .disposed) :
    life.tryTeardown.2.pendingWrite = life.pendingWrite := by
  rcases tryTeardown_cases life with ⟨_, _, torn⟩ | ⟨_, torn⟩
  · rw [torn] at live
    exact absurd rfl live
  · rw [torn]

end Lifecycle

/-! ## Grains -/

namespace World

/-- One connection is as it was when another's lifecycle changes. -/
theorem life_of_changed {other : Peer} {next : Lifecycle} (genuine : world.Genuine other)
    (lives : ∀ id, after.life id = (world.setLife other.entry next).life id) (id : EntryId) :
    after.life id = if id = other.entry then next else world.life id := by
  rw [lives]
  split
  · next same =>
      obtain ⟨entry, found, _⟩ := genuine
      rw [same, life_setLife_self found]
  · next different => rw [life_setLife_of_ne _ different]

/-- Two connections of one registration have the same handle. -/
theorem Genuine.handle_eq {other : Peer} (genuine : world.Genuine peer)
    (also : world.Genuine other) (same : peer.entry = other.entry) :
    peer.handle = other.handle := by
  obtain ⟨entry, found, handle⟩ := genuine
  obtain ⟨again, foundAgain, handleAgain⟩ := also
  rw [same, foundAgain] at found
  cases found
  exact handle.symm.trans handleAgain

end World

section Grains

variable [Custodian σ] {may : Latitude σ}

theorem World.Quiet.flows {hooks : List Hook} {charge : Counter → Nat}
    (quiet : world.Quiet hooks charge after) (id : EntryId) :
    after.flows id = world.flows id := by
  rw [World.flows_of_acts quiet.acts, List.filterMap_map]
  simp [Function.comp_def, Moment.flow?]

/-- The lifecycle of a registration changes quietly, and leaves alone what is pending. -/
theorem World.Passes.quiet {before : World σ Mark} {id : EntryId} {hooks : List Hook}
    {charge : Counter → Nat} (quiet : before.Quiet hooks charge after)
    (flows : before.flows id = world.flows id)
    (pending : (before.life id).pendingWrite = (world.life id).pendingWrite) :
    world.Passes id [] after :=
  .none ((quiet.flows id).trans flows) (by rw [quiet.life, pending])

/-- The bytes go out on the connection whose lifecycle they are entered in. -/
theorem World.Passes.entered {other : Peer} {next : Lifecycle} {hooks : List Hook}
    {charge : Counter → Nat} {moment : Moment Mark} {flow : Option Flow} {id : EntryId}
    (genuine : world.Genuine other)
    (quiet : (world.setLife other.entry next).Quiet hooks charge after)
    (window : Window world.config.maxPendingWriteBytes (world.life other.entry).pendingWrite
      flow.toList next.pendingWrite)
    (owned : moment.flow? id = if other.entry = id then flow else Option.none) :
    ∃ since, world.Passes id since (after.push moment) := by
  refine ⟨_, .push (quiet.flows id) ?_⟩
  rw [life_of_changed genuine quiet.life, owned]
  by_cases here : other.entry = id
  · rw [if_pos here, if_pos here.symm, ← here]
    exact window
  · rw [if_neg here, if_neg (Ne.symm here)]
    exact .untouched

/-- What is pending when a reference has been given up. -/
theorem World.Passes.concluded {other : Peer} {given : Lifecycle} {hooks : List Hook}
    {charge : Counter → Nat} (genuine : world.Genuine other)
    (quiet : (world.concluded other given.tryTeardown).Quiet hooks charge after)
    (pending : given.pendingWrite = (world.life other.entry).pendingWrite) {id : EntryId}
    (live : (after.life id).state ≠ .disposed) : world.Passes id [] after := by
  obtain ⟨acts, _⟩ := quiet.of_concluded
  have life := World.life_of_changed genuine
    (fun id => (quiet.life id).trans (World.life_concluded world _ _ id)) id
  refine .none ?_ ?_
  · rw [World.flows_of_acts acts, List.filterMap_map]
    simp [Function.comp_def, Moment.flow?]
  · rw [life] at live ⊢
    split at live
    · next here => rw [if_pos here, Lifecycle.tryTeardown_pending given live, pending, here]
    · next elsewhere => rw [if_neg elsewhere]

/-- What a grain does to the bytes that are pending. -/
theorem Grain.passes (grain : Grain may world after) (genuine : world.Genuine peer)
    (live : (after.life peer.entry).state ≠ .disposed)
    (undropped : after.drops peer.handle .writeCompleted =
      world.drops peer.handle .writeCompleted) :
    ∃ since, world.Passes peer.entry since after := by
  cases grain with
  | rearranged => exact ⟨[], .none rfl rfl⟩
  | quiet quiet => exact ⟨[], .quiet quiet rfl rfl⟩
  | loosed _ quiet => exact ⟨[], .quiet quiet rfl rfl⟩
  | unreleased _ _ quiet => exact ⟨[], World.Passes.silent (.quiet quiet rfl rfl) rfl⟩
  | asked asking =>
      refine ⟨[], (World.Passes.none rfl rfl).silent ?_⟩
      obtain ⟨_, _, rfl⟩ | ⟨_, _, _, _, rfl⟩ | ⟨_, _, rfl⟩ := Moment.asking_cases asking <;> rfl
  | begun => exact ⟨[], World.Passes.push rfl .untouched⟩
  | ended => exact ⟨[], World.Passes.push rfl .untouched⟩
  | registered inserted quiet =>
      refine ⟨[], .quiet quiet rfl ?_⟩
      obtain ⟨entry, found, _⟩ := genuine
      unfold World.life
      rw [World.entry?_enrolled, if_neg (World.ne_new_of_found found)]
  | called otherGenuine accepts _ _ quiet =>
      exact World.Passes.entered otherGenuine quiet (accepts.window _) rfl
  | @missed _ _ event _ _ otherGenuine misses quiet dropped =>
      refine ⟨[], .quiet quiet rfl ?_⟩
      rw [World.life_of_changed otherGenuine (fun _ => rfl)]
      split
      · next here =>
          have unconfirmed : event.kind ≠ .writeCompleted := by
            intro confirmed
            rw [confirmed, ← genuine.handle_eq otherGenuine here, undropped] at dropped
            exact Nat.lt_irrefl _ dropped
          rw [here, misses.touches_state unconfirmed]
      · rfl
  | opened otherGenuine begun =>
      refine ⟨[], World.Passes.silent (.none rfl ?_) rfl⟩
      rw [World.life_of_changed otherGenuine (fun _ => rfl)]
      split
      · next here => rw [Lifecycle.finishOpen_pending, here]
      · rfl
  | settled otherGenuine given quiet =>
      obtain ⟨_, _, rfl⟩ := Lifecycle.releaseNative_ok given
      exact ⟨[], .concluded otherGenuine quiet rfl live⟩
  | forwarded otherGenuine forwards _ quiet =>
      exact World.Passes.entered otherGenuine quiet forwards.window rfl
  | retained otherGenuine taken quiet =>
      refine ⟨[], World.Passes.silent (.quiet quiet rfl ?_) rfl⟩
      obtain ⟨_, rfl, _⟩ := Lifecycle.retain_ok taken
      rw [World.life_of_changed otherGenuine (fun _ => rfl)]
      split
      · next here => rw [here]
      · rfl
  | released otherGenuine given quiet =>
      obtain ⟨_, _, rfl⟩ := Lifecycle.release_ok given
      exact ⟨[], World.Passes.silent (.concluded otherGenuine quiet rfl live) rfl⟩

theorem Grain.drops_le (grain : Grain may world after) (handle : Handle) (kind : EventKind) :
    world.drops handle kind ≤ after.drops handle kind := by
  have pushed {before : World σ Mark} {moment : Moment Mark} :
      before.drops handle kind ≤ (before.push moment).drops handle kind := by
    rw [World.drops_push]
    exact Nat.le_add_right _ _
  have concluded {peer : Peer} {outcome : Option Teardown × Lifecycle} :
      (world.concluded peer outcome).drops handle kind = world.drops handle kind := by
    obtain ⟨remains, next⟩ := outcome
    cases remains <;> rfl
  cases grain with
  | rearranged => exact Nat.le_refl _
  | asked | begun | ended | opened => exact pushed
  | quiet quiet | loosed _ quiet | registered _ quiet | missed _ _ quiet =>
      exact quiet.drops handle kind
  | called _ _ _ _ quiet | forwarded _ _ _ quiet | retained _ _ quiet | unreleased _ _ quiet =>
      exact Nat.le_trans (quiet.drops handle kind) pushed
  | settled _ _ quiet =>
      rw [← concluded]
      exact quiet.drops handle kind
  | released _ _ quiet =>
      rw [← concluded]
      exact Nat.le_trans (quiet.drops handle kind) pushed

theorem Grain.config (grain : Grain may world after) : after.config = world.config := by
  have concluded {peer : Peer} {outcome : Option Teardown × Lifecycle} :
      (world.concluded peer outcome).config = world.config := by
    obtain ⟨remains, next⟩ := outcome
    cases remains <;> rfl
  cases grain with
  | rearranged | opened | asked | begun | ended => rfl
  | quiet quiet | loosed _ quiet | registered _ quiet | missed _ _ quiet => exact quiet.config
  | called _ _ _ _ quiet | forwarded _ _ _ quiet | retained _ _ quiet | unreleased _ _ quiet =>
      exact quiet.config
  | settled _ _ quiet | released _ _ quiet => exact quiet.config.trans concluded

theorem Grain.flowed (grain : Grain may world after) (genuine : world.Genuine peer)
    (leads : (world.life peer.entry).state.Leads (after.life peer.entry).state) :
    world.Flowed peer after where
  genuine := grain.stride.genuine genuine
  config := grain.config
  drops := grain.drops_le _ _
  leads := leads
  passes := grain.passes genuine

end Grains

/-! ## Runs -/

section Runs

variable [Custodian σ]

/-- Of two worlds that user code sees in a run, the later one goes on from the
earlier one. -/
theorem Observed.flowed {run : World (Watched σ) Mark} (observed : Observed run) (peer : Peer) :
    run.host.seen.Pairwise fun earlier later =>
      earlier.Genuine peer → earlier.Flowed peer later := by
  obtain ⟨config, surroundings, trail⟩ := observed.trail
  have sound := World.Sound.fresh config (surroundings.watched [])
  have step {before after : World (Watched σ) Mark}
      (trail : Trail Truthful (.fresh config (surroundings.watched [])) before)
      (grain : Grain Truthful before after) :
      before.unwatched.Genuine peer → before.unwatched.Flowed peer after.unwatched := by
    intro genuine
    have reflects : (before.life peer.entry).Reflects (before.deeds peer.entry) :=
      trail.path.registration sound (fun _ => .fresh) (fun held reflects => reflects.turn held) _
    have leads := (grain.stride.turn peer.entry).leads ((trail.sound sound).life_held _) reflects
    have flowed : before.Flowed peer after := grain.flowed genuine leads
    exact ⟨flowed.genuine, flowed.config, flowed.drops, flowed.leads, flowed.passes⟩
  exact (trail.notes_ordered (fun earlier later => earlier.Genuine peer →
    earlier.Flowed peer later) rfl (fun first second genuine =>
      (first genuine).trans (second (first genuine).genuine)) step).1

end Runs

/-! ## Calls -/

section Calls

open References

variable {host : Host σ Mark} {data : Bytes} {next : Lifecycle}

/-- What is forwarded is told to the engine before anything else happens. -/
theorem Socket.forwardFor_tells (hostEvolves : host.Evolves) (sound : world.Sound)
    (genuine : world.Genuine peer) {call : EngineCall}
    (forwards : (world.life peer.entry).Forwards world.config.maxPendingWriteBytes call next) :
    let done := (forwardFor host peer call (world.setLife peer.entry next)).2
    done.Sound ∧ ∃ rest, done.deeds peer.entry = world.deeds peer.entry ++ .forwarded call :: rest := by
  intro done
  let calling := (world.setLife peer.entry next).push
    (.engineCalled (some peer.entry) peer.handle call)
  have callingSound : calling.Sound := (Stride.forwarded genuine forwards (.refl _)).sound sound
  have evolves : calling.Evolves done := hostEvolves.engine callingSound peer.handle call
  have told : calling.deeds peer.entry = world.deeds peer.entry ++ [.forwarded call] := by
    rw [World.deeds_push]
    simp only [Moment.deed?, if_true, Option.toList_some]
    rfl
  obtain ⟨rest, grown⟩ := evolves.path.deeds_prefix peer.entry
  exact ⟨evolves.sound callingSound, rest, by rw [← grown, told, List.append_assoc]; rfl⟩

variable [Custodian σ]

/-- A write that is accepted goes to the engine. -/
theorem BridgeCall.write_tells (sound : world.Sound) (genuine : world.Genuine peer)
    (recorded : (world.life peer.entry).recordWrite data.length world.config.maxPendingWriteBytes =
      .ok ((), next)) (behaviour : Behaviour σ) (depth : Nat) :
    ∃ rest, ((BridgeCall.socket peer.entry (.write data)).make behaviour (depth + 1) world).2.deeds
      peer.entry = world.deeds peer.entry ++ .forwarded (.write data) :: rest := by
  let call := BridgeCall.socket peer.entry (.write data)
  let host := behaviour.host (make behaviour depth)
  let called := world.push (.marked (.called call))
  let held := called.engage peer.entry
  have holding : world.Plain held :=
    World.Plain.trans (.push (fun _ => rfl) rfl) (called.plain_engage peer.entry)
  have written : Socket.write host peer data held =
      effect (Socket.forwardFor host peer (.write data)) (held.setLife peer.entry next) :=
    (callBind_of_ok rfl).trans (callBind_of_ok (checked_of_ok recorded))
  obtain ⟨doneSound, rest, told⟩ := Socket.forwardFor_tells (behaviour.host_make_evolves depth)
    (sound.plain holding) (holding.genuine genuine) (.write recorded)
  cases forwarded : Socket.forwardFor host peer (.write data) (held.setLife peer.entry next) with
  | mk outcome done =>
      rw [forwarded] at doneSound told
      obtain ⟨answer, replied⟩ : ∃ answer,
          replyTo (Socket.invoke host peer (.write data)) .ofCount held = (answer, done) := by
        cases outcome with
        | ok result =>
            exact ⟨_, bind_of_ok (callBind_of_ok (written.trans (effect_of_ok forwarded)))⟩
        | error panic =>
            exact ⟨_, bind_of_error (callBind_of_panicked (written.trans (effect_of_error forwarded)))⟩
      obtain ⟨after, ran, plain⟩ := Custody.holding_runs replied doneSound
      have stands : called.Genuine peer := genuine
      have performed : call.perform host called = (answer, after) :=
        (perform_of_genuine stands host _).trans ran
      refine ⟨rest, ?_⟩
      rw [make_succ]
      unfold BridgeCall.replied
      rw [World.deeds_push, performed, plain.deeds, told, holding.deeds]
      exact List.append_nil _

/-- A write that is refused goes nowhere. -/
theorem BridgeCall.write_refused (sound : world.Sound) (genuine : world.Genuine peer)
    {refusal : Refusal} (refused : (world.life peer.entry).recordWrite data.length
      world.config.maxPendingWriteBytes = .error refusal) (behaviour : Behaviour σ) (depth : Nat) :
    let call := BridgeCall.socket peer.entry (.write data)
    let error := refusal.toError peer.handle
    ∃ after, call.make behaviour (depth + 1) world = (.ok (.rejected error), after) ∧
      world.Spared (call.vainly error) (error.counted world.own.metrics) after := by
  intro call error
  let held := (world.push (.marked (.called call))).engage peer.entry
  have unwritten : (held.life peer.entry).recordWrite data.length
    held.config.maxPendingWriteBytes = .error refusal := refused
  obtain ⟨done, rejected⟩ : ∃ done, checked .own peer (Lifecycle.recordWrite data.length
      held.config.maxPendingWriteBytes) held = (.ok (.error error), done) := checked_ends refused
  have written : Socket.write (behaviour.host (make behaviour depth)) peer data held =
      (.ok (.error error), done) := (callBind_of_ok rfl).trans (callBind_of_rejected rejected)
  exact socket_spared sound genuine (callBind_of_rejected written)
    (checked_spared unwritten rejected).2

/-- Which writes and confirmations a connection lets in, whatever the code does
that they lead to. -/
structure World.Gates (world : World σ Mark) (peer : Peer) (limit pending : Nat) : Prop where
  /-- The engine is told of the write. -/
  writes : ∀ data : Bytes, pending = 0 ∨ pending + data.length ≤ limit →
    ∀ (behaviour : Behaviour σ) depth, ∃ rest,
      ((BridgeCall.socket peer.entry (.write data)).make behaviour (depth + 1) world).2.deeds
        peer.entry = world.deeds peer.entry ++ .forwarded (.write data) :: rest
  /-- The write is rejected, and nothing comes of it. -/
  holdsBack : ∀ data : Bytes, ¬ (pending = 0 ∨ pending + data.length ≤ limit) →
    ∀ (behaviour : Behaviour σ) depth,
      let call := BridgeCall.socket peer.entry (.write data)
      let error := BridgeError.writeBackpressure peer.handle pending limit
      ∃ after, call.make behaviour (depth + 1) world = (.ok (.rejected error), after) ∧
        world.Spared [.marked (.called call), .marked (.replied call (.rejected error))]
          world.own.metrics after
  /-- The target is told of the confirmation. -/
  confirms : ∀ byteCount ≤ pending, world.runtime.Works → ∀ (behaviour : Behaviour σ) depth,
    ∃ rest, ((BridgeCall.native peer.handle (.writeCompleted byteCount)).make behaviour
      (depth + 1) world).2.deeds peer.entry =
        world.deeds peer.entry ++ .callback .writeCompleted :: rest
  /-- The confirmation is rejected as one of too many bytes, and nothing comes of
  it. -/
  refuses : ∀ byteCount, pending < byteCount → ∀ (behaviour : Behaviour σ) depth,
    let call := BridgeCall.native peer.handle (.writeCompleted byteCount)
    let error := BridgeError.invariantViolation (some peer.handle)
      (.completionExceeds byteCount pending)
    ∃ after, call.make behaviour (depth + 1) world = (.ok (.rejected error), after) ∧
      world.Spared [.marked (.called call), .marked (.replied call (.rejected error))]
        world.own.metrics.countViolation after

theorem Lifecycle.recordWrite_of_streaming {life : Lifecycle}
    (streaming : life.state.acceptsStreamEvents = true) (byteCount limit : Nat) :
    life.recordWrite byteCount limit =
      if life.pendingWrite = 0 ∨ life.pendingWrite + byteCount ≤ limit then
        .ok ((), { life with pendingWrite := life.pendingWrite + byteCount })
      else .error (.backpressure life.pendingWrite limit) := by
  unfold recordWrite
  rw [if_neg (by simp [streaming])]
  split
  · next beyond => rw [if_neg (by omega)]
  · next within => rw [if_pos (by omega)]

theorem World.gates_of_streaming (sound : world.Sound) (genuine : world.Genuine peer)
    (streaming : (world.life peer.entry).state.acceptsStreamEvents = true) :
    world.Gates peer world.config.maxPendingWriteBytes (world.life peer.entry).pendingWrite := by
  have live := SocketState.ne_disposed_of_not_isClosed
    (SocketState.not_isClosed_of_acceptsStreamEvents streaming)
  have known := sound.peer?_of_genuine genuine live
  obtain ⟨target, pinned⟩ := (sound.life_proper genuine).exists_pin live
  refine ⟨fun data fits behaviour depth => ?_, fun data beyond behaviour depth => ?_,
    fun byteCount owed works behaviour depth => ?_, fun byteCount excess behaviour depth => ?_⟩
  · have recorded := Lifecycle.recordWrite_of_streaming streaming data.length
      world.config.maxPendingWriteBytes
    rw [if_pos fits] at recorded
    exact BridgeCall.write_tells sound genuine recorded behaviour depth
  · have refused := Lifecycle.recordWrite_of_streaming streaming data.length
      world.config.maxPendingWriteBytes
    rw [if_neg beyond] at refused
    exact BridgeCall.write_refused sound genuine refused behaviour depth
  · have accepted := Lifecycle.acceptWriteCompleted_of_streaming streaming pinned byteCount
    rw [if_neg (by omega)] at accepted
    exact BridgeCall.confirmation_told sound known accepted works behaviour depth
  · have refused := Lifecycle.acceptWriteCompleted_of_streaming streaming pinned byteCount
    rw [if_pos excess] at refused
    obtain ⟨after, made, _⟩ := BridgeCall.confirmation_refused sound known refused behaviour depth
    have found : (world.peer? peer.handle).isSome = true := by
      rw [known]
      rfl
    exact ⟨after, made, BridgeCall.make_spared sound (.known found _ fun same => by cases same) made⟩

/-- The pending bytes of a connection are those that have been written and not
been confirmed since nothing was pending, as long as it accepts stream events
and no confirmation has been dropped for want of a context. They are more than
the limit only if they are left of a single write; that was let in as nothing
was pending, and nothing has been written after it. A write is let in where
nothing is pending or it is within the limit, and a confirmation where so many
bytes are pending; what is not let in comes to nothing.

All writes and the limit may be as large as a buffer: no sum of bytes goes
beyond a machine word, and no difference below zero. -/
theorem Observed.backpressure {run : World (Watched σ) Mark} (observed : Observed run)
    {start seen : World σ Mark} (order : [start, seen].Sublist run.host.seen) (peer : Peer)
    (known : start.peer? peer.handle = some peer)
    (empty : (start.life peer.entry).pendingWrite = 0)
    (streaming : (seen.life peer.entry).state.acceptsStreamEvents = true)
    (undropped : seen.drops peer.handle .writeCompleted =
      start.drops peer.handle .writeCompleted) :
    let limit := seen.config.maxPendingWriteBytes
    let life := seen.life peer.entry
    let pending := life.pendingWrite
    seen.Gates peer limit pending ∧
    (∀ byteCount,
      life.acceptWriteCompletedInWords? byteCount = some (life.acceptWriteCompleted byteCount)) ∧
    ∃ since, seen.flows peer.entry = start.flows peer.entry ++ since ∧
      pending + confirmedIn since = writtenIn since ∧
      (limit < pending → Overfull limit since pending) ∧
      (limit ≤ sizeMax → (∀ byteCount, .written byteCount ∈ since → byteCount ≤ sizeMax) →
        pending ≤ sizeMax ∧ ∀ byteCount ≤ sizeMax, pending + byteCount ≤ wordMax ∧
          life.recordWriteInWords? byteCount limit = some (life.recordWrite byteCount limit)) := by
  intro limit life pending
  have live := SocketState.ne_disposed_of_not_isClosed
    (SocketState.not_isClosed_of_acceptsStreamEvents streaming)
  obtain ⟨config, surroundings, trail⟩ := observed.trail
  have noted {world : World σ Mark} (member : world ∈ run.host.seen) : world.Sound := by
    obtain ⟨noted, noting, rfl⟩ := trail.noted rfl member
    have sound := noting.sound (.fresh config _)
    exact ⟨sound.found, sound.bound, sound.proper⟩
  have startSound := noted (order.subset List.mem_cons_self)
  have seenSound := noted (order.subset (List.mem_cons_of_mem _ List.mem_cons_self))
  have flowed : start.Flowed peer seen :=
    (List.pairwise_pair.mp ((observed.flowed peer).sublist order))
      (Registration.genuine_of_peer? startSound known)
  obtain ⟨since, flows, window⟩ := flowed.passes live undropped
  rw [empty, ← flowed.config] at window
  refine ⟨World.gates_of_streaming seenSound flowed.genuine streaming,
    Lifecycle.acceptWriteCompletedInWords?_eq, since, flows, ?_, window.overfull, ?_⟩
  · have balance := window.balance
    rwa [Nat.zero_add] at balance
  · intro limited writes
    have bounded : pending ≤ sizeMax := window.bounded limited writes
    refine ⟨bounded, fun byteCount within => ?_⟩
    have fits : pending + byteCount ≤ wordMax := by
      unfold sizeMax at bounded within
      unfold wordMax
      omega
    exact ⟨fits, Lifecycle.recordWriteInWords?_eq limit fits⟩

end Calls

/-- On a connection with a limit of four bytes ten are written, of which three
are confirmed. -/
def Bystander.crowded : World (Watched Bystander) Mark :=
  Behaviour.silent.watchedInTurn 1
    [.adoptInbound handle ⟨0⟩,
      .native handle (.openRequest ⟨"stream", "near", 1, ""⟩ (.transferable [])),
      .socket ⟨0⟩ (.write (List.replicate 10 0)), .native handle (.writeCompleted 3)]
    (.fresh { maxPendingWriteBytes := 4 } (Surroundings.working.watched []))

/-- Seven bytes are left of the ten, and no more may be written. -/
theorem Observed.backpressure_of_crowded :
    ∃ start seen, [start, seen].Sublist Bystander.crowded.host.seen ∧
      (start.life ⟨0⟩).pendingWrite = 0 ∧ (seen.life ⟨0⟩).pendingWrite = 7 ∧
      Overfull 4 [.written 10, .confirmed 3] 7 ∧ seen.Gates ⟨⟨0⟩, Bystander.handle⟩ 4 7 := by
  let adopted (world : World Bystander Mark) :=
    (world.peer? Bystander.handle, (world.life ⟨0⟩).pendingWrite, world.flows ⟨0⟩,
      world.drops Bystander.handle .writeCompleted)
  let crowded (world : World Bystander Mark) :=
    (world.config.maxPendingWriteBytes, (world.life ⟨0⟩).pendingWrite, world.flows ⟨0⟩,
      world.drops Bystander.handle .writeCompleted, (world.life ⟨0⟩).state.acceptsStreamEvents)
  have early : Bystander.crowded.host.seen[1]?.map adopted =
      some (some ⟨⟨0⟩, Bystander.handle⟩, 0, [], 0) := by decide +kernel
  have late : Bystander.crowded.host.seen[10]?.map crowded =
      some (4, 7, [.written 10, .confirmed 3], 0, true) := by decide +kernel
  obtain ⟨start, first, begins⟩ := Option.map_eq_some_iff.mp early
  obtain ⟨seen, last, ends⟩ := Option.map_eq_some_iff.mp late
  simp only [adopted, crowded, Prod.mk.injEq] at begins ends
  obtain ⟨known, empty, none_before, undropped⟩ := begins
  obtain ⟨limit, pending, all, undroppedStill, streaming⟩ := ends
  have order : [start, seen].Sublist Bystander.crowded.host.seen := by
    obtain ⟨within, rfl⟩ := List.getElem?_eq_some_iff.mp first
    obtain ⟨_, rfl⟩ := List.getElem?_eq_some_iff.mp last
    have later : Bystander.crowded.host.seen[10] ∈ Bystander.crowded.host.seen.drop 2 :=
      List.mem_iff_getElem.mpr ⟨8, by rw [List.length_drop]; omega, by rw [List.getElem_drop]⟩
    refine (List.cons_sublist_cons.mpr (List.singleton_sublist.mpr later)).trans ?_
    rw [← List.drop_eq_getElem_cons within]
    exact List.drop_sublist _ _
  have observed : Observed Bystander.crowded := .inTurn (.fresh _ _) _ _ _
  obtain ⟨gates, _, since, flows, _, overfull, _⟩ :=
    observed.backpressure order ⟨⟨0⟩, Bystander.handle⟩ known empty streaming
      (undroppedStill.trans undropped.symm)
  rw [pending, limit] at gates overfull
  obtain rfl : [.written 10, .confirmed 3] = since := by
    rw [← all, flows, none_before, List.nil_append]
  exact ⟨start, seen, order, empty, pending, overfull (by decide), gates⟩

end Flows

end TransportBridge
