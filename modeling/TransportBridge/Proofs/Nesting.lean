import TransportBridge.Proofs.HookLedger

/-!
Contract: how the calls under way go on, one step at a time.

The innermost call does something by itself, or a call begins within it, or it
ends. What it does is what a call of its kind does: only the report of an open
request tells of one, and the engine is called for a connection by the call on
that connection that asks for it.

Owns: these steps, that every grain consists of them, and what they leave of a
lifecycle's flags.

Does not own: what follows for a registration.
-/

namespace TransportBridge

/-! ## Flags -/

namespace Lifecycle

variable {life next : Lifecycle}

/-- Neither of the two flags that make a connection open is changed. -/
structure SameFlags (life next : Lifecycle) : Prop where
  dispatched : next.openDispatched = life.openDispatched
  ready : next.managedReady = life.managedReady

theorem Accepts.sameFlags {event : SocketEvent} {target : TargetId}
    (accepts : life.Accepts event target next) : life.SameFlags next := by
  rw [accepts.frame]
  exact ⟨rfl, rfl⟩

theorem Misses.sameFlags {event : SocketEvent} (misses : life.Misses event next) :
    life.SameFlags next := by
  rw [misses.frame]
  exact ⟨rfl, rfl⟩

theorem sameFlags_tryTeardown (life : Lifecycle) : life.SameFlags life.tryTeardown.2 := by
  rw [tryTeardown_frame]
  exact ⟨rfl, rfl⟩

theorem sameFlags_of_releaseNative {outcome : Option Teardown × Lifecycle}
    (given : life.releaseNative = .ok outcome) : life.SameFlags outcome.2 := by
  obtain ⟨_, _, rfl⟩ := releaseNative_ok given
  obtain ⟨dispatched, ready⟩ := sameFlags_tryTeardown { life with nativeRef := false }
  exact ⟨dispatched, ready⟩

theorem sameFlags_of_release {outcome : Option Teardown × Lifecycle}
    (given : life.release = .ok outcome) : life.SameFlags outcome.2 := by
  obtain ⟨_, _, rfl⟩ := release_ok given
  obtain ⟨dispatched, ready⟩ :=
    sameFlags_tryTeardown { life with managedRefs := life.managedRefs - 1 }
  exact ⟨dispatched, ready⟩

/-- Only a confirmation makes a connection ready. -/
theorem Forwards.flags {limit : Nat} {call : EngineCall} (forwards : life.Forwards limit call next) :
    next.openDispatched = life.openDispatched ∧
      (call ≠ .opened → next.managedReady = life.managedReady) := by
  cases forwards with
  | opened marked =>
      rcases markReady_ok marked with ⟨_, _, _, rfl⟩ | ⟨_, _, rfl⟩
      · exact ⟨rfl, fun other => (other rfl).elim⟩
      · exact ⟨rfl, fun _ => rfl⟩
  | httpResponse checked =>
      obtain ⟨_, rfl⟩ := checkHandshake_ok checked
      exact ⟨rfl, fun _ => rfl⟩
  | write recorded =>
      obtain ⟨_, _, rfl⟩ := recordWrite_ok recorded
      exact ⟨rfl, fun _ => rfl⟩
  | completedReceive acknowledged =>
      obtain ⟨_, _, _, rfl⟩ := acknowledgeReceive_ok acknowledged
      exact ⟨rfl, fun _ => rfl⟩
  | closeRequest requested =>
      obtain ⟨_, rfl⟩ := requestClose_ok requested
      exact ⟨rfl, fun _ => rfl⟩
  | closed marked =>
      rcases markManagedClosed_cases life with ⟨_, _, taken⟩ | ⟨_, taken⟩
      · rw [taken] at marked
        cases marked
        exact ⟨rfl, fun _ => rfl⟩
      · rw [taken] at marked
        cases marked

theorem finishOpen_openDispatched (life : Lifecycle) :
    life.finishOpen.2.openDispatched = true := by
  rw [finishOpen_frame]

end Lifecycle

/-! ## Steps -/

section Steps

variable {σ : Type} {world middle after : World σ Mark}

/-- The open request of each registration is as far as before. -/
def World.SameDispatch (world after : World σ Mark) : Prop :=
  ∀ id, (after.life id).openDispatched = (world.life id).openDispatched

/-- What a call may do by itself. -/
def World.Permits (world : World σ Mark) : Moment Mark → Prop
  | .callback peer _ (.openRequest _ _) _ =>
    (∃ frame outer, world.reading.frames = frame :: outer ∧ frame.call.isOpening = true) ∧
      .callback .openRequest ∉ world.deeds peer.entry ∧
      (world.life peer.entry).openDispatched = false
  | .engineCalled (some id) _ call => world.Asks id call
  | _ => True

/-- No call begins or ends with a call of the engine. -/
theorem Mark.deed?_ne_forwarded (mark : Mark) (id : EntryId) (call : EngineCall) :
    mark.deed? id ≠ some (.forwarded call) := by
  unfold Mark.deed?
  split <;> (try split) <;> nofun

theorem Moment.deed?_eq_forwarded {moment : Moment Mark} {id : EntryId} {call : EngineCall} :
    moment.deed? id = some (.forwarded call) ↔
      ∃ handle, moment = .engineCalled (some id) handle call := by
  refine ⟨fun told => ?_, ?_⟩
  swap
  · rintro ⟨handle, rfl⟩
    exact if_pos rfl
  cases moment with
  | engineCalled source handle asked =>
      obtain ⟨rfl, same⟩ := Option.ite_none_right_eq_some.mp told
      cases same
      exact ⟨handle, rfl⟩
  | callback => cases (Option.ite_none_right_eq_some.mp told).2
  | marked mark => exact absurd told (mark.deed?_ne_forwarded id call)
  | _ => cases told

/-- One step of the calls under way. -/
inductive World.Proceeds : World σ Mark → World σ Mark → Prop where
  | goesOn {world after : World σ Mark} {more : List (Moment Mark)}
      (frames : after.reading.frames = Frame.extend more world.reading.frames)
      (ended : after.reading.ended = world.reading.ended)
      (permitted : ∀ moment ∈ more, world.Permits moment)
      (forwarded : ∀ id call, .forwarded call ∈ after.deeds id ↔
        .forwarded call ∈ world.deeds id ∨ ∃ handle, .engineCalled (some id) handle call ∈ more)
      (dispatch : world.SameDispatch after) : Proceeds world after
  | begins (world : World σ Mark) (call : BridgeCall) :
      Proceeds world (world.push (.marked (.called call)))
  | ends {world : World σ Mark} {frame : Frame} {outer : List Frame} {reply : Reply}
      (frames : world.reading.frames = frame :: outer)
      (unopened : frame.call.isOpening = true → reply ≠ .done)
      (heard : ∀ id, frame.call = .socket id .opened →
        frame.own = [] ∨ reply = .done ∨ ∃ panic, reply = .panicked panic)
      (confirmed : ∀ id, frame.call = .socket id .opened → reply = .done →
        .forwarded .opened ∈ world.deeds id) :
      Proceeds world (world.push (.marked (.replied frame.call reply)))
  | opened {world : World σ Mark} {frame : Frame} {outer : List Frame} {peer : Peer}
      (genuine : world.Genuine peer) (frames : world.reading.frames = frame :: outer)
      (opening : frame.call.isOpening = true) (opens : frame.Opens peer.entry)
      (fair : Ended.Fair { frame with reply := .done }) :
      Proceeds world ((world.setLife peer.entry (world.life peer.entry).finishOpen.2).push
        (.marked (.replied frame.call .done)))

/-- Any number of steps. -/
abbrev World.Progresses : World σ Mark → World σ Mark → Prop :=
  Relation.ReflTransGen World.Proceeds

namespace World

theorem SameDispatch.of_life (lives : ∀ id, after.life id = world.life id) :
    world.SameDispatch after :=
  fun id => congrArg Lifecycle.openDispatched (lives id)

theorem SameDispatch.of_setLife {peer : Peer} {next : Lifecycle}
    (same : next.openDispatched = (world.life peer.entry).openDispatched)
    (genuine : world.Genuine peer)
    (lives : ∀ id, after.life id = (world.setLife peer.entry next).life id) :
    world.SameDispatch after := by
  intro id
  obtain ⟨entry, found, _⟩ := genuine
  rw [lives]
  by_cases own : id = peer.entry
  · rw [own, life_setLife_self found, same]
  · rw [life_setLife_of_ne next own]

theorem forwarded_mark (world : World σ Mark) (mark : Mark) (id : EntryId) (call : EngineCall) :
    .forwarded call ∈ (world.push (.marked mark)).deeds id ↔ .forwarded call ∈ world.deeds id := by
  have untold : .forwarded call ∉ (Moment.deed? id (.marked mark)).toList := by
    rw [Option.mem_toList]
    exact mark.deed?_ne_forwarded id call
  rw [deeds_push, List.mem_append]
  exact or_iff_left untold

/-- What a call does by itself is read as its own. -/
theorem reading_own {more : List (Moment Mark)} (acts : after.acts = world.acts ++ more)
    (own : ∀ moment ∈ more, moment.isOwn = true) :
    after.reading.frames = Frame.extend more world.reading.frames ∧
      after.reading.ended = world.reading.ended := by
  rw [reading_of_acts acts]
  exact Reading.frames_foldl _ own

/-- The call does nothing that it would need leave for. -/
theorem Proceeds.of_hooks {hooks : List Hook}
    (acts : after.acts = world.acts ++ hooks.map .hookRan)
    (deeds : ∀ id, after.deeds id = world.deeds id) (dispatch : world.SameDispatch after) :
    world.Proceeds after := by
  obtain ⟨frames, ended⟩ := reading_own acts (Moment.isOwn_hookRan hooks)
  refine .goesOn frames ended (fun moment member => ?_) (fun id call => ?_) dispatch
  · obtain ⟨_, _, rfl⟩ := List.mem_map.mp member
    trivial
  · rw [deeds]
    simp

/-- Hooks run, and the call does something that is permitted. -/
theorem Proceeds.of_own {hooks : List Hook} {moment : Moment Mark}
    (acts : after.acts = world.acts ++ hooks.map .hookRan)
    (deeds : ∀ id, after.deeds id = world.deeds id) (dispatch : world.SameDispatch after)
    (own : moment.isOwn = true) (permitted : world.Permits moment) :
    world.Proceeds (after.push moment) := by
  have all : (after.push moment).acts = world.acts ++ (hooks.map .hookRan ++ [moment]) := by
    rw [acts_push, acts, List.append_assoc]
    cases moment <;> first | rfl | cases own
  obtain ⟨frames, ended⟩ := reading_own all fun other member => by
    rcases List.mem_append.mp member with ran | last
    · exact Moment.isOwn_hookRan hooks other ran
    · rwa [List.mem_singleton.mp last]
  refine .goesOn frames ended (fun other member => ?_) (fun id call => ?_) dispatch
  · rcases List.mem_append.mp member with ran | last
    · obtain ⟨_, _, rfl⟩ := List.mem_map.mp ran
      trivial
    · rwa [List.mem_singleton.mp last]
  · rw [deeds_push, deeds, List.mem_append, Option.mem_toList, Moment.deed?_eq_forwarded]
    simp [eq_comm]

end World

variable [Custodian σ] {may : Latitude σ}

/-- One lifecycle changes, but not as to its open request. -/
theorem World.Quiet.proceeds {hooks : List Hook} {charge : Counter → Nat} {peer : Peer}
    {next : Lifecycle} (quiet : (world.setLife peer.entry next).Quiet hooks charge after)
    (genuine : world.Genuine peer)
    (same : next.openDispatched = (world.life peer.entry).openDispatched) : world.Proceeds after :=
  .of_hooks quiet.acts quiet.deeds (.of_setLife same genuine quiet.life)

/-- What is left of a registration is given up. -/
theorem World.Quiet.proceeds_concluded {hooks : List Hook} {charge : Counter → Nat} {peer : Peer}
    {outcome : Option Teardown × Lifecycle}
    (quiet : (world.concluded peer outcome).Quiet hooks charge after)
    (genuine : world.Genuine peer)
    (same : outcome.2.openDispatched = (world.life peer.entry).openDispatched) :
    world.Proceeds after := by
  have acts := quiet.acts
  rw [acts_concluded] at acts
  refine .of_hooks acts (fun id => ?_) (.of_setLife same genuine fun id => ?_)
  · rw [quiet.deeds, deeds_concluded]
  · rw [quiet.life, life_concluded]

omit [Custodian σ] in
/-- A call on a connection that is no confirmation ends. -/
theorem World.Closes.proceeds {id : EntryId} {call : SocketCall} {reply : Reply}
    (closes : world.Closes (.socket id call) reply) (other : call ≠ .opened) :
    world.Proceeds (world.push (.marked (.replied (.socket id call) reply))) := by
  obtain ⟨frame, outer, frames, made, _⟩ := closes
  rw [← made]
  refine .ends frames (fun opening => ?_) (fun _ confirming => ?_) fun _ confirming => ?_
  · rw [made] at opening
    cases opening
  all_goals exact (other (BridgeCall.socket.inj (made.symm.trans confirming)).2).elim

/-- Every grain consists of steps of the calls under way. -/
theorem Grain.progresses (grain : Grain may world after)
    (reflects : ∀ id, (world.life id).Reflects (world.deeds id))
    (known : ∀ id, (world.life id).managedReady = true ∨ (world.life id).state = .opened →
      .forwarded .opened ∈ world.deeds id) : world.Progresses after := by
  cases grain with
  | rearranged =>
      have acts : world.acts = world.acts ++ ([] : List Hook).map .hookRan :=
        (List.append_nil _).symm
      exact .single (.of_hooks acts (fun _ => rfl) fun _ => rfl)
  | quiet quiet => exact .single (.of_hooks quiet.acts quiet.deeds (.of_life quiet.life))
  | @asked moment asking =>
      have asked : moment.isOwn = true ∧ world.Permits moment := by
        obtain ⟨_, _, rfl⟩ | ⟨_, _, _, _, rfl⟩ | ⟨_, _, rfl⟩ := Moment.asking_cases asking <;>
          exact ⟨rfl, trivial⟩
      have acts : world.acts = world.acts ++ ([] : List Hook).map .hookRan :=
        (List.append_nil _).symm
      exact .single (.of_own acts (fun _ => rfl) (fun _ => rfl) asked.1 asked.2)
  | loosed _ quiet => exact .single (.of_hooks quiet.acts quiet.deeds (.of_life quiet.life))
  | begun call => exact .single (.begins world call)
  | ended closes _ _ unopened confirms =>
      obtain ⟨frame, outer, frames, rfl, _⟩ := closes
      refine .single (.ends frames unopened (fun id confirming => ?_) fun id confirming done => ?_)
      · refine (confirms id confirming).heard frame ?_
        rw [frames]
        rfl
      · exact ((confirms id confirming).confirmed done).elim (fun told => told) (known id)
  | registered inserted quiet =>
      refine .single (.of_hooks quiet.acts quiet.deeds fun id => ?_)
      rw [quiet.life, World.life_enrolled]
      split
      · next new => rw [new, World.life_of_absent (World.entry?_new world)]
      · rfl
  | @called _ peer event _ _ _ genuine accepts _ reports quiet attached =>
      refine .single (.of_own quiet.acts quiet.deeds
        (.of_setLife accepts.sameFlags.dispatched genuine quiet.life) rfl ?_)
      cases event with
      | openRequest address options =>
          obtain ⟨frame, outer, frames, call, _⟩ := reports
          have begins := (reflects peer.entry).unopened_of_accepts accepts rfl
          have unbegun : .callback .openRequest ∉ world.deeds peer.entry := by
            rw [← mem_callbacksIn, begins]
            exact List.not_mem_nil
          refine ⟨⟨frame, outer, frames, by rw [call]; rfl⟩, unbegun, ?_⟩
          exact Bool.eq_false_iff.mpr fun dispatched =>
            unbegun ((reflects peer.entry).dispatched dispatched)
      | _ => trivial
  | missed genuine misses quiet =>
      exact .single (quiet.proceeds genuine misses.sameFlags.dispatched)
  | opened genuine begun tells closes =>
      obtain ⟨frame, outer, frames, opens⟩ := tells
      obtain ⟨_, _, same, made, fair⟩ := closes
      obtain ⟨rfl, rfl⟩ := List.cons.inj (frames.symm.trans same)
      rw [← made]
      exact .single (.opened genuine frames (by rw [made]; rfl) opens fair)
  | settled genuine given quiet =>
      have same := Lifecycle.sameFlags_of_releaseNative given
      exact .single (quiet.proceeds_concluded genuine same.dispatched)
  | forwarded genuine forwards asks quiet =>
      exact .single (.of_own quiet.acts quiet.deeds
        (.of_setLife forwards.flags.1 genuine quiet.life) rfl asks)
  | retained genuine taken quiet closes =>
      obtain ⟨_, rfl, _⟩ := Lifecycle.retain_ok taken
      exact .head (quiet.proceeds genuine rfl) (.single (closes.proceeds nofun))
  | released genuine given quiet closes =>
      have same := Lifecycle.sameFlags_of_release given
      exact .head (quiet.proceeds_concluded genuine same.dispatched)
        (.single (closes.proceeds nofun))
  | unreleased genuine refused quiet closes =>
      exact .head (.of_hooks quiet.acts quiet.deeds (.of_life quiet.life))
        (.single (closes.proceeds nofun))

end Steps

end TransportBridge
