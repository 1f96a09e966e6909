import TransportBridge.Proofs.Openings
import TransportBridge.Proofs.StateOrder

/-!
Contract: a connection is open when both sides have said so, in any order.

The callback of the open request returns, and the managed side confirms. The
one may come before the other or within it, and each leaves a flag for the
other to find. Attempts that fail leave both flags as they were.

Owns: what the flags tell of the deeds and of the calls of a run, and the state
that follows as long as no close has been accepted.
-/

namespace TransportBridge

/-! ## Flags and deeds -/

/-- A close has been accepted, from either side. -/
def Deed.closes : Deed → Bool
  | .callback .closeRequest | .callback .closed => true
  | deed => deed.asksToClose

/-- The flag of the managed side is up when the engine has heard of it, and the
state is that of the two flags until a close is accepted. -/
structure Lifecycle.Meets (life : Lifecycle) (deeds : List Deed) : Prop where
  ready : life.managedReady = true ↔ .forwarded .opened ∈ deeds
  once : deeds.count (.forwarded .opened) ≤ 1
  begun : .forwarded .opened ∈ deeds → .callback .openRequest ∈ deeds
  opened : life.state = .opened → life.managedReady = true
  state : (∀ deed ∈ deeds, deed.closes = false) → life.state =
    if .callback .openRequest ∈ deeds then
      if life.openDispatched = true ∧ life.managedReady = true then .opened else .opening
    else .created

namespace Lifecycle.Meets

variable {life next : Lifecycle} {deeds : List Deed}

theorem fresh : Meets {} [] where
  ready := by simp
  once := Nat.zero_le _
  begun := nofun
  opened := nofun
  state _ := rfl

/-- Deeds that neither open a connection nor confirm that it is open. -/
def Apart (more : List Deed) : Prop :=
  ∀ deed ∈ more, deed ≠ .forwarded .opened ∧ deed ≠ .callback .openRequest

theorem apart_singleton {deed : Deed} (confirmed : deed ≠ .forwarded .opened)
    (opening : deed ≠ .callback .openRequest) : Apart [deed] :=
  List.forall_mem_singleton.mpr ⟨confirmed, opening⟩

theorem apart_callback {event : EventKind} (other : event ≠ .openRequest) :
    Apart [.callback event] :=
  apart_singleton Deed.noConfusion fun same => other (Deed.callback.inj same)

/-- What does not move the state, and is no part of the opening. -/
theorem of_same (meets : life.Meets deeds) (flags : life.SameFlags next)
    (same : next.state = life.state) {more : List Deed} (apart : Apart more) :
    next.Meets (deeds ++ more) := by
  have confirmed : .forwarded .opened ∉ more := fun member => (apart _ member).1 rfl
  have opening : .callback .openRequest ∉ more := fun member => (apart _ member).2 rfl
  refine ⟨?_, ?_, ?_, ?_, fun unclosed => ?_⟩
  · simpa [flags.ready, confirmed] using meets.ready
  · rw [List.count_append, List.count_eq_zero_of_not_mem confirmed]
    exact meets.once
  · simpa [confirmed, opening] using meets.begun
  · rw [same, flags.ready]
    exact meets.opened
  · have before := meets.state fun deed member => unclosed deed (List.mem_append_left _ member)
    simpa [same, flags.ready, flags.dispatched, opening] using before

/-- What closes. -/
theorem of_closing (meets : life.Meets deeds) (flags : life.SameFlags next) {deed : Deed}
    (closing : deed.closes = true) (unopened : next.state ≠ .opened) :
    next.Meets (deeds ++ [deed]) := by
  have confirmed : deed ≠ .forwarded .opened := by
    rintro rfl
    cases closing
  have opening : deed ≠ .callback .openRequest := by
    rintro rfl
    cases closing
  refine ⟨?_, ?_, ?_, fun opened => (unopened opened).elim, fun unclosed => ?_⟩
  · simpa [flags.ready, confirmed.symm] using meets.ready
  · have absent : .forwarded .opened ∉ [deed] := by simpa using confirmed.symm
    rw [List.count_append, List.count_eq_zero_of_not_mem absent]
    exact meets.once
  · simpa [confirmed.symm, opening.symm] using meets.begun
  · have open_ := unclosed deed (List.mem_append_right _ (List.mem_singleton_self _))
    rw [closing] at open_
    cases open_

theorem of_accepts (meets : life.Meets deeds) (reflects : life.Reflects deeds)
    {event : SocketEvent} {target : TargetId} (accepts : life.Accepts event target next) :
    next.Meets (deeds ++ [.callback event.kind]) := by
  have flags := accepts.sameFlags
  cases accepts with
  | openRequest begun =>
      obtain ⟨created, _, rfl⟩ := beginOpen_ok begun
      have unbegun : .callback .openRequest ∉ deeds := by
        rw [← mem_callbacksIn, reflects.created created]
        exact List.not_mem_nil
      have undispatched : life.openDispatched = false :=
        Bool.eq_false_iff.mpr fun dispatched => unbegun (reflects.dispatched dispatched)
      have unconfirmed : .forwarded .opened ∉ deeds := fun told => unbegun (meets.begun told)
      refine ⟨?_, ?_, ?_, fun opened => ?_, fun _ => ?_⟩
      · simpa [SocketEvent.kind] using meets.ready
      · rw [List.count_append, List.count_eq_zero_of_not_mem unconfirmed]
        simp [SocketEvent.kind]
      · simp [SocketEvent.kind]
      · cases opened
      · simp [SocketEvent.kind, undispatched]
  | writeCompleted accepted =>
      obtain ⟨_, _, _, rfl⟩ := acceptWriteCompleted_ok accepted
      exact meets.of_same flags rfl (apart_callback (by simp [SocketEvent.kind]))
  | received accepted =>
      obtain ⟨_, _, rfl⟩ := acceptReceived_ok accepted
      exact meets.of_same flags rfl (apart_callback (by simp [SocketEvent.kind]))
  | closeRequest accepted =>
      obtain ⟨_, _, _, rfl⟩ := acceptCloseRequest_ok accepted
      exact meets.of_closing flags rfl (by simp)
  | closed begun =>
      obtain ⟨_, _, _, rfl⟩ := beginClose_ok begun
      exact meets.of_closing flags rfl (by simp)

theorem of_forwards (meets : life.Meets deeds) (reflects : life.Reflects deeds) {limit : Nat}
    {call : EngineCall} (forwards : life.Forwards limit call next) :
    next.Meets (deeds ++ [.forwarded call]) := by
  have flags := forwards.flags
  cases forwards with
  | opened marked =>
      rcases markReady_ok marked with ⟨_, opening, unready, rfl⟩ | ⟨unforwarded, _⟩
      · have begun := reflects.opened (.inl opening)
        have unconfirmed : .forwarded .opened ∉ deeds := by
          rw [← meets.ready, unready]
          exact Bool.false_ne_true
        refine ⟨by simp, ?_, fun _ => List.mem_append_left _ begun, fun _ => rfl, fun _ => ?_⟩
        · rw [List.count_append, List.count_eq_zero_of_not_mem unconfirmed]
          simp
        · simp [begun]
      · cases unforwarded
  | httpResponse checked =>
      obtain ⟨_, rfl⟩ := checkHandshake_ok checked
      exact meets.of_same ⟨flags.1, flags.2 nofun⟩ rfl (apart_singleton nofun nofun)
  | write recorded =>
      obtain ⟨_, _, rfl⟩ := recordWrite_ok recorded
      exact meets.of_same ⟨flags.1, flags.2 nofun⟩ rfl (apart_singleton nofun nofun)
  | completedReceive acknowledged =>
      obtain ⟨_, _, _, rfl⟩ := acknowledgeReceive_ok acknowledged
      exact meets.of_same ⟨flags.1, flags.2 nofun⟩ rfl (apart_singleton nofun nofun)
  | closeRequest requested =>
      obtain ⟨_, rfl⟩ := requestClose_ok requested
      exact meets.of_closing ⟨flags.1, flags.2 nofun⟩ rfl nofun
  | closed marked =>
      rcases markManagedClosed_cases life with ⟨_, _, taken⟩ | ⟨_, taken⟩
      · rw [taken] at marked
        cases marked
        exact meets.of_closing ⟨flags.1, flags.2 nofun⟩ rfl nofun
      · rw [taken] at marked
        cases marked

/-- The callback of the open request returns. -/
theorem finishOpen (meets : life.Meets deeds) (begun : .callback .openRequest ∈ deeds) :
    life.finishOpen.2.Meets deeds := by
  rcases finishOpen_cases life with ⟨opening, ready, finished⟩ | ⟨kept, finished⟩
  · rw [finished]
    exact ⟨meets.ready, meets.once, meets.begun, fun _ => ready, fun _ => by simp [begun, ready]⟩
  · rw [finished]
    refine ⟨meets.ready, meets.once, meets.begun, meets.opened, fun unclosed => ?_⟩
    have before := meets.state unclosed
    rw [if_pos begun] at before ⊢
    cases ready : life.managedReady with
    | false => simpa [ready] using before
    | true =>
        have moved := kept.resolve_right (by rw [ready]; exact nofun)
        split at before
        · simpa [ready] using before
        · exact (moved before).elim

/-- A closed connection is torn down. -/
theorem tryTeardown (meets : life.Meets deeds) : life.tryTeardown.2.Meets deeds := by
  rcases tryTeardown_cases life with ⟨_, closed, torn⟩ | ⟨_, torn⟩
  · rw [torn]
    refine ⟨meets.ready, meets.once, meets.begun, nofun, fun unclosed => ?_⟩
    have before := meets.state unclosed
    rw [closed] at before
    split at before <;> (try split at before) <;> cases before
  · rw [torn]
    exact meets

theorem turn (meets : life.Meets deeds) (reflects : life.Reflects deeds) (held : life.Held)
    {told : List Deed} (turn : Turn life deeds next told) : next.Meets told := by
  cases turn with
  | idle => exact meets
  | registered => exact ⟨meets.ready, meets.once, meets.begun, nofun, meets.state⟩
  | called accepts => exact meets.of_accepts reflects accepts
  | missed misses =>
      have same := (reflects.same_of_misses held misses).state
      have still := meets.of_same misses.sameFlags same (List.forall_mem_nil _)
      rwa [List.append_nil] at still
  | opened _ begun => exact meets.finishOpen begun
  | settled given =>
      obtain ⟨_, _, rfl⟩ := releaseNative_ok given
      refine tryTeardown ?_
      exact ⟨meets.ready, meets.once, meets.begun, meets.opened, meets.state⟩
  | forwarded forwards => exact meets.of_forwards reflects forwards
  | retained taken =>
      obtain ⟨_, rfl, _⟩ := retain_ok taken
      refine meets.of_same ?_ ?_ (apart_singleton ?_ ?_)
      · exact ⟨rfl, rfl⟩
      · rfl
      all_goals exact nofun
  | released given =>
      obtain ⟨_, _, rfl⟩ := release_ok given
      refine tryTeardown (of_same meets ?_ ?_ (apart_singleton ?_ ?_))
      · exact ⟨rfl, rfl⟩
      · rfl
      all_goals exact nofun
  | unreleased => exact meets.of_same ⟨rfl, rfl⟩ rfl (apart_singleton nofun nofun)

end Lifecycle.Meets

/-! ## Confirmed connections -/

def Moment.opens (id : EntryId) : Moment Mark → Bool
  | .callback peer _ (.openRequest _ _) _ => decide (peer.entry = id)
  | _ => false

theorem Frame.opens_iff {frame : Frame} {id : EntryId} :
    frame.own.any (Moment.opens id) = true ↔ frame.Opens id := by
  rw [List.any_eq_true]
  constructor
  · rintro ⟨moment, own, opens⟩
    unfold Moment.opens at opens
    split at opens
    · exact ⟨_, _, _, _, _, of_decide_eq_true opens, own⟩
    · cases opens
  · rintro ⟨peer, target, address, options, attached, same, own⟩
    exact ⟨_, own, decide_eq_true same⟩

instance (frame : Frame) (id : EntryId) : Decidable (frame.Opens id) :=
  decidable_of_iff _ Frame.opens_iff

section Runs

variable {σ : Type} {world after : World σ Mark} {id : EntryId}

namespace World

/-- A confirmation has returned, or has had the engine called and is in that
call still, or has panicked over it. -/
def Confirmed (world : World σ Mark) (id : EntryId) : Prop :=
  (∃ record ∈ world.reading.ended, record.call = .socket id .opened ∧
    (record.reply = .done ∨ record.Confirms id ∧ ∃ panic, record.reply = .panicked panic)) ∨
  ∃ frame ∈ world.reading.frames, frame.call = .socket id .opened ∧ frame.Confirms id

/-- A connection is confirmed when the engine has been told that it is open. -/
theorem Confirmations.confirmed_iff (confirmations : world.Confirmations id) :
    world.Confirmed id ↔ .forwarded .opened ∈ world.deeds id := by
  constructor
  · rintro (⟨record, member, made, done | ⟨confirms, _⟩⟩ | ⟨frame, member, _, confirms⟩)
    · exact confirmations.told record member made done
    · exact told_of_confirms (mem_ended member) confirms
    · exact told_of_confirms (mem_frames member) confirms
  · intro told
    obtain ⟨record, member, confirms⟩ := confirmations.listed told
    have made := confirmations.asked record member confirms
    rcases List.mem_append.mp member with underWay | ended
    · exact .inr ⟨record, underWay, made, confirms⟩
    · obtain ⟨record, listed, rfl⟩ := List.mem_map.mp ended
      refine .inl ⟨record, listed, made, ?_⟩
      rcases confirmations.heard record listed made with unheard | done | panicked
      · obtain ⟨_, own⟩ := confirms
        rw [unheard] at own
        cases own
      · exact .inl done
      · exact .inr ⟨confirms, panicked⟩

theorem Openings.progresses (openings : world.Openings id) (progress : world.Progresses after) :
    after.Openings id := by
  induction progress with
  | refl => exact openings
  | tail _ step inductionHypothesis => exact inductionHypothesis.proceeds step

theorem Confirmations.progresses (confirmations : world.Confirmations id)
    (progress : world.Progresses after) : after.Confirmations id := by
  induction progress with
  | refl => exact confirmations
  | tail _ step inductionHypothesis => exact inductionHypothesis.proceeds step

theorem Openings.fresh (config : Config) (surroundings : Surroundings σ) (id : EntryId) :
    (World.fresh config surroundings).Openings id where
  called := List.forall_mem_nil _
  single := .nil
  pending := List.forall_mem_nil _
  returned := List.forall_mem_nil _

theorem Confirmations.fresh (config : Config) (surroundings : Surroundings σ) (id : EntryId) :
    (World.fresh config surroundings).Confirmations id where
  asked := List.forall_mem_nil _
  heard := List.forall_mem_nil _
  told := List.forall_mem_nil _
  listed told := absurd told List.not_mem_nil

/-- The state of a connection on which no close has been accepted. -/
structure Rendezvous (world : World σ Mark) (id : EntryId) : Prop where
  /-- Nothing is confirmed before the callback of the open request begins. -/
  before : .callback .openRequest ∉ world.deeds id →
    (world.life id).state = .created ∧ ¬ world.Confirmed id
  /-- The callback is under way. -/
  inside : ∀ frame ∈ world.reading.frames, frame.Opens id → (world.life id).state = .opening
  /-- The callback has returned. -/
  returned : ∀ record ∈ world.reading.ended, record.Opens id → record.reply = .done →
    (world.Confirmed id → (world.life id).state = .opened) ∧
      (¬ world.Confirmed id → (world.life id).state = .opening)
  once : world.Confirmed id → (world.deeds id).count (.forwarded .opened) = 1
  never : ¬ world.Confirmed id → (world.deeds id).count (.forwarded .opened) = 0

theorem rendezvous_of_unclosed (openings : world.Openings id)
    (confirmations : world.Confirmations id) (meets : (world.life id).Meets (world.deeds id))
    (unclosed : ∀ deed ∈ world.deeds id, deed.closes = false) : world.Rendezvous id := by
  have confirmed := confirmations.confirmed_iff
  have state := meets.state unclosed
  refine ⟨fun unbegun => ?_, fun frame member opens => ?_, fun record member opens done => ?_,
    fun told => ?_, fun untold => ?_⟩
  · rw [if_neg unbegun] at state
    exact ⟨state, fun told => unbegun (meets.begun (confirmed.mp told))⟩
  · rw [if_pos (begun_of_opens (mem_frames member) opens), openings.pending frame member opens]
      at state
    simpa using state
  · rw [if_pos (begun_of_opens (mem_ended member) opens),
      openings.returned record member opens done] at state
    rw [confirmed, ← meets.ready]
    refine ⟨fun ready => ?_, fun unready => ?_⟩
    · simpa [ready] using state
    · simpa [unready] using state
  · have count := List.count_pos_iff.mpr (confirmed.mp told)
    have once := meets.once
    omega
  · exact List.count_eq_zero_of_not_mem fun told => untold (confirmed.mpr told)

end World

/-! ## Runs -/

variable [Custodian σ] {may : Latitude σ} {config : Config} {surroundings : Surroundings σ}

namespace Trail

theorem meets (trail : Trail may (.fresh config surroundings) world) (id : EntryId) :
    (world.life id).Reflects (world.deeds id) ∧ (world.life id).Meets (world.deeds id) := by
  let holds (life : Lifecycle) (deeds : List Deed) : Prop := life.Reflects deeds ∧ life.Meets deeds
  have begins : holds {} [] := ⟨.fresh, .fresh⟩
  exact trail.path.registration (.fresh config surroundings) (fun _ => begins)
    (fun held ⟨reflects, meets⟩ turn => ⟨reflects.turn held turn, meets.turn reflects held turn⟩) id

theorem progresses (trail : Trail may (.fresh config surroundings) world) :
    (World.fresh config surroundings).Progresses world := by
  induction trail with
  | refl => exact .refl
  | tail before grain inductionHypothesis =>
      refine inductionHypothesis.trans (grain.progresses (fun id => (meets before id).1) ?_)
      intro id known
      have meets := (meets before id).2
      exact meets.ready.mp (known.elim (fun ready => ready) meets.opened)

end Trail

/-- As long as no close has been accepted, a connection is open when the
callback of its open request has returned and it has been confirmed, which may
be in the callback or at any time after it, and more than once. Deliveries that
fail do not count. The engine is told once. -/
theorem Observed.rendezvous {run : World (Watched σ) Mark} (observed : Observed run)
    {seen : World σ Mark} (member : seen ∈ run.host.seen) (id : EntryId)
    (unclosed : ∀ deed ∈ seen.deeds id, deed.closes = false) : seen.Rendezvous id := by
  obtain ⟨config, surroundings, trail⟩ := observed.trail
  obtain ⟨noted, noting, rfl⟩ := trail.noted rfl member
  have openings := (World.Openings.fresh config _ id).progresses noting.progresses
  have confirmations := (World.Confirmations.fresh config _ id).progresses noting.progresses
  have rendezvous := World.rendezvous_of_unclosed openings confirmations (noting.meets id).2 unclosed
  exact ⟨rendezvous.before, rendezvous.inside, rendezvous.returned, rendezvous.once,
    rendezvous.never⟩

end Runs

namespace Bystander

/-- A connection with an open request that is not delivered, is repeated, and is
confirmed twice in its callback; and a close that is not delivered. -/
def unclosed : World (Watched Bystander) Mark :=
  let opening :=
    BridgeCall.native handle (.openRequest ⟨"stream", "near", 1, ""⟩ (.transferable []))
  let confirming : Behaviour Bystander := answering fun event =>
    match event with
    | .openRequest _ _ => .call (.socket ⟨0⟩ .opened) fun _ =>
      .call (.socket ⟨0⟩ .opened) fun _ => .finish ()
    | _ => .finish ()
  let met := confirming.watchedInTurn 2 [.adoptInbound handle ⟨0⟩, opening, opening]
    (.fresh {} (Surroundings.failing.watched []))
  confirming.watchedInTurn 2 [.native handle (.closed 1 0 [])]
    (met.amid (Surroundings.failing.watched met.host.seen))

/-- The engine panics when it is told that a connection is open. -/
def startling : Behaviour Bystander where
  callback _ _ _ := .finish ()
  createHandle _ _ := .unwind .other
  engine
    | _, .opened => .unwind .other
    | _, _ => .finish ()
  createTarget _ _ _ _ := .unwind .other

/-- A connection that is confirmed after its open request, and the engine panics
over that. -/
def startled : World (Watched Bystander) Mark :=
  startling.watchedInTurn 1
    [.adoptInbound handle ⟨0⟩,
      .native handle (.openRequest ⟨"stream", "near", 1, ""⟩ (.transferable [])),
      .socket ⟨0⟩ .opened]
    (.fresh {} (Surroundings.working.watched []))

end Bystander

/-- The connection stays open when a close fails. -/
theorem Observed.rendezvous_amid_failures :
    ∃ seen ∈ Bystander.unclosed.host.seen,
      seen.reading.ended.map Ended.reply = [.peer ⟨⟨0⟩, Bystander.handle⟩,
        .rejected (.runtimeAttachment "on_open" (.attachFailed (-1))), .done, .done, .done,
        .rejected (.runtimeAttachment "on_closed" (.attachFailed (-1)))] ∧
      (∀ deed ∈ seen.deeds ⟨0⟩, deed.closes = false) ∧
      (seen.life ⟨0⟩).state = .opened ∧ seen.Rendezvous ⟨0⟩ := by
  have observed : Observed Bystander.unclosed :=
    .inTurn (.rearranged (.inTurn (.fresh _ _) _ _ _) _) _ _ _
  obtain ⟨seen, member, replies, unclosed, opened⟩ : ∃ seen ∈ Bystander.unclosed.host.seen,
      seen.reading.ended.map Ended.reply = [.peer ⟨⟨0⟩, Bystander.handle⟩,
        .rejected (.runtimeAttachment "on_open" (.attachFailed (-1))), .done, .done, .done,
        .rejected (.runtimeAttachment "on_closed" (.attachFailed (-1)))] ∧
      (∀ deed ∈ seen.deeds ⟨0⟩, deed.closes = false) ∧ (seen.life ⟨0⟩).state = .opened := by
    decide +kernel
  exact ⟨seen, member, replies, unclosed, opened, observed.rendezvous member ⟨0⟩ unclosed⟩

/-- A connection may be open although no confirmation of it has returned: the
engine has been called by then, and is in that call, or has panicked in it. -/
theorem Observed.opened_unreturned :
    Observed Bystander.startled ∧
    ∀ calls ∈ [[BridgeCall.socket ⟨0⟩ .opened], []], ∃ seen ∈ Bystander.startled.host.seen,
      seen.reading.frames.map Frame.call = calls ∧
      (∀ deed ∈ seen.deeds ⟨0⟩, deed.closes = false) ∧
      (∃ record ∈ seen.reading.ended, record.Opens ⟨0⟩ ∧ record.reply = .done) ∧
      (∀ frame ∈ seen.reading.frames, ¬ frame.Opens ⟨0⟩) ∧
      (∀ record ∈ seen.reading.ended, record.call = .socket ⟨0⟩ .opened → record.reply ≠ .done) ∧
      (seen.life ⟨0⟩).state ≠ .opening ∧ (seen.deeds ⟨0⟩).count (.forwarded .opened) ≠ 0 :=
  ⟨.inTurn (.fresh _ _) _ _ _, by decide +kernel⟩

end TransportBridge
