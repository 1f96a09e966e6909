import TransportBridge.Proofs.Rebuffs
import TransportBridge.Proofs.Unstranded

/-!
Contract: peers that have outlived their registration.

A peer holds its registration and not what its handle stands for. Once the
registration is disposed of, and it never comes back to life, the handle may
stand for another one, and no call on the old peer gets past the lifecycle that
it is checked against. So it reaches neither the engine nor whoever has the
handle now.

Owns: what a peer answers when its registration is closed or disposed of, and
that a peer that a handle does not stand for any more touches nothing.
-/

namespace TransportBridge

variable {σ : Type} {world after : World σ Mark} {peer : Peer}

/-! ## Lifecycles that are disposed of -/

namespace Lifecycle

variable {life : Lifecycle} (disposed : life.state = .disposed)

include disposed

theorem isClosed_of_disposed : life.state.isClosed = true := by
  rw [disposed]
  rfl

theorem markReady_of_disposed : life.markReady = .error (.invalidState .disposed "opened") := by
  simp only [markReady, misplaced, disposed]

theorem checkHandshake_of_disposed :
    life.checkHandshake = .error (.invalidState .disposed "got_http_response") := by
  rw [checkHandshake, if_neg (by simp [disposed]), misplaced, disposed]

theorem recordWrite_of_disposed (byteCount limit : Nat) :
    life.recordWrite byteCount limit = .error (.invalidState .disposed "write") := by
  rw [recordWrite, if_pos (by simp [disposed, SocketState.acceptsStreamEvents]), misplaced, disposed]

theorem acknowledgeReceive_of_disposed (byteCount : Nat) :
    life.acknowledgeReceive byteCount = .error (.invalidState .disposed "completed_receive") := by
  rw [acknowledgeReceive, if_pos (isClosed_of_disposed disposed), misplaced, disposed]

theorem requestClose_of_disposed :
    life.requestClose = .error (.invalidState .disposed "close_requested") := by
  rw [requestClose, if_pos (isClosed_of_disposed disposed), misplaced, disposed]

theorem retain_of_disposed : life.retain = .error (.violation .retainDisposed) := by
  simp only [retain, disposed, violated]

theorem release_of_disposed : life.release = .error (.violation .releaseDisposed) := by
  rw [release, if_pos disposed, violated]

end Lifecycle

/-! ## Registrations that are closed -/

/-- Neither a callback nor a call of the engine. -/
def Deed.isQuiet : Deed → Bool
  | .callback _ | .forwarded _ => false
  | .retained _ | .release _ => true

/-- A registration that is closed stays so, and neither its target nor the engine
hears of it. -/
theorem Turn.quiet_of_closed {life next : Lifecycle} {deeds told : List Deed}
    (turn : Turn life deeds next told) (held : life.Held) (closed : life.state.isClosed = true) :
    next.state.isClosed = true ∧ ∃ rest, told = deeds ++ rest ∧
      ∀ deed ∈ rest, deed.isQuiet = true := by
  have silent : ∃ rest, deeds = deeds ++ rest ∧ ∀ deed ∈ rest, deed.isQuiet = true :=
    ⟨[], (List.append_nil _).symm, fun _ told => absurd told List.not_mem_nil⟩
  have quiet {deed : Deed} (own : deed.isQuiet = true) :
      ∃ rest, deeds ++ [deed] = deeds ++ rest ∧ ∀ deed ∈ rest, deed.isQuiet = true :=
    ⟨[deed], rfl, fun _ told => List.mem_singleton.mp told ▸ own⟩
  have torn {given : Lifecycle} (same : given.state = life.state) :
      given.tryTeardown.2.state.isClosed = true := by
    rcases Lifecycle.tryTeardown_cases given with ⟨_, _, torn⟩ | ⟨_, torn⟩ <;> rw [torn]
    · rfl
    · rw [same]
      exact closed
  -- A turn that tells somebody asks for a registration that is not closed.
  cases turn with
  | idle => exact ⟨closed, silent⟩
  | registered => cases closed
  | called accepts => cases accepts.keeps.live.symm.trans closed
  | missed misses => cases (misses.keeps held).1.live.symm.trans closed
  | opened =>
      refine ⟨?_, silent⟩
      rcases Lifecycle.finishOpen_cases life with ⟨opening, _, _⟩ | ⟨_, finished⟩
      · rw [opening] at closed
        cases closed
      · rw [finished]
        exact closed
  | settled given =>
      obtain ⟨_, _, rfl⟩ := Lifecycle.releaseNative_ok given
      exact ⟨torn rfl, silent⟩
  | forwarded forwards => cases forwards.keeps.1.live.symm.trans closed
  | retained taken => cases (Lifecycle.retain_ok taken).1.symm.trans closed
  | released given =>
      obtain ⟨_, _, rfl⟩ := Lifecycle.release_ok given
      exact ⟨torn rfl, quiet rfl⟩
  | unreleased => exact ⟨closed, quiet rfl⟩

theorem Path.quiet_of_closed {id : EntryId} (path : Path world after) (sound : world.Sound)
    (closed : (world.life id).state.isClosed = true) :
    (after.life id).state.isClosed = true ∧ ∃ rest, after.deeds id = world.deeds id ++ rest ∧
      ∀ deed ∈ rest, deed.isQuiet = true := by
  let quiet (reached : World σ Mark) : Prop :=
    (reached.life id).state.isClosed = true ∧ ∃ rest, reached.deeds id = world.deeds id ++ rest ∧
      ∀ deed ∈ rest, deed.isQuiet = true
  have begins : quiet world := ⟨closed, [], by simp, by simp⟩
  have kept : quiet after := path.invariant sound begins fun {before after} sound quiet stride => by
    obtain ⟨closed, rest, told, quietly⟩ := quiet
    obtain ⟨stays, more, grown, quieter⟩ :=
      (stride.turn id).quiet_of_closed (sound.life_held id) closed
    refine ⟨stays, rest ++ more, by rw [grown, told, List.append_assoc], fun deed member => ?_⟩
    exact (List.mem_append.mp member).elim (quietly deed) (quieter deed)
  exact kept

/-! ## What is answered -/

/-- What a peer answers whose registration is disposed of. -/
def SocketCall.staleReply (handle : Handle) : SocketCall → Reply
  | .opened => .rejected (.invalidState handle .disposed "opened")
  | .httpResponse _ _ => .rejected (.invalidState handle .disposed "got_http_response")
  | .write _ => .rejected (.invalidState handle .disposed "write")
  | .completedReceive _ => .rejected (.invalidState handle .disposed "completed_receive")
  | .closeRequest _ _ => .rejected (.invalidState handle .disposed "close_requested")
  | .closed _ => .done
  | .retain => .rejected (.invariantViolation (some handle) .retainDisposed)
  | .release => .rejected (.invariantViolation (some handle) .releaseDisposed)

/-- What a reply leaves of the counters, if nothing else is done. -/
def Reply.counted : Reply → Metrics → Metrics
  | .rejected error, metrics => error.counted metrics
  | _, metrics => metrics

/-- The refusal is all that comes of a check and what would have followed. -/
theorem References.checkedBind_refused {α β : Type} {step : Lifecycle → Lifecycle.Step α}
    {rest : α → Call σ Mark β} {refusal : Refusal}
    (refused : step (world.life peer.entry) = .error refusal) :
    let error := refusal.toError peer.handle
    ∃ after, (checked .own peer step >>= rest) world = (.ok (.error error), after) ∧
      world.Spared [] (error.counted world.own.metrics) after := by
  obtain ⟨after, rejected⟩ : ∃ after, checked .own peer step world =
      (.ok (.error (refusal.toError peer.handle)), after) := checked_ends refused
  exact ⟨after, callBind_of_rejected rejected, (checked_spared refused rejected).2⟩

variable [Custodian σ]

namespace Socket

variable {host : Host σ Mark}

/-- The end of the managed side is told once, and not after the closed event. -/
theorem invoke_closed_ignored
    (ended : (world.life peer.entry).managedClosed = true ∨
      (world.life peer.entry).state.isClosed = true) (error : ErrorRecord) :
    ∃ done, invoke host peer (.closed error) world = (.ok (.ok none), done) ∧
      world.Spared [] world.own.metrics done := by
  have ignored : (world.life peer.entry).markManagedClosed = (false, world.life peer.entry) :=
    if_pos ended
  exact ⟨_, callBind_of_ok (effect_of_ok (closed_ignored ignored)), .note world _⟩

/-- Whatever a peer is asked for whose registration is disposed of, nothing
comes of it. -/
theorem invoke_of_disposed (disposed : (world.life peer.entry).state = .disposed)
    (call : SocketCall) :
    ∃ answer done, invoke host peer call world = (.ok answer, done) ∧
      Reply.ofAnswer .ofCount answer = call.staleReply peer.handle ∧
      world.Spared [] ((call.staleReply peer.handle).counted world.own.metrics) done := by
  have refuses {α : Type} {step : Lifecycle → Lifecycle.Step α} {rest : α → Call σ Mark Unit}
      {refusal : Refusal} (refused : step (world.life peer.entry) = .error refusal) :
      let error := refusal.toError peer.handle
      ∃ done, (do References.checked .own peer step >>= rest; return none :
          Call σ Mark (Option Nat)) world = (.ok (.error error), done) ∧
        world.Spared [] (error.counted world.own.metrics) done := by
    obtain ⟨done, rejected, spared⟩ := References.checkedBind_refused refused
    exact ⟨done, callBind_of_rejected rejected, spared⟩
  cases call with
  | opened =>
      obtain ⟨done, rejected, spared⟩ := refuses (Lifecycle.markReady_of_disposed disposed)
      exact ⟨_, done, rejected, rfl, spared⟩
  | httpResponse status headers =>
      obtain ⟨done, rejected, spared⟩ := refuses (Lifecycle.checkHandshake_of_disposed disposed)
      exact ⟨_, done, rejected, rfl, spared⟩
  | write data =>
      obtain ⟨done, rejected, spared⟩ := References.checkedBind_refused
        (Lifecycle.recordWrite_of_disposed disposed data.length world.config.maxPendingWriteBytes)
      have written : write host peer data world = (.ok (.error _), done) :=
        (callBind_of_ok rfl).trans rejected
      exact ⟨_, done, callBind_of_rejected written, rfl, spared⟩
  | completedReceive byteCount =>
      obtain ⟨done, rejected, spared⟩ :=
        refuses (Lifecycle.acknowledgeReceive_of_disposed disposed byteCount)
      exact ⟨_, done, rejected, rfl, spared⟩
  | closeRequest status message =>
      obtain ⟨done, rejected, spared⟩ := refuses (Lifecycle.requestClose_of_disposed disposed)
      exact ⟨_, done, rejected, rfl, spared⟩
  | closed error =>
      obtain ⟨done, ignored, spared⟩ :=
        invoke_closed_ignored (.inr (Lifecycle.isClosed_of_disposed disposed)) error
      exact ⟨_, done, ignored, rfl, spared⟩
  | retain =>
      obtain ⟨done, rejected, spared⟩ :=
        References.checkedBind_refused (Lifecycle.retain_of_disposed disposed)
      exact ⟨_, done, rejected, rfl, spared⟩
  | release =>
      obtain ⟨done, rejected, spared⟩ := refuses (Lifecycle.release_of_disposed disposed)
      exact ⟨_, done, rejected, rfl, spared⟩

end Socket

/-- A close that is not the first, or comes after the closed event, is answered,
and nothing comes of it. -/
theorem BridgeCall.closed_ignored (sound : world.Sound) (genuine : world.Genuine peer)
    (ended : (world.life peer.entry).managedClosed = true ∨
      (world.life peer.entry).state.isClosed = true)
    (behaviour : Behaviour σ) (depth : Nat) (error : ErrorRecord) :
    let again := BridgeCall.socket peer.entry (.closed error)
    ∃ after, again.make behaviour (depth + 1) world = (.ok .done, after) ∧
      world.Spared [.marked (.called again), .marked (.replied again .done)] world.own.metrics
        after := by
  intro again
  let held := (world.push (.marked (.called again))).engage peer.entry
  have ended' : (held.life peer.entry).managedClosed = true ∨
    (held.life peer.entry).state.isClosed = true := ended
  obtain ⟨done, ignored, spared⟩ := Socket.invoke_closed_ignored ended' error
  exact socket_spared sound genuine ignored spared

/-! ## Peers that a handle does not stand for any more -/

section Reuse

variable {stale current : Peer}

omit [Custodian σ] in
/-- A handle stands for no registration that is disposed of. -/
theorem World.Sound.ne_disposed_of_known (sound : world.Sound)
    (known : world.peer? stale.handle = some current) :
    (world.life current.entry).state ≠ .disposed := by
  obtain ⟨id, bound, rfl⟩ := Option.map_eq_some_iff.mp known
  obtain ⟨entry, found, handle⟩ := sound.found bound
  rw [World.life_of_entry found]
  exact (sound.bound found).mp (handle ▸ bound)

omit [Custodian σ] in
/-- A registration whose handle stands for another is disposed of. -/
theorem World.Sound.disposed_of_superseded (sound : world.Sound) (genuine : world.Genuine stale)
    (known : world.peer? stale.handle = some current) (superseded : current.entry ≠ stale.entry) :
    (world.life stale.entry).state = .disposed := by
  by_contra live
  have stands := sound.peer?_of_genuine genuine live
  cases stands.symm.trans known
  exact superseded rfl

namespace Attained

/-- Stale peers do not touch a handle that is used again. In a world that user
code comes to see, between calls or within them, let a peer be one of a
registration that its handle does not stand for any more. The registration is
disposed of, the handle will never stand for it again, and no callback and no
call of the engine will be made for it. Whatever is called on the peer, closing
is answered and all else is refused. The registration that has the handle now is
as it was, with its lifecycle and its pin, and so are the registry and the
targets; nobody is called. -/
theorem stale_touches_nothing (attained : Attained world) (genuine : world.Genuine stale)
    (known : world.peer? stale.handle = some current) (superseded : current.entry ≠ stale.entry) :
    (world.life stale.entry).state = .disposed ∧
    (∀ later, Onward world later →
      (∀ next, later.peer? stale.handle = some next → next.entry ≠ stale.entry) ∧
      ∃ rest, later.deeds stale.entry = world.deeds stale.entry ++ rest ∧
        ∀ deed ∈ rest, deed.isQuiet = true) ∧
    ∀ (behaviour : Behaviour σ) depth call,
      let request := BridgeCall.socket stale.entry call
      let reply := call.staleReply stale.handle
      ∃ after, request.make behaviour (depth + 1) world = (.ok reply, after) ∧
        world.Spared [.marked (.called request), .marked (.replied request reply)]
          (reply.counted world.own.metrics) after ∧
        after.life current.entry = world.life current.entry ∧
        after.peer? stale.handle = some current ∧ after.host = world.host := by
  have disposed := attained.sound.disposed_of_superseded genuine known superseded
  refine ⟨disposed, fun later onward => ?_, fun behaviour depth call => ?_⟩
  · have path := onward.path attained.sound
    refine ⟨fun next stands same => ?_,
      (path.quiet_of_closed attained.sound (Lifecycle.isClosed_of_disposed disposed)).2⟩
    refine (path.sound attained.sound).ne_disposed_of_known stands ?_
    rw [same]
    exact path.disposed attained.sound (attained.reflects stale.entry) disposed
  · intro request reply
    let held := (world.push (.marked (.called request))).engage stale.entry
    have spent : (held.life stale.entry).state = .disposed := disposed
    obtain ⟨answer, done, invoked, told, spared⟩ := Socket.invoke_of_disposed spent call
    obtain ⟨after, made, left⟩ := BridgeCall.socket_spared attained.sound genuine invoked spared
    rw [told] at made left
    refine ⟨after, made, left, ?_⟩
    obtain ⟨_⟩ := left
    exact ⟨rfl, known, rfl⟩

/-- A handle is used for the third time, and a peer of its first use releases a
reference. -/
theorem stale_of_used_again :
    let opening : NativeEvent := .openRequest ⟨"stream", "near", 1, ""⟩ (.transferable [])
    let world := Behaviour.silent.inTurn 1
      [.adoptInbound Bystander.handle ⟨0⟩, .native Bystander.handle opening,
        .native Bystander.handle (.closed 6 1000 []), .adoptInbound Bystander.handle ⟨1⟩,
        .native Bystander.handle opening, .native Bystander.handle (.closed 6 1000 []),
        .adoptInbound Bystander.handle ⟨2⟩] Bystander.start
    let request := BridgeCall.socket ⟨0⟩ .release
    let error : BridgeError := .invariantViolation (some Bystander.handle) .releaseDisposed
    ∃ after, request.make .silent 1 world = (.ok (.rejected error), after) ∧
      world.Spared [.marked (.called request), .marked (.replied request (.rejected error))]
        world.own.metrics.countViolation after ∧
      (after.life ⟨2⟩).pin = some ⟨2⟩ := by
  intro opening world request error
  have attained : Attained world := (Bystander.reachable_inTurn _ _ _).attained
  have named : (world.entry? ⟨0⟩).map Entry.handle = some Bystander.handle := by decide +kernel
  have genuine : world.Genuine ⟨⟨0⟩, Bystander.handle⟩ := Option.map_eq_some_iff.mp named
  have known : world.peer? Bystander.handle = some ⟨⟨2⟩, Bystander.handle⟩ := by decide +kernel
  obtain ⟨_, _, answers⟩ := attained.stale_touches_nothing genuine known (by decide)
  obtain ⟨after, made, spared, same, _⟩ := answers .silent 0 .release
  refine ⟨after, made, spared, ?_⟩
  rw [same]
  decide +kernel

end Attained

end Reuse

end TransportBridge
