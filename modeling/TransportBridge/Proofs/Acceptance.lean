import TransportBridge.Bridge.World
import TransportBridge.Proofs.HeldReferences

/-!
Contract: the steps of a lifecycle by what comes of them, and by what they are
refused for.

An event is accepted for a target, or accepted and then not delivered; a call
of the managed side passes its check and goes on to the engine. Each of these
happens before the closed event only, and leaves the holds alone.

Owns: `Proper`, what holds of the lifecycle of a registration at any time, and
that no step of a proper lifecycle is refused because the books are wrong.
-/

namespace TransportBridge

/-! ## Steps of a lifecycle, by what comes of them -/

namespace Lifecycle

/-- The lifecycle accepts an event for a target. -/
inductive Accepts (life : Lifecycle) : SocketEvent → TargetId → Lifecycle → Prop where
  | openRequest {address : Address} {options : Bytes} {target : TargetId} {next : Lifecycle}
      (begun : life.beginOpen = .ok (target, next)) :
      Accepts life (.openRequest address options) target next
  | writeCompleted {byteCount : Nat} {target : TargetId} {next : Lifecycle}
      (accepted : life.acceptWriteCompleted byteCount = .ok (target, next)) :
      Accepts life (.writeCompleted byteCount) target next
  | received {bytes : Bytes} {retained : Option (NativeBuffer Hook)} {target : TargetId}
      {next : Lifecycle}
      (accepted : life.acceptReceived bytes.length retained = .ok (target, next)) :
      Accepts life (.received bytes) target next
  | closeRequest {status : Int} {text : String} {target : TargetId} {before : SocketState}
      {next : Lifecycle} (accepted : life.acceptCloseRequest = .ok ((target, before), next)) :
      Accepts life (.closeRequest status text) target next
  | closed {error : ErrorRecord} {target : TargetId} {before : SocketState} {next : Lifecycle}
      (begun : life.beginClose = .ok ((target, before), next)) :
      Accepts life (.closed error) target next

/-- What is left of a lifecycle that has accepted an event which was then not
delivered. -/
inductive Misses (life : Lifecycle) : SocketEvent → Lifecycle → Prop where
  | openRequest {address : Address} {options : Bytes} {target : TargetId} {next : Lifecycle}
      (begun : life.beginOpen = .ok (target, next)) :
      Misses life (.openRequest address options) next.abortOpen
  | writeCompleted {byteCount : Nat} {target : TargetId} {next : Lifecycle}
      (accepted : life.acceptWriteCompleted byteCount = .ok (target, next)) :
      Misses life (.writeCompleted byteCount) next
  | received {bytes : Bytes} {retained : Option (NativeBuffer Hook)} {target : TargetId}
      {next : Lifecycle}
      (accepted : life.acceptReceived bytes.length retained = .ok (target, next)) :
      Misses life (.received bytes) (next.abortReceived bytes.length).2
  | closeRequest {status : Int} {text : String} {target : TargetId} {before : SocketState}
      {next : Lifecycle} (accepted : life.acceptCloseRequest = .ok ((target, before), next)) :
      Misses life (.closeRequest status text) (next.abortCloseRequest before)
  | closed {error : ErrorRecord} {target : TargetId} {before : SocketState} {next : Lifecycle}
      (begun : life.beginClose = .ok ((target, before), next)) :
      Misses life (.closed error) (next.abortClose before)

/-- A call of the managed side passes its check and goes on to the engine. The
limit is that on unconfirmed bytes. -/
inductive Forwards (limit : Nat) (life : Lifecycle) : EngineCall → Lifecycle → Prop where
  | opened {next : Lifecycle} (marked : life.markReady = .ok (true, next)) :
      Forwards limit life .opened next
  | httpResponse {status : Int} {headers : Bytes} {next : Lifecycle}
      (checked : life.checkHandshake = .ok ((), next)) :
      Forwards limit life (.httpResponse status headers) next
  | write {data : Bytes} {next : Lifecycle}
      (recorded : life.recordWrite data.length limit = .ok ((), next)) :
      Forwards limit life (.write data) next
  | completedReceive {byteCount : Nat} {freed : List (NativeBuffer Hook)} {next : Lifecycle}
      (acknowledged : life.acknowledgeReceive byteCount = .ok (freed, next)) :
      Forwards limit life (.completedReceive byteCount) next
  | closeRequest {status : Int} {message : String} {next : Lifecycle}
      (requested : life.requestClose = .ok ((), next)) :
      Forwards limit life (.closeRequest status message) next
  | closed {error : ErrorRecord} {next : Lifecycle}
      (marked : life.markManagedClosed = (true, next)) :
      Forwards limit life (.closed error) next

/-- A step of before the closed event that leaves every hold alone, the pin and
the references, and disposes of nothing. -/
structure KeepsHolds (life next : Lifecycle) : Prop where
  live : life.state.isClosed = false
  stays : next.state ≠ .disposed
  pin : next.pin = life.pin
  nativeRef : next.nativeRef = life.nativeRef
  managedRefs : next.managedRefs = life.managedRefs

theorem KeepsHolds.held {life next : Lifecycle} (keeps : life.KeepsHolds next)
    (held : life.Held) : next.Held :=
  .of_native (keeps.nativeRef.trans (held.native keeps.live)) keeps.stays

theorem KeepsHolds.notDisposed {life next : Lifecycle} (keeps : life.KeepsHolds next) :
    life.state ≠ .disposed :=
  SocketState.ne_disposed_of_not_isClosed keeps.live

/-- Where neither state is one of after the closed event. -/
theorem KeepsHolds.of_live {life next : Lifecycle} (live : life.state.isClosed = false)
    (stays : next.state.isClosed = false) (pin : next.pin = life.pin)
    (nativeRef : next.nativeRef = life.nativeRef)
    (managedRefs : next.managedRefs = life.managedRefs) : life.KeepsHolds next :=
  ⟨live, SocketState.ne_disposed_of_not_isClosed stays, pin, nativeRef, managedRefs⟩

/-- An event that brings no bytes moves the state and the account of written bytes,
and nothing else. -/
theorem Accepts.touches {life next : Lifecycle} {event : SocketEvent} {target : TargetId}
    (accepts : life.Accepts event target next) (other : event.kind ≠ .received) :
    next = { life with state := next.state, pendingWrite := next.pendingWrite } := by
  cases accepts with
  | openRequest begun =>
      obtain ⟨_, _, rfl⟩ := beginOpen_ok begun
      rfl
  | writeCompleted accepted =>
      obtain ⟨_, _, _, rfl⟩ := acceptWriteCompleted_ok accepted
      rfl
  | received => exact absurd rfl other
  | closeRequest accepted =>
      obtain ⟨_, _, _, rfl⟩ := acceptCloseRequest_ok accepted
      rfl
  | closed begun =>
      obtain ⟨_, _, _, rfl⟩ := beginClose_ok begun
      rfl

/-- An event moves the state and the accounts of both directions, and nothing
else. -/
theorem Accepts.frame {life next : Lifecycle} {event : SocketEvent} {target : TargetId}
    (accepts : life.Accepts event target next) :
    next = { life with
      state := next.state
      pendingWrite := next.pendingWrite
      unackedReceive := next.unackedReceive
      receives := next.receives } := by
  by_cases incoming : event.kind = .received
  · cases accepts with
    | received accepted =>
        obtain ⟨_, _, rfl⟩ := acceptReceived_ok accepted
        rfl
    | _ => cases incoming
  · rw [accepts.touches incoming]

/-- What takes an acceptance back touches the state alone, unless bytes are
confirmed. -/
theorem Misses.touches_state {life left : Lifecycle} {event : SocketEvent}
    (misses : life.Misses event left) (unconfirmed : event.kind ≠ .writeCompleted) :
    left = { life with state := left.state } := by
  cases misses with
  | openRequest begun =>
      obtain ⟨_, _, rfl⟩ := beginOpen_ok begun
      rcases abortOpen_cases { life with state := .opening } with ⟨_, _, aborted⟩ | ⟨_, aborted⟩ <;>
        rw [aborted]
  | writeCompleted => exact absurd rfl unconfirmed
  | received accepted => rw [abortReceived_acceptReceived accepted]
  | closeRequest accepted =>
      obtain ⟨_, _, rfl, rfl⟩ := acceptCloseRequest_ok accepted
      rcases abortCloseRequest_cases life.state { life with state := .closePending } with
        ⟨_, _, _, aborted⟩ | ⟨_, aborted⟩ <;> rw [aborted]
  | closed begun =>
      obtain ⟨_, _, rfl, rfl⟩ := beginClose_ok begun
      rcases abortClose_cases life.state { life with state := .closed } with
        ⟨_, _, aborted⟩ | ⟨_, aborted⟩ <;> rw [aborted]

/-- Confirmed bytes stay confirmed where the event is missed, as there is no
taking back. -/
theorem Misses.frame {life left : Lifecycle} {event : SocketEvent}
    (misses : life.Misses event left) :
    left = { life with state := left.state, pendingWrite := left.pendingWrite } := by
  by_cases confirmation : event.kind = .writeCompleted
  · cases misses with
    | writeCompleted accepted =>
        obtain ⟨_, _, _, rfl⟩ := acceptWriteCompleted_ok accepted
        rfl
    | _ => cases confirmation
  · rw [misses.touches_state confirmation]

/-- An event is accepted before the closed event only. -/
theorem Accepts.keeps {life next : Lifecycle} {event : SocketEvent} {target : TargetId}
    (accepts : life.Accepts event target next) : life.KeepsHolds next := by
  cases accepts with
  | openRequest begun =>
      obtain ⟨created, _, rfl⟩ := beginOpen_ok begun
      have live : life.state.isClosed = false := by rw [created]; rfl
      exact .of_live live rfl rfl rfl rfl
  | writeCompleted accepted =>
      obtain ⟨streaming, _, _, rfl⟩ := acceptWriteCompleted_ok accepted
      have live := SocketState.not_isClosed_of_acceptsStreamEvents streaming
      exact .of_live live live rfl rfl rfl
  | received accepted =>
      obtain ⟨streaming, _, rfl⟩ := acceptReceived_ok accepted
      have live := SocketState.not_isClosed_of_acceptsStreamEvents streaming
      exact .of_live live live rfl rfl rfl
  | closeRequest accepted =>
      obtain ⟨streaming, _, _, rfl⟩ := acceptCloseRequest_ok accepted
      have live := SocketState.not_isClosed_of_acceptsStreamEvents streaming
      exact .of_live live rfl rfl rfl rfl
  | closed begun =>
      obtain ⟨live, _, _, rfl⟩ := beginClose_ok begun
      exact ⟨live, nofun, rfl, rfl, rfl⟩

/-- A lifecycle that missed an event is as open as before. -/
theorem Misses.keeps {life left : Lifecycle} {event : SocketEvent}
    (misses : life.Misses event left) (held : life.Held) :
    life.KeepsHolds left ∧ left.state.isClosed = false := by
  cases misses with
  | openRequest begun =>
      obtain ⟨created, _, rfl⟩ := beginOpen_ok begun
      have live : life.state.isClosed = false := by rw [created]; rfl
      rcases abortOpen_cases { life with state := .opening } with ⟨_, _, aborted⟩ | ⟨_, aborted⟩ <;>
        rw [aborted] <;> exact ⟨.of_live live rfl rfl rfl rfl, rfl⟩
  | writeCompleted accepted =>
      obtain ⟨streaming, _, _, rfl⟩ := acceptWriteCompleted_ok accepted
      have live := SocketState.not_isClosed_of_acceptsStreamEvents streaming
      exact ⟨.of_live live live rfl rfl rfl, live⟩
  | @received bytes _ _ _ accepted =>
      obtain ⟨streaming, _, rfl⟩ := acceptReceived_ok accepted
      have live := SocketState.not_isClosed_of_acceptsStreamEvents streaming
      rcases abortReceived_cases bytes.length _ with ⟨_, _, _, aborted⟩ | aborted <;>
        rw [aborted] <;> exact ⟨.of_live live live rfl rfl rfl, live⟩
  | closeRequest accepted =>
      obtain ⟨streaming, _, rfl, rfl⟩ := acceptCloseRequest_ok accepted
      have live := SocketState.not_isClosed_of_acceptsStreamEvents streaming
      rcases abortCloseRequest_cases life.state { life with state := .closePending } with
        ⟨_, _, _, aborted⟩ | ⟨_, aborted⟩
      · rw [aborted]
        exact ⟨.of_live live live rfl rfl rfl, live⟩
      · rw [aborted]
        exact ⟨.of_live live rfl rfl rfl rfl, rfl⟩
  | closed begun =>
      obtain ⟨live, _, rfl, rfl⟩ := beginClose_ok begun
      rcases abortClose_cases life.state { life with state := .closed } with
        ⟨_, _, aborted⟩ | ⟨kept, _⟩
      · rw [aborted]
        exact ⟨.of_live live live rfl rfl rfl, live⟩
      · rcases kept with opened | given
        · exact absurd rfl opened
        · rw [held.native live] at given
          cases given

/-- A call is forwarded before the closed event only, and does not close. -/
theorem Forwards.keeps {limit : Nat} {life next : Lifecycle} {call : EngineCall}
    (forwards : life.Forwards limit call next) :
    life.KeepsHolds next ∧ next.state.isClosed = false := by
  cases forwards with
  | opened marked =>
      rcases markReady_ok marked with ⟨_, opening, _, rfl⟩ | ⟨unforwarded, _⟩
      · have live : life.state.isClosed = false := by rw [opening]; rfl
        have stays : SocketState.isClosed
            (if life.openDispatched then .opened else .opening) = false := by
          split <;> rfl
        exact ⟨.of_live live stays rfl rfl rfl, stays⟩
      · cases unforwarded
  | httpResponse checked =>
      obtain ⟨early, rfl⟩ := checkHandshake_ok checked
      have live : next.state.isClosed = false := by
        rcases early with state | state <;> rw [state] <;> rfl
      exact ⟨.of_live live live rfl rfl rfl, live⟩
  | write recorded =>
      obtain ⟨streaming, _, rfl⟩ := recordWrite_ok recorded
      have live := SocketState.not_isClosed_of_acceptsStreamEvents streaming
      exact ⟨.of_live live live rfl rfl rfl, live⟩
  | completedReceive acknowledged =>
      obtain ⟨live, _, _, rfl⟩ := acknowledgeReceive_ok acknowledged
      exact ⟨.of_live live live rfl rfl rfl, live⟩
  | closeRequest requested =>
      obtain ⟨live, rfl⟩ := requestClose_ok requested
      exact ⟨.of_live live rfl rfl rfl rfl, rfl⟩
  | closed marked =>
      rcases markManagedClosed_cases life with ⟨_, live, taken⟩ | ⟨_, taken⟩
      · rw [taken] at marked
        cases marked
        exact ⟨.of_live live rfl rfl rfl rfl, rfl⟩
      · rw [taken] at marked
        cases marked

/-- Nothing is left in a disposed lifecycle that could be let go of, nor any
bytes to account for. -/
structure Spent (life : Lifecycle) : Prop where
  pin : life.pin = none
  receives : life.receives = []
  unackedReceive : life.unackedReceive = 0
  pendingWrite : life.pendingWrite = 0

theorem Spent.abandon {life : Lifecycle} (spent : life.Spent) :
    life.abandon = (([], none), life) := by
  obtain ⟨pin, receives, unackedReceive, _⟩ := spent
  unfold Lifecycle.abandon
  cases life
  simp_all

theorem Spent.finishOpen {life : Lifecycle} (spent : life.Spent) :
    life.finishOpen.2.Spent := by
  obtain ⟨pin, receives, unackedReceive, pendingWrite⟩ := spent
  rw [finishOpen_frame]
  exact ⟨pin, receives, unackedReceive, pendingWrite⟩

/-- What holds of the lifecycle of a registration at any time. -/
structure Proper (life : Lifecycle) : Prop where
  held : life.Held
  /-- The target is held until the lifecycle is disposed of. -/
  pinned : life.state ≠ .disposed → life.pin.isSome = true
  spent : life.state = .disposed → life.Spent

namespace Proper

theorem of_target (target : TargetId) : Proper { pin := some target } where
  held := .of_live rfl rfl
  pinned _ := rfl
  spent disposed := by cases disposed

/-- A lifecycle that keeps its pin and is disposed of as it was before. -/
theorem of_same {life next : Lifecycle} (proper : life.Proper) (held : next.Held)
    (disposed : next.state = .disposed ↔ life.state = .disposed)
    (spent : next.state = .disposed → next.Spent) (pin : next.pin = life.pin) : next.Proper where
  held := held
  pinned live := by
    rw [pin]
    apply proper.pinned
    intro ended
    exact live (disposed.mpr ended)
  spent := spent

theorem of_disposed {life : Lifecycle} (disposed : life.state = .disposed) (held : life.Held)
    (spent : life.Spent) : life.Proper where
  held := held
  pinned live := absurd disposed live
  spent _ := spent

end Proper

end Lifecycle

/-! ## What a step is refused for -/

/-- The books are wrong, whatever the callers of the bridge have done. -/
def Violation.isLapse : Violation → Bool
  | .targetNotPinned | .targetPinnedTwice | .nativeReleasedTwice | .nativeReleasedIn _ => true
  | _ => false

def Refusal.isLapse : Refusal → Bool
  | .violation cause => cause.isLapse
  | _ => false

def BridgeError.isLapse : BridgeError → Bool
  | .invariantViolation _ violation => violation.isLapse
  | _ => false

theorem Refusal.toError_isLapse (refusal : Refusal) (handle : Handle) :
    (refusal.toError handle).isLapse = refusal.isLapse := by
  cases refusal <;> rfl

/-- A buffer that cannot be transferred is its owner's affair. -/
theorem NativeBuffer.transfer_refused {buffer : NativeBuffer Hook} {violation : Violation}
    (refused : buffer.transfer = .error violation) : violation.isLapse = false := by
  unfold transfer view at refused
  cases ownership : buffer.ownership <;> cases data : buffer.data <;>
    simp only [ownership, data, reduceCtorEq, Except.error.injEq] at refused
  all_goals
    rw [← refused]
    rfl

namespace Lifecycle

variable {α : Type} {life : Lifecycle} {refusal : Refusal}

theorem misplaced_refused {operation : String}
    (refused : (life.misplaced operation : Step α) = .error refusal) : refusal.isLapse = false := by
  cases refused
  rfl

theorem markReady_refused (refused : life.markReady = .error refusal) :
    refusal.isLapse = false := by
  unfold markReady at refused
  split at refused
  · split at refused <;> cases refused
  · cases refused
  · exact misplaced_refused refused

theorem checkHandshake_refused (refused : life.checkHandshake = .error refusal) :
    refusal.isLapse = false := by
  unfold checkHandshake at refused
  split at refused
  · cases refused
  · exact misplaced_refused refused

theorem recordWrite_refused {byteCount limit : Nat}
    (refused : life.recordWrite byteCount limit = .error refusal) : refusal.isLapse = false := by
  unfold recordWrite at refused
  split at refused
  · exact misplaced_refused refused
  · split at refused <;> cases refused
    rfl

theorem acknowledgeReceive_refused {byteCount : Nat}
    (refused : life.acknowledgeReceive byteCount = .error refusal) : refusal.isLapse = false := by
  unfold acknowledgeReceive at refused
  split at refused
  · exact misplaced_refused refused
  · split at refused <;> cases refused
    rfl

theorem requestClose_refused (refused : life.requestClose = .error refusal) :
    refusal.isLapse = false := by
  unfold requestClose at refused
  split at refused
  · exact misplaced_refused refused
  · cases refused

theorem retain_refused (refused : life.retain = .error refusal) : refusal.isLapse = false := by
  unfold retain at refused
  split at refused <;> cases refused <;> rfl

theorem release_refused (refused : life.release = .error refusal) : refusal.isLapse = false := by
  unfold release at refused
  split at refused
  · cases refused
    rfl
  · split at refused <;> cases refused
    rfl

namespace Proper

theorem exists_pin (proper : life.Proper) (live : life.state ≠ .disposed) :
    ∃ target, life.pin = some target :=
  Option.isSome_iff_exists.mp (proper.pinned live)

/-- The target of a lifecycle that is not disposed of is there. -/
theorem pinnedTarget_ok (proper : life.Proper) (live : life.state ≠ .disposed) :
    ∃ target, life.pinnedTarget = .ok target := by
  obtain ⟨target, pinned⟩ := proper.exists_pin live
  refine ⟨target, ?_⟩
  unfold pinnedTarget
  rw [pinned]

theorem beginOpen_refused (proper : life.Proper) (refused : life.beginOpen = .error refusal) :
    refusal.isLapse = false := by
  unfold beginOpen at refused
  split at refused
  · cases refused
    rfl
  · next created =>
      have live : life.state ≠ .disposed := by
        rw [Decidable.not_not.mp created]
        exact nofun
      obtain ⟨target, pinned⟩ := proper.pinnedTarget_ok live
      rw [pinned] at refused
      cases refused

theorem streamTarget_refused (proper : life.Proper) {event : EventKind}
    (refused : life.streamTarget event = .error refusal) : refusal.isLapse = false := by
  unfold streamTarget at refused
  split at refused
  · next streaming =>
      have live := SocketState.not_isClosed_of_acceptsStreamEvents streaming
      obtain ⟨target, pinned⟩ :=
        proper.pinnedTarget_ok (SocketState.ne_disposed_of_not_isClosed live)
      cases pinned.symm.trans refused
  · split at refused <;> cases refused <;> rfl

theorem acceptWriteCompleted_refused (proper : life.Proper) {byteCount : Nat}
    (refused : life.acceptWriteCompleted byteCount = .error refusal) :
    refusal.isLapse = false := by
  unfold acceptWriteCompleted at refused
  split at refused
  · next other unaccepted =>
      cases refused
      exact proper.streamTarget_refused unaccepted
  · split at refused <;> cases refused
    rfl

/-- Steps that do no more with the target than to give it. -/
private theorem map_refused {β : Type} {first : Except Refusal α} {next : α → β}
    (refused : first.map next = .error refusal) : first = .error refusal := by
  cases first with
  | error other =>
      cases refused
      rfl
  | ok result => cases refused

theorem acceptReceived_refused (proper : life.Proper) {byteCount : Nat}
    {retained : Option (NativeBuffer Hook)}
    (refused : life.acceptReceived byteCount retained = .error refusal) :
    refusal.isLapse = false :=
  proper.streamTarget_refused (map_refused refused)

theorem acceptCloseRequest_refused (proper : life.Proper)
    (refused : life.acceptCloseRequest = .error refusal) : refusal.isLapse = false :=
  proper.streamTarget_refused (map_refused refused)

theorem beginClose_refused (proper : life.Proper) (refused : life.beginClose = .error refusal) :
    refusal.isLapse = false := by
  unfold beginClose at refused
  split at refused
  · cases refused
    rfl
  · next live =>
      obtain ⟨target, pinned⟩ := proper.pinnedTarget_ok
        (SocketState.ne_disposed_of_not_isClosed (Bool.eq_false_iff.mpr live))
      cases pinned.symm.trans (map_refused refused)

end Proper

end Lifecycle

end TransportBridge
