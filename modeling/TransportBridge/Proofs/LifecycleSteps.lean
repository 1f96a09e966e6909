import TransportBridge.Lifecycle

/-!
Contract: what each step of a lifecycle can do, guards included.

One inversion lemma per step that can be refused, and one case split per step
that cannot. Invariants are derived from these lemmas; nothing after this
module unfolds a step.
-/

namespace TransportBridge

namespace SocketState

theorem not_isClosed_of_acceptsStreamEvents {state : SocketState}
    (accepts : state.acceptsStreamEvents = true) : state.isClosed = false := by
  cases state <;> first | rfl | cases accepts

theorem ne_disposed_of_not_isClosed {state : SocketState} (live : state.isClosed = false) :
    state ≠ .disposed := by
  rintro rfl
  cases live

theorem acceptsStreamEvents_iff (state : SocketState) :
    state.acceptsStreamEvents = true ↔
      state = .opening ∨ state = .opened ∨ state = .closePending := by
  cases state <;> simp [acceptsStreamEvents]

theorem isClosed_iff (state : SocketState) :
    state.isClosed = true ↔ state = .closed ∨ state = .disposed := by
  cases state <;> simp [isClosed]

end SocketState

namespace Lifecycle

/-! ## Events from the native side -/

theorem pinnedTarget_ok {life : Lifecycle} {target : TargetId}
    (found : life.pinnedTarget = .ok target) : life.pin = some target := by
  unfold pinnedTarget at found
  split at found
  · next held pinned =>
      rw [pinned]
      exact congrArg some (Except.ok.inj found)
  · cases found

theorem streamTarget_ok {life : Lifecycle} {event : EventKind} {target : TargetId}
    (found : life.streamTarget event = .ok target) :
    life.state.acceptsStreamEvents = true ∧ life.pin = some target := by
  unfold streamTarget at found
  split at found
  · next accepts => exact ⟨accepts, pinnedTarget_ok found⟩
  · split at found <;> cases found

theorem beginOpen_ok {life next : Lifecycle} {target : TargetId}
    (begun : life.beginOpen = .ok (target, next)) :
    life.state = .created ∧ life.pin = some target ∧
      next = { life with state := .opening } := by
  unfold beginOpen violated at begun
  split at begun
  · cases begun
  · next fresh =>
      cases pinned : life.pinnedTarget with
      | error refusal =>
          rw [pinned] at begun
          cases begun
      | ok held =>
          rw [pinned] at begun
          cases begun
          exact ⟨Decidable.not_not.mp fresh, pinnedTarget_ok pinned, rfl⟩

theorem beginOpen_of_created {life : Lifecycle} {target : TargetId}
    (created : life.state = .created) (pinned : life.pin = some target) :
    life.beginOpen = .ok (target, { life with state := .opening }) := by
  unfold beginOpen pinnedTarget
  rw [if_neg (not_not_intro created), pinned]
  rfl

theorem acceptWriteCompleted_ok {life next : Lifecycle} {byteCount : Nat} {target : TargetId}
    (accepted : life.acceptWriteCompleted byteCount = .ok (target, next)) :
    life.state.acceptsStreamEvents = true ∧ life.pin = some target ∧
      byteCount ≤ life.pendingWrite ∧
      next = { life with pendingWrite := life.pendingWrite - byteCount } := by
  unfold acceptWriteCompleted violated at accepted
  cases found : life.streamTarget .writeCompleted with
  | error refusal =>
      rw [found] at accepted
      cases accepted
  | ok held =>
      rw [found] at accepted
      obtain ⟨accepts, pinned⟩ := streamTarget_ok found
      by_cases exceeds : life.pendingWrite < byteCount
      · simp [exceeds] at accepted
      · simp only [exceeds, if_false] at accepted
        cases accepted
        exact ⟨accepts, pinned, Nat.le_of_not_lt exceeds, rfl⟩

theorem acceptWriteCompleted_of_streaming {life : Lifecycle} {target : TargetId}
    (streaming : life.state.acceptsStreamEvents = true) (pinned : life.pin = some target)
    (byteCount : Nat) :
    life.acceptWriteCompleted byteCount =
      if life.pendingWrite < byteCount then
        .error (.violation (.completionExceeds byteCount life.pendingWrite))
      else .ok (target, { life with pendingWrite := life.pendingWrite - byteCount }) := by
  unfold acceptWriteCompleted streamTarget pinnedTarget
  rw [if_pos streaming, pinned]
  rfl

theorem acceptReceived_ok {life next : Lifecycle} {byteCount : Nat}
    {retained : Option (NativeBuffer Hook)} {target : TargetId}
    (accepted : life.acceptReceived byteCount retained = .ok (target, next)) :
    life.state.acceptsStreamEvents = true ∧ life.pin = some target ∧
      next = { life with
        unackedReceive := life.unackedReceive + byteCount
        receives := life.receives ++ [⟨byteCount, retained⟩] } := by
  unfold acceptReceived at accepted
  cases found : life.streamTarget .received with
  | error refusal =>
      rw [found] at accepted
      cases accepted
  | ok held =>
      rw [found] at accepted
      cases accepted
      exact ⟨(streamTarget_ok found).1, (streamTarget_ok found).2, rfl⟩

theorem acceptCloseRequest_ok {life next : Lifecycle} {target : TargetId}
    {before : SocketState}
    (accepted : life.acceptCloseRequest = .ok ((target, before), next)) :
    life.state.acceptsStreamEvents = true ∧ life.pin = some target ∧
      before = life.state ∧ next = { life with state := .closePending } := by
  unfold acceptCloseRequest at accepted
  cases found : life.streamTarget .closeRequest with
  | error refusal =>
      rw [found] at accepted
      cases accepted
  | ok held =>
      rw [found] at accepted
      cases accepted
      exact ⟨(streamTarget_ok found).1, (streamTarget_ok found).2, rfl, rfl⟩

theorem acceptCloseRequest_of_streaming {life : Lifecycle} {target : TargetId}
    (streaming : life.state.acceptsStreamEvents = true) (pinned : life.pin = some target) :
    life.acceptCloseRequest =
      .ok ((target, life.state), { life with state := .closePending }) := by
  unfold acceptCloseRequest streamTarget pinnedTarget
  rw [if_pos streaming, pinned]
  rfl

theorem beginClose_ok {life next : Lifecycle} {target : TargetId} {before : SocketState}
    (begun : life.beginClose = .ok ((target, before), next)) :
    life.state.isClosed = false ∧ life.pin = some target ∧ before = life.state ∧
      next = { life with state := .closed } := by
  unfold beginClose violated at begun
  split at begun
  · cases begun
  · next live =>
      cases pinned : life.pinnedTarget with
      | error refusal =>
          rw [pinned] at begun
          cases begun
      | ok held =>
          rw [pinned] at begun
          cases begun
          exact ⟨Bool.eq_false_iff.mpr live, pinnedTarget_ok pinned, rfl, rfl⟩

theorem beginClose_of_live {life : Lifecycle} {target : TargetId}
    (live : life.state.isClosed = false) (pinned : life.pin = some target) :
    life.beginClose = .ok ((target, life.state), { life with state := .closed }) := by
  unfold beginClose pinnedTarget
  rw [if_neg (by rw [live]; exact Bool.false_ne_true), pinned]
  rfl

/-- The open callback's return opens the connection or leaves its state. -/
theorem finishOpen_cases (life : Lifecycle) :
    (life.state = .opening ∧ life.managedReady = true ∧
      life.finishOpen.2 = { life with openDispatched := true, state := .opened }) ∨
    ((life.state ≠ .opening ∨ life.managedReady = false) ∧
      life.finishOpen.2 = { life with openDispatched := true }) := by
  unfold finishOpen
  by_cases ready : life.state = .opening ∧ life.managedReady = true
  · exact .inl ⟨ready.1, ready.2, by rw [if_pos ready]⟩
  · refine .inr ⟨?_, by rw [if_neg ready]⟩
    by_cases opening : life.state = .opening
    · exact .inr (Bool.eq_false_iff.mpr fun managed => ready ⟨opening, managed⟩)
    · exact .inl opening

/-- The return of the open callback disposes of nothing. -/
theorem finishOpen_disposed_iff (life : Lifecycle) :
    life.finishOpen.2.state = .disposed ↔ life.state = .disposed := by
  rcases finishOpen_cases life with ⟨opening, _, finished⟩ | ⟨_, finished⟩
  · rw [finished, opening]
    exact iff_of_false nofun nofun
  · rw [finished]

/-- The return of the open callback touches the state and the flag that tells of
it. -/
theorem finishOpen_frame (life : Lifecycle) :
    life.finishOpen.2 = { life with
      state := life.finishOpen.2.state
      openDispatched := true } := by
  rcases finishOpen_cases life with ⟨_, _, finished⟩ | ⟨_, finished⟩ <;> rw [finished]

theorem finishOpen_pin (life : Lifecycle) : life.finishOpen.2.pin = life.pin := by
  rw [finishOpen_frame]

theorem finishOpen_managedRefs (life : Lifecycle) :
    life.finishOpen.2.managedRefs = life.managedRefs := by
  rw [finishOpen_frame]

/-- Aborting touches the state alone; for a receive, the newest one. -/
theorem abortOpen_cases (life : Lifecycle) :
    (life.state = .opening ∧ life.openDispatched = false ∧
      life.abortOpen = { life with state := .created }) ∨
    ((life.state ≠ .opening ∨ life.openDispatched = true) ∧ life.abortOpen = life) := by
  unfold abortOpen
  by_cases undone : life.state = .opening ∧ ¬ life.openDispatched = true
  · exact .inl ⟨undone.1, Bool.eq_false_iff.mpr undone.2, by rw [if_pos undone]⟩
  · refine .inr ⟨?_, by rw [if_neg undone]⟩
    by_cases opening : life.state = .opening
    · exact .inr (Decidable.not_not.mp fun unfinished => undone ⟨opening, unfinished⟩)
    · exact .inl opening

theorem abortReceived_cases (byteCount : Nat) (life : Lifecycle) :
    (∃ newest, life.receives.getLast? = some newest ∧ newest.remaining = byteCount ∧
      life.abortReceived byteCount = (newest.buffer, { life with
        unackedReceive := life.unackedReceive - byteCount
        receives := life.receives.dropLast })) ∨
    life.abortReceived byteCount = (none, life) := by
  unfold abortReceived
  split
  · next newest last =>
      by_cases untouched : newest.remaining = byteCount
      · exact .inl ⟨newest, last, untouched, by rw [if_pos untouched]⟩
      · exact .inr (by rw [if_neg untouched])
  · exact .inr rfl

/-- The receive that was accepted last is taken back whole. -/
theorem abortReceived_acceptReceived {life next : Lifecycle} {byteCount : Nat}
    {retained : Option (NativeBuffer Hook)} {target : TargetId}
    (accepted : life.acceptReceived byteCount retained = .ok (target, next)) :
    next.abortReceived byteCount = (retained, life) := by
  obtain ⟨_, _, rfl⟩ := acceptReceived_ok accepted
  simp [abortReceived]

theorem abortCloseRequest_cases (before : SocketState) (life : Lifecycle) :
    (life.state = .closePending ∧ life.managedClosed = false ∧
      life.managedCloseRequested = false ∧
      life.abortCloseRequest before = { life with state := before }) ∨
    ((life.state ≠ .closePending ∨ life.managedClosed = true ∨
      life.managedCloseRequested = true) ∧ life.abortCloseRequest before = life) := by
  unfold abortCloseRequest
  split
  · next undone =>
      exact .inl ⟨undone.1, Bool.eq_false_iff.mpr undone.2.1,
        Bool.eq_false_iff.mpr undone.2.2, rfl⟩
  · next kept =>
      refine .inr ⟨?_, rfl⟩
      by_cases pending : life.state = .closePending
      · by_cases closed : life.managedClosed = true
        · exact .inr (.inl closed)
        · exact .inr (.inr (Decidable.not_not.mp fun asked => kept ⟨pending, closed, asked⟩))
      · exact .inl pending

theorem abortClose_cases (before : SocketState) (life : Lifecycle) :
    (life.state = .closed ∧ life.nativeRef = true ∧
      life.abortClose before = { life with state := before }) ∨
    ((life.state ≠ .closed ∨ life.nativeRef = false) ∧ life.abortClose before = life) := by
  unfold abortClose
  by_cases undone : life.state = .closed ∧ life.nativeRef = true
  · exact .inl ⟨undone.1, undone.2, by rw [if_pos undone]⟩
  · refine .inr ⟨?_, by rw [if_neg undone]⟩
    by_cases closed : life.state = .closed
    · exact .inr (Bool.eq_false_iff.mpr fun held => undone ⟨closed, held⟩)
    · exact .inl closed

/-! ## Calls from the managed side -/

theorem adoptPin_ok {life next : Lifecycle} {target : TargetId}
    (adopted : life.adoptPin target = .ok ((), next)) :
    life.pin = none ∧ next = { life with pin := some target } := by
  unfold adoptPin violated at adopted
  split at adopted
  · cases adopted
  · next free =>
      cases adopted
      exact ⟨Option.not_isSome_iff_eq_none.mp free, rfl⟩

theorem markReady_ok {life next : Lifecycle} {forward : Bool}
    (marked : life.markReady = .ok (forward, next)) :
    (forward = true ∧ life.state = .opening ∧ life.managedReady = false ∧
      next = { life with
        managedReady := true
        state := if life.openDispatched then .opened else .opening }) ∨
    (forward = false ∧ (life.state = .opening ∧ life.managedReady = true ∨
      life.state = .opened) ∧ next = life) := by
  unfold markReady misplaced at marked
  split at marked
  · next opening =>
      split at marked
      · next ready =>
          cases marked
          exact .inr ⟨rfl, .inl ⟨opening, ready⟩, rfl⟩
      · next unready =>
          cases marked
          exact .inl ⟨rfl, opening, Bool.eq_false_iff.mpr unready, rfl⟩
  · next opened =>
      cases marked
      exact .inr ⟨rfl, .inr opened, rfl⟩
  · cases marked

theorem checkHandshake_ok {life next : Lifecycle}
    (checked : life.checkHandshake = .ok ((), next)) :
    (life.state = .opening ∨ life.state = .opened) ∧ next = life := by
  unfold checkHandshake misplaced at checked
  split at checked
  · next early =>
      cases checked
      exact ⟨early, rfl⟩
  · cases checked

theorem recordWrite_ok {life next : Lifecycle} {byteCount limit : Nat}
    (recorded : life.recordWrite byteCount limit = .ok ((), next)) :
    life.state.acceptsStreamEvents = true ∧
      (life.pendingWrite = 0 ∨ life.pendingWrite + byteCount ≤ limit) ∧
      next = { life with pendingWrite := life.pendingWrite + byteCount } := by
  unfold recordWrite misplaced at recorded
  split at recorded
  · cases recorded
  · next accepts =>
      split at recorded
      · cases recorded
      · next bounded =>
          cases recorded
          refine ⟨Decidable.not_not.mp accepts, ?_, rfl⟩
          omega

theorem acknowledgeReceive_ok {life next : Lifecycle} {byteCount : Nat}
    {freed : List (NativeBuffer Hook)}
    (acknowledged : life.acknowledgeReceive byteCount = .ok (freed, next)) :
    life.state.isClosed = false ∧ byteCount ≤ life.unackedReceive ∧
      freed = (consume byteCount life.receives).1 ∧
      next = { life with
        unackedReceive := life.unackedReceive - byteCount
        receives := (consume byteCount life.receives).2 } := by
  unfold acknowledgeReceive misplaced violated at acknowledged
  split at acknowledged
  · cases acknowledged
  · next live =>
      split at acknowledged
      · cases acknowledged
      · next bounded =>
          cases acknowledged
          exact ⟨Bool.eq_false_iff.mpr live, Nat.le_of_not_lt bounded, rfl, rfl⟩

theorem requestClose_ok {life next : Lifecycle}
    (requested : life.requestClose = .ok ((), next)) :
    life.state.isClosed = false ∧
      next = { life with managedCloseRequested := true, state := .closePending } := by
  unfold requestClose misplaced at requested
  split at requested
  · cases requested
  · next live =>
      cases requested
      exact ⟨Bool.eq_false_iff.mpr live, rfl⟩

theorem markManagedClosed_cases (life : Lifecycle) :
    (life.managedClosed = false ∧ life.state.isClosed = false ∧
      life.markManagedClosed =
        (true, { life with managedClosed := true, state := .closePending })) ∨
    ((life.managedClosed = true ∨ life.state.isClosed = true) ∧
      life.markManagedClosed = (false, life)) := by
  unfold markManagedClosed
  by_cases ended : life.managedClosed = true ∨ life.state.isClosed = true
  · exact .inr ⟨ended, by rw [if_pos ended]⟩
  · refine .inl ⟨?_, ?_, by rw [if_neg ended]⟩
    · exact Bool.eq_false_iff.mpr fun closed => ended (.inl closed)
    · exact Bool.eq_false_iff.mpr fun closed => ended (.inr closed)

theorem markManagedClosed_of_live {life : Lifecycle} (unfinished : life.managedClosed = false)
    (live : life.state.isClosed = false) :
    life.markManagedClosed =
      (true, { life with managedClosed := true, state := .closePending }) := by
  unfold markManagedClosed
  rw [if_neg (by rw [unfinished, live]; simp)]

/-! ## References -/

/-- What is left of a lifecycle that is torn down. -/
def tornDown (life : Lifecycle) : Lifecycle :=
  { life with
    state := .disposed
    pendingWrite := 0
    unackedReceive := 0
    receives := []
    pin := none }

/-- Teardown happens exactly when no reference is left of a closed
lifecycle. -/
theorem tryTeardown_cases (life : Lifecycle) :
    (life.retainCount = 0 ∧ life.state = .closed ∧
      life.tryTeardown =
        (some ⟨life.pin, life.receives.filterMap (·.buffer)⟩, life.tornDown)) ∨
    ((life.retainCount ≠ 0 ∨ life.state ≠ .closed) ∧ life.tryTeardown = (none, life)) := by
  unfold tryTeardown
  by_cases needed : life.retainCount ≠ 0 ∨ life.state ≠ .closed
  · exact .inr ⟨needed, by rw [if_pos needed]⟩
  · refine .inl ⟨?_, ?_, by rw [if_neg needed]; rfl⟩
    · exact Decidable.not_not.mp fun counted => needed (.inl counted)
    · exact Decidable.not_not.mp fun open' => needed (.inr open')

/-- A teardown leaves the references and the flags as they are. -/
theorem tryTeardown_frame (life : Lifecycle) :
    life.tryTeardown.2 = { life with
      state := life.tryTeardown.2.state
      pendingWrite := life.tryTeardown.2.pendingWrite
      unackedReceive := life.tryTeardown.2.unackedReceive
      receives := life.tryTeardown.2.receives
      pin := life.tryTeardown.2.pin } := by
  rcases tryTeardown_cases life with ⟨_, _, torn⟩ | ⟨_, torn⟩
  · rw [torn]
    rfl
  · rw [torn]

theorem retain_ok {life next : Lifecycle} {count : Nat}
    (retained : life.retain = .ok (count, next)) :
    life.state.isClosed = false ∧ next = { life with managedRefs := life.managedRefs + 1 } ∧
      count = next.retainCount := by
  unfold retain violated at retained
  split at retained
  · cases retained
  · cases retained
  · next notDisposed notClosed =>
      cases retained
      refine ⟨?_, rfl, rfl⟩
      cases state : life.state <;> first | rfl | contradiction

theorem release_ok {life : Lifecycle} {outcome : Option Teardown × Lifecycle}
    (released : life.release = .ok outcome) :
    life.state ≠ .disposed ∧ life.managedRefs ≠ 0 ∧
      outcome = { life with managedRefs := life.managedRefs - 1 }.tryTeardown := by
  unfold release violated at released
  split at released
  · cases released
  · next notDisposed =>
      split at released
      · cases released
      · next matched =>
          cases released
          exact ⟨notDisposed, matched, rfl⟩

/-- A release is refused only as a broken invariant, and only where there is
nothing to release. -/
theorem release_error {life : Lifecycle} {refusal : Refusal}
    (refused : life.release = .error refusal) :
    (life.state = .disposed ∨ life.managedRefs = 0) ∧
      ∃ violation, refusal = .violation violation := by
  unfold release violated at refused
  split at refused
  · next disposed =>
      cases refused
      exact ⟨.inl disposed, _, rfl⟩
  · split at refused
    · next unmatched =>
        cases refused
        exact ⟨.inr unmatched, _, rfl⟩
    · cases refused

theorem releaseNative_ok {life : Lifecycle} {outcome : Option Teardown × Lifecycle}
    (released : life.releaseNative = .ok outcome) :
    life.nativeRef = true ∧ life.state = .closed ∧
      outcome = { life with nativeRef := false }.tryTeardown := by
  unfold releaseNative violated at released
  split at released
  · cases released
  · next held =>
      split at released
      · cases released
      · next closed =>
          cases released
          exact ⟨Decidable.not_not.mp held, Decidable.not_not.mp closed, rfl⟩

end Lifecycle

end TransportBridge
