import TransportBridge.Proofs.HeldReferences

/-!
Contract: one lifecycle under every order of its critical sections.

The native side delivers one event at a time: it begins an event, and ends it
as delivered, as not delivered, or by the callback's panic, before it begins
the next. Any number of managed callers take their sections whenever they like,
also between the begin and the end of a native event. A schedule is a list of
such moves; a native move out of turn is not taken.

Owns: moves, the operation that each one comes to, the history of a schedule,
and the law that at most one teardown comes out of it.
-/

namespace TransportBridge.Schedule

open Lifecycle

/-- How the native side begins the delivery of an event. -/
inductive NativeStart where
  | openRequest
  | writeCompleted (byteCount : Nat)
  | received (byteCount : Nat) (retained : Option (NativeBuffer Hook))
  | closeRequest
  | closed
deriving DecidableEq, Repr

/-- An event under way, with what its begin has returned for its end. -/
inductive Underway where
  | openRequest
  | writeCompleted
  | received (byteCount : Nat)
  | closeRequest (before : SocketState)
  | closed (before : SocketState)
deriving DecidableEq, Repr

/-- How the delivery of an event ends. -/
inductive Ending where
  | delivered
  | undelivered
  | panicked
deriving DecidableEq, Repr

/-- A section of the managed side, and the adoption of the pin. -/
inductive ManagedSection where
  | adoptPin (target : TargetId)
  | markReady
  | checkHandshake
  | recordWrite (byteCount limit : Nat)
  | acknowledgeReceive (byteCount : Nat)
  | requestClose
  | markManagedClosed
  | retain
  | release
deriving DecidableEq, Repr

/-- What a section of the native side does at the end of an event. -/
inductive Conclusion where
  | finishOpen
  | abortOpen
  | abortReceived (byteCount : Nat)
  | abortCloseRequest (before : SocketState)
  | abortClose (before : SocketState)
  | releaseNative
deriving DecidableEq, Repr

/-- One critical section. -/
inductive Operation where
  | start (event : NativeStart)
  | conclude (conclusion : Conclusion)
  | managed (taken : ManagedSection)
deriving DecidableEq, Repr

/-- What an operation leaves behind. One that is refused changes nothing. -/
structure Outcome where
  next : Lifecycle
  granted : Bool
  teardown : Option Teardown
deriving DecidableEq, Repr

namespace Outcome

def plain (next : Lifecycle) : Outcome :=
  ⟨next, true, none⟩

def refused (life : Lifecycle) : Outcome :=
  ⟨life, false, none⟩

def ofStep {α : Type} (life : Lifecycle) : Step α → Outcome
  | .ok (_, next) => plain next
  | .error _ => refused life

def ofRelease (life : Lifecycle) : Step (Option Teardown) → Outcome
  | .ok (teardown, next) => ⟨next, true, teardown⟩
  | .error _ => refused life

end Outcome

/-- Begins an event, if the lifecycle accepts it. -/
def NativeStart.begin? (life : Lifecycle) : NativeStart → Option (Underway × Lifecycle)
  | .openRequest =>
    match life.beginOpen with
    | .ok (_, next) => some (.openRequest, next)
    | .error _ => none
  | .writeCompleted byteCount =>
    match life.acceptWriteCompleted byteCount with
    | .ok (_, next) => some (.writeCompleted, next)
    | .error _ => none
  | .received byteCount retained =>
    match life.acceptReceived byteCount retained with
    | .ok (_, next) => some (.received byteCount, next)
    | .error _ => none
  | .closeRequest =>
    match life.acceptCloseRequest with
    | .ok ((_, before), next) => some (.closeRequest before, next)
    | .error _ => none
  | .closed =>
    match life.beginClose with
    | .ok ((_, before), next) => some (.closed before, next)
    | .error _ => none

/-- The section that ends an event, where there is one. A closed event that
was delivered gives up the native reference, also after a panic. -/
def Underway.conclusion? : Underway → Ending → Option Conclusion
  | .openRequest, .delivered => some .finishOpen
  | .openRequest, .undelivered => some .abortOpen
  | .received byteCount, .undelivered => some (.abortReceived byteCount)
  | .closeRequest before, .undelivered => some (.abortCloseRequest before)
  | .closed before, .undelivered => some (.abortClose before)
  | .closed _, _ => some .releaseNative
  | _, _ => none

def Conclusion.apply (life : Lifecycle) : Conclusion → Outcome
  | .finishOpen => .plain life.finishOpen.2
  | .abortOpen => .plain life.abortOpen
  | .abortReceived byteCount => .plain (life.abortReceived byteCount).2
  | .abortCloseRequest before => .plain (life.abortCloseRequest before)
  | .abortClose before => .plain (life.abortClose before)
  | .releaseNative => .ofRelease life life.releaseNative

def ManagedSection.apply (life : Lifecycle) : ManagedSection → Outcome
  | .adoptPin target => .ofStep life (life.adoptPin target)
  | .markReady => .ofStep life life.markReady
  | .checkHandshake => .ofStep life life.checkHandshake
  | .recordWrite byteCount limit => .ofStep life (life.recordWrite byteCount limit)
  | .acknowledgeReceive byteCount => .ofStep life (life.acknowledgeReceive byteCount)
  | .requestClose => .ofStep life life.requestClose
  | .markManagedClosed => .plain life.markManagedClosed.2
  | .retain => .ofStep life life.retain
  | .release => .ofRelease life life.release

/-! ## Schedules -/

/-- What may come next in a schedule. -/
inductive Move where
  | begin (event : NativeStart)
  | finish (ending : Ending)
  | managed (taken : ManagedSection)
deriving DecidableEq, Repr

/-- A lifecycle and the native event under way on it. -/
structure Arena where
  life : Lifecycle := {}
  underway : Option Underway := none
deriving DecidableEq, Repr

/-- A critical section that was taken. -/
structure Stroke where
  operation : Operation
  before : Lifecycle
  outcome : Outcome
deriving DecidableEq, Repr

namespace Arena

/-- Takes a move. A begin during another event, an end without an event, and an
end that has nothing to do take no section. -/
def step (arena : Arena) : Move → Option Stroke × Arena
  | .begin event =>
    match arena.underway with
    | some _ => (none, arena)
    | none =>
      match event.begin? arena.life with
      | some (underway, next) =>
        (some ⟨.start event, arena.life, .plain next⟩, ⟨next, some underway⟩)
      | none => (some ⟨.start event, arena.life, .refused arena.life⟩, arena)
  | .finish ending =>
    match arena.underway.bind (·.conclusion? ending) with
    | none => (none, ⟨arena.life, none⟩)
    | some conclusion =>
      let outcome := conclusion.apply arena.life
      (some ⟨.conclude conclusion, arena.life, outcome⟩, ⟨outcome.next, none⟩)
  | .managed taken =>
    let outcome := taken.apply arena.life
    (some ⟨.managed taken, arena.life, outcome⟩, ⟨outcome.next, arena.underway⟩)

/-- The sections that a schedule takes, in order. -/
def history (arena : Arena) : List Move → List Stroke
  | [] => []
  | move :: rest => (arena.step move).1.toList ++ (arena.step move).2.history rest

def after (arena : Arena) : List Move → Arena
  | [] => arena
  | move :: rest => (arena.step move).2.after rest

end Arena

/-! ## What one section does to the references -/

/-- The operations that take or give up references. -/
def Operation.countsReferences : Operation → Bool
  | .managed .retain | .managed .release | .conclude .releaseNative => true
  | _ => false

def Stroke.isRetain (stroke : Stroke) : Bool :=
  stroke.operation = .managed .retain && stroke.outcome.granted

def Stroke.isRelease (stroke : Stroke) : Bool :=
  stroke.operation = .managed .release && stroke.outcome.granted

def Stroke.isNativeRelease (stroke : Stroke) : Bool :=
  stroke.operation = .conclude .releaseNative && stroke.outcome.granted

/-- The reference accounts of a section are right, and it tears down exactly by
disposing of the lifecycle. -/
structure Stroke.Accounted (stroke : Stroke) : Prop where
  held : Held stroke.outcome.next
  teardown : stroke.outcome.teardown.isSome = true ↔
    stroke.before.state ≠ .disposed ∧ stroke.outcome.next.state = .disposed
  disposed : stroke.before.state = .disposed → stroke.outcome.next.state = .disposed
  managed : stroke.outcome.next.managedRefs + stroke.isRelease.toNat =
    stroke.before.managedRefs + stroke.isRetain.toNat
  native : stroke.outcome.next.nativeRef = false ↔
    stroke.before.nativeRef = false ∨ stroke.isNativeRelease = true

namespace Stroke.Accounted

private theorem of_refused {operation : Operation} {life : Lifecycle} (held : Held life) :
    Stroke.Accounted ⟨operation, life, .refused life⟩ where
  held := held
  teardown := ⟨(nomatch ·), fun both => absurd both.2 both.1⟩
  disposed disposed := disposed
  managed := by simp [isRetain, isRelease, Outcome.refused]
  native := by simp [isNativeRelease, Outcome.refused]

/-- A section that takes no reference, gives none up and disposes of
nothing. -/
private theorem of_neutral {operation : Operation} {life next : Lifecycle}
    (neutral : operation.countsReferences = false) (held : Held next)
    (state : next.state = .disposed ↔ life.state = .disposed)
    (managed : next.managedRefs = life.managedRefs)
    (native : next.nativeRef = life.nativeRef) :
    Stroke.Accounted ⟨operation, life, .plain next⟩ := by
  have retain : operation ≠ .managed .retain := by rintro rfl; cases neutral
  have release : operation ≠ .managed .release := by rintro rfl; cases neutral
  have nativeRelease : operation ≠ .conclude .releaseNative := by rintro rfl; cases neutral
  exact {
    held := held
    teardown := ⟨(nomatch ·), fun both => absurd (state.mp both.2) both.1⟩
    disposed := state.mpr
    managed := by simp [isRetain, isRelease, retain, release, Outcome.plain, managed]
    native := by simp [isNativeRelease, nativeRelease, Outcome.plain, native] }

/-- A neutral section of before the closed event that does not dispose. -/
private theorem of_live {operation : Operation} {life next : Lifecycle}
    (neutral : operation.countsReferences = false) (held : Held next)
    (live : life.state.isClosed = false) (still : next.state ≠ .disposed)
    (managed : next.managedRefs = life.managedRefs)
    (native : next.nativeRef = life.nativeRef) :
    Stroke.Accounted ⟨operation, life, .plain next⟩ := by
  refine of_neutral neutral held ⟨fun disposed => absurd disposed still, fun disposed => ?_⟩
    managed native
  rw [disposed] at live
  cases live

/-- A neutral section that leaves the state alone. -/
private theorem of_same {operation : Operation} {life next : Lifecycle}
    (neutral : operation.countsReferences = false) (held : Held life)
    (state : next.state = life.state) (managed : next.managedRefs = life.managedRefs)
    (native : next.nativeRef = life.nativeRef) :
    Stroke.Accounted ⟨operation, life, .plain next⟩ :=
  of_neutral neutral (held.of_same state native managed) (by rw [state]) managed native

/-! ### The native side -/

end Stroke.Accounted

/-- What the begin of an event does, if it is accepted. -/
inductive Begins (life : Lifecycle) : NativeStart → Underway → Lifecycle → Prop where
  | openRequest (created : life.state = .created) :
      Begins life .openRequest .openRequest { life with state := .opening }
  | writeCompleted {byteCount : Nat} (streaming : life.state.acceptsStreamEvents = true) :
      Begins life (.writeCompleted byteCount) .writeCompleted
        { life with pendingWrite := life.pendingWrite - byteCount }
  | received {byteCount : Nat} {retained : Option (NativeBuffer Hook)}
      (streaming : life.state.acceptsStreamEvents = true) :
      Begins life (.received byteCount retained) (.received byteCount) { life with
        unackedReceive := life.unackedReceive + byteCount
        receives := life.receives ++ [⟨byteCount, retained⟩] }
  | closeRequest (streaming : life.state.acceptsStreamEvents = true) :
      Begins life .closeRequest (.closeRequest life.state) { life with state := .closePending }
  | closed (live : life.state.isClosed = false) :
      Begins life .closed (.closed life.state) { life with state := .closed }

theorem NativeStart.begins {event : NativeStart} {life next : Lifecycle} {underway : Underway}
    (begun : event.begin? life = some (underway, next)) : Begins life event underway next := by
  cases event with
  | openRequest =>
      simp only [begin?] at begun
      split at begun <;> cases begun
      next accepted =>
        obtain ⟨created, _, rfl⟩ := beginOpen_ok accepted
        exact .openRequest created
  | writeCompleted byteCount =>
      simp only [begin?] at begun
      split at begun <;> cases begun
      next accepted =>
        obtain ⟨streaming, _, _, rfl⟩ := acceptWriteCompleted_ok accepted
        exact .writeCompleted streaming
  | received byteCount retained =>
      simp only [begin?] at begun
      split at begun <;> cases begun
      next accepted =>
        obtain ⟨streaming, _, rfl⟩ := acceptReceived_ok accepted
        exact .received streaming
  | closeRequest =>
      simp only [begin?] at begun
      split at begun <;> cases begun
      next accepted =>
        obtain ⟨streaming, _, rfl, rfl⟩ := acceptCloseRequest_ok accepted
        exact .closeRequest streaming
  | closed =>
      simp only [begin?] at begun
      split at begun <;> cases begun
      next accepted =>
        obtain ⟨live, _, rfl, rfl⟩ := beginClose_ok accepted
        exact .closed live

/-- What an event would go back to is a state of before the closed event. -/
def Underway.Live : Underway → Prop
  | .closeRequest before | .closed before => before.isClosed = false
  | _ => True

namespace Stroke.Accounted

private theorem of_begin {event : NativeStart} {life next : Lifecycle} {underway : Underway}
    (held : Held life) (begun : event.begin? life = some (underway, next)) :
    Stroke.Accounted ⟨.start event, life, .plain next⟩ ∧ underway.Live := by
  cases NativeStart.begins begun with
  | openRequest created =>
      have live : life.state.isClosed = false := by rw [created]; rfl
      exact ⟨of_live rfl (.of_live rfl (held.native live)) live nofun rfl rfl, trivial⟩
  | writeCompleted | received => exact ⟨of_same rfl held rfl rfl rfl, trivial⟩
  | closeRequest streaming =>
      have live := SocketState.not_isClosed_of_acceptsStreamEvents streaming
      exact ⟨of_live rfl (.of_live rfl (held.native live)) live nofun rfl rfl, live⟩
  | closed live =>
      exact ⟨of_live rfl (.of_native (held.native live) nofun) live nofun rfl rfl, live⟩

/-- Whoever gives a reference up tears down exactly by disposing of the
lifecycle. -/
private theorem tornDown_iff {life given : Lifecycle} (state : given.state = life.state)
    (notDisposed : life.state ≠ .disposed) :
    given.tryTeardown.1.isSome = true ↔
      life.state ≠ .disposed ∧ given.tryTeardown.2.state = .disposed := by
  rw [tryTeardown_isSome_iff (state ▸ notDisposed)]
  exact ⟨fun disposed => ⟨notDisposed, disposed⟩, And.right⟩

private theorem of_releaseNative {life : Lifecycle} (held : Held life) :
    Stroke.Accounted
      ⟨.conclude .releaseNative, life, .ofRelease life life.releaseNative⟩ := by
  cases step : life.releaseNative with
  | error refusal => exact of_refused held
  | ok result =>
      have settled := Held.releaseNative step
      obtain ⟨native, closed, rfl⟩ := releaseNative_ok step
      have notDisposed : life.state ≠ .disposed := by simp [closed]
      have managed := tryTeardown_managedRefs { life with nativeRef := false }
      have given := tryTeardown_nativeRef { life with nativeRef := false }
      exact {
        held := settled
        teardown := tornDown_iff rfl notDisposed
        disposed := fun disposed => absurd disposed notDisposed
        managed := by simp [isRelease, isRetain, Outcome.ofRelease, managed]
        native := by simp [isNativeRelease, Outcome.ofRelease, given] }

private theorem of_conclude {underway : Underway} {ending : Ending} {conclusion : Conclusion}
    {life : Lifecycle} (held : Held life) (live : underway.Live)
    (concluded : underway.conclusion? ending = some conclusion) :
    Stroke.Accounted ⟨.conclude conclusion, life, conclusion.apply life⟩ := by
  cases conclusion with
  | finishOpen =>
      have finishing := held.finishOpen
      simp only [Conclusion.apply]
      rcases finishOpen_cases life with ⟨opening, _, finished⟩ | ⟨_, finished⟩
      · have early : life.state.isClosed = false := by rw [opening]; rfl
        rw [finished] at finishing ⊢
        exact of_live rfl finishing early (by simp) rfl rfl
      · rw [finished]
        exact of_same rfl held rfl rfl rfl
  | abortOpen =>
      have aborting := held.abortOpen
      simp only [Conclusion.apply]
      rcases abortOpen_cases life with ⟨opening, _, aborted⟩ | ⟨_, aborted⟩
      · have early : life.state.isClosed = false := by rw [opening]; rfl
        rw [aborted] at aborting ⊢
        exact of_live rfl aborting early (by simp) rfl rfl
      · rw [aborted]
        exact of_same rfl held rfl rfl rfl
  | abortReceived byteCount =>
      simp only [Conclusion.apply]
      rcases abortReceived_cases byteCount life with ⟨_, _, _, aborted⟩ | aborted
      · rw [aborted]
        exact of_same rfl held rfl rfl rfl
      · rw [aborted]
        exact of_same rfl held rfl rfl rfl
  | abortCloseRequest before =>
      have back : before.isClosed = false := by
        cases underway <;> cases ending <;> simp_all [Underway.conclusion?, Underway.Live]
      have aborting := held.abortCloseRequest back
      simp only [Conclusion.apply]
      rcases abortCloseRequest_cases before life with ⟨pending, _, _, aborted⟩ | ⟨_, aborted⟩
      · have early : life.state.isClosed = false := by rw [pending]; rfl
        rw [aborted] at aborting ⊢
        refine of_live rfl aborting early ?_ rfl rfl
        rintro rfl
        cases back
      · rw [aborted]
        exact of_same rfl held rfl rfl rfl
  | abortClose before =>
      have back : before.isClosed = false := by
        cases underway <;> cases ending <;> simp_all [Underway.conclusion?, Underway.Live]
      have aborting := held.abortClose back
      simp only [Conclusion.apply]
      rcases abortClose_cases before life with ⟨closed, native, aborted⟩ | ⟨_, aborted⟩
      · rw [aborted] at aborting ⊢
        refine of_neutral rfl aborting ?_ rfl rfl
        rw [closed]
        cases before <;> simp_all [SocketState.isClosed]
      · rw [aborted]
        exact of_same rfl held rfl rfl rfl
  | releaseNative => exact of_releaseNative held

/-! ### The managed side -/

private theorem of_retain {life : Lifecycle} (held : Held life) :
    Stroke.Accounted ⟨.managed .retain, life, .ofStep life life.retain⟩ := by
  cases step : life.retain with
  | error refusal => exact of_refused held
  | ok result =>
      have taken := held.retain step
      obtain ⟨live, next, _⟩ := retain_ok step
      have notDisposed : life.state ≠ .disposed := by
        intro disposed
        rw [disposed] at live
        cases live
      simp only [Outcome.ofStep, next] at taken ⊢
      exact {
        held := taken
        teardown := by simp [Outcome.plain, notDisposed]
        disposed := fun disposed => absurd disposed notDisposed
        managed := by simp [isRelease, isRetain, Outcome.plain]
        native := by simp [isNativeRelease, Outcome.plain] }

private theorem of_release {life : Lifecycle} (held : Held life) :
    Stroke.Accounted ⟨.managed .release, life, .ofRelease life life.release⟩ := by
  cases step : life.release with
  | error refusal => exact of_refused held
  | ok result =>
      have settled := held.release step
      obtain ⟨notDisposed, matched, rfl⟩ := release_ok step
      have managed := tryTeardown_managedRefs { life with managedRefs := life.managedRefs - 1 }
      have native := tryTeardown_nativeRef { life with managedRefs := life.managedRefs - 1 }
      exact {
        held := settled
        teardown := tornDown_iff rfl notDisposed
        disposed := fun disposed => absurd disposed notDisposed
        managed := by
          have given : life.managedRefs - 1 + 1 = life.managedRefs := by omega
          simpa [isRelease, isRetain, Outcome.ofRelease, managed] using given
        native := by simp [isNativeRelease, Outcome.ofRelease, native] }

private theorem of_managed (taken : ManagedSection) {life : Lifecycle} (held : Held life) :
    Stroke.Accounted ⟨.managed taken, life, taken.apply life⟩ := by
  cases taken with
  | retain => exact of_retain held
  | release => exact of_release held
  | adoptPin target =>
      simp only [ManagedSection.apply]
      cases step : life.adoptPin target with
      | error refusal => exact of_refused held
      | ok result =>
          simp only [Outcome.ofStep, (adoptPin_ok step).2]
          exact of_same rfl held rfl rfl rfl
  | markReady =>
      simp only [ManagedSection.apply]
      cases step : life.markReady with
      | error refusal => exact of_refused held
      | ok result =>
          have marking := held.markReady step
          simp only [Outcome.ofStep]
          rcases markReady_ok step with ⟨_, opening, _, marked⟩ | ⟨_, _, marked⟩
          · have early : life.state.isClosed = false := by rw [opening]; rfl
            rw [marked] at marking ⊢
            exact of_live rfl marking early (by dsimp only; split <;> simp) rfl rfl
          · rw [marked]
            exact of_same rfl held rfl rfl rfl
  | checkHandshake =>
      simp only [ManagedSection.apply]
      cases step : life.checkHandshake with
      | error refusal => exact of_refused held
      | ok result =>
          simp only [Outcome.ofStep, (checkHandshake_ok step).2]
          exact of_same rfl held rfl rfl rfl
  | recordWrite byteCount limit =>
      simp only [ManagedSection.apply]
      cases step : life.recordWrite byteCount limit with
      | error refusal => exact of_refused held
      | ok result =>
          simp only [Outcome.ofStep, (recordWrite_ok step).2.2]
          exact of_same rfl held rfl rfl rfl
  | acknowledgeReceive byteCount =>
      simp only [ManagedSection.apply]
      cases step : life.acknowledgeReceive byteCount with
      | error refusal => exact of_refused held
      | ok result =>
          simp only [Outcome.ofStep, (acknowledgeReceive_ok step).2.2.2]
          exact of_same rfl held rfl rfl rfl
  | requestClose =>
      simp only [ManagedSection.apply]
      cases step : life.requestClose with
      | error refusal => exact of_refused held
      | ok result =>
          have requesting := held.requestClose step
          obtain ⟨live, requested⟩ := requestClose_ok step
          simp only [Outcome.ofStep]
          rw [requested] at requesting ⊢
          exact of_live rfl requesting live (by simp) rfl rfl
  | markManagedClosed =>
      have marking := held.markManagedClosed
      simp only [ManagedSection.apply]
      rcases markManagedClosed_cases life with ⟨_, live, marked⟩ | ⟨_, marked⟩
      · rw [marked] at marking ⊢
        exact of_live rfl marking live (by simp) rfl rfl
      · rw [marked]
        exact of_same rfl held rfl rfl rfl

end Stroke.Accounted

/-! ## What a schedule does to the references -/

/-- The invariant between sections. -/
structure Arena.Sound (arena : Arena) : Prop where
  held : Held arena.life
  live : ∀ underway, arena.underway = some underway → underway.Live

/-- The sections of a move: none, which leaves the lifecycle alone, or one,
which is accounted for. -/
private theorem step_cases {arena : Arena} (sound : arena.Sound) (move : Move) :
    (arena.step move).2.Sound ∧
      (((arena.step move).1 = none ∧ (arena.step move).2.life = arena.life) ∨
        ∃ stroke, (arena.step move).1 = some stroke ∧ stroke.Accounted ∧
          stroke.before = arena.life ∧ stroke.outcome.next = (arena.step move).2.life) := by
  obtain ⟨held, live⟩ := sound
  cases move with
  | begin event =>
      cases busy : arena.underway with
      | some underway =>
          have ignored : arena.step (.begin event) = (none, arena) := by
            simp only [Arena.step, busy]
          rw [ignored]
          exact ⟨⟨held, live⟩, .inl ⟨rfl, rfl⟩⟩
      | none =>
          cases begun : event.begin? arena.life with
          | none =>
              simp only [Arena.step, busy, begun]
              exact ⟨⟨held, live⟩, .inr ⟨_, rfl, .of_refused held, rfl, rfl⟩⟩
          | some result =>
              obtain ⟨underway, next⟩ := result
              obtain ⟨accounted, startLive⟩ := Stroke.Accounted.of_begin held begun
              simp only [Arena.step, busy, begun]
              refine ⟨⟨accounted.held, fun other isOther => ?_⟩, .inr ⟨_, rfl, accounted, rfl, rfl⟩⟩
              obtain rfl := Option.some.inj isOther
              exact startLive
  | finish ending =>
      cases concluded : arena.underway.bind (·.conclusion? ending) with
      | none =>
          have silent : arena.step (.finish ending) = (none, ⟨arena.life, none⟩) := by
            simp only [Arena.step, concluded]
          rw [silent]
          exact ⟨⟨held, nofun⟩, .inl ⟨rfl, rfl⟩⟩
      | some conclusion =>
          obtain ⟨underway, isUnderway, concludes⟩ := Option.bind_eq_some_iff.mp concluded
          have accounted := Stroke.Accounted.of_conclude held (live underway isUnderway) concludes
          simp only [Arena.step, concluded]
          exact ⟨⟨accounted.held, nofun⟩, .inr ⟨_, rfl, accounted, rfl, rfl⟩⟩
  | managed taken =>
      have accounted := Stroke.Accounted.of_managed taken held
      exact ⟨⟨accounted.held, live⟩, .inr ⟨_, rfl, accounted, rfl, rfl⟩⟩

theorem Arena.Sound.step {arena : Arena} (sound : arena.Sound) (move : Move) :
    (arena.step move).2.Sound :=
  (step_cases sound move).1

/-- The native side holds its reference until a closed event is over. -/
theorem Arena.Sound.native_step {arena : Arena} (sound : arena.Sound)
    (native : arena.life.nativeRef = true) {move : Move}
    (kept : (arena.step move).1.any (·.isNativeRelease) = false) :
    (arena.step move).2.life.nativeRef = true := by
  obtain ⟨_, ⟨_, same⟩ | ⟨stroke, taken, accounted, before, next⟩⟩ := step_cases sound move
  · rw [same]
    exact native
  · rw [taken] at kept
    apply Bool.not_eq_false _ |>.mp
    intro given
    rw [← next, accounted.native, before, native] at given
    rcases given with nothing | released
    · cases nothing
    · cases released.symm.trans kept

/-- One for a lifecycle that is disposed of. -/
private def disposals (life : Lifecycle) : Nat :=
  if life.state = .disposed then 1 else 0

/-- The accounts of a list of sections, from one lifecycle to another. -/
private structure Tally (start final : Lifecycle) (strokes : List Stroke) : Prop where
  accounted : ∀ stroke ∈ strokes, stroke.Accounted
  teardowns : strokes.countP (·.outcome.teardown.isSome) + disposals start = disposals final
  managed : final.managedRefs + strokes.countP (·.isRelease) =
    start.managedRefs + strokes.countP (·.isRetain)
  native : final.nativeRef = false ↔
    start.nativeRef = false ∨ ∃ stroke ∈ strokes, stroke.isNativeRelease = true

private theorem Tally.nil (life : Lifecycle) : Tally life life [] := by
  refine ⟨?_, ?_, ?_, ?_⟩ <;> simp

private theorem Tally.cons {final : Lifecycle} {stroke : Stroke} {rest : List Stroke}
    (accounted : stroke.Accounted) (tally : Tally stroke.outcome.next final rest) :
    Tally stroke.before final (stroke :: rest) where
  accounted other member := by
    rcases List.mem_cons.mp member with rfl | later
    · exact accounted
    · exact tally.accounted other later
  teardowns := by
    have later := tally.teardowns
    have first := accounted.teardown
    have stays := accounted.disposed
    rw [List.countP_cons]
    unfold disposals at later ⊢
    by_cases torn : stroke.outcome.teardown.isSome = true
    · obtain ⟨before, after⟩ := first.mp torn
      rw [if_pos after] at later
      rw [if_pos torn, if_neg before]
      omega
    · rw [if_neg torn]
      by_cases before : stroke.before.state = .disposed
      · rw [if_pos (stays before)] at later
        rw [if_pos before]
        omega
      · have after : stroke.outcome.next.state ≠ .disposed :=
          fun disposed => torn (first.mpr ⟨before, disposed⟩)
        rw [if_neg after] at later
        rw [if_neg before]
        omega
  managed := by
    have later := tally.managed
    have first := accounted.managed
    rw [List.countP_cons, List.countP_cons]
    cases retain : stroke.isRetain <;> cases release : stroke.isRelease <;>
      simp [retain, release] at first ⊢ <;> omega
  native := by
    rw [tally.native, accounted.native]
    simp only [List.mem_cons, exists_eq_or_imp]
    exact or_assoc

private theorem tally_history {arena : Arena} (sound : arena.Sound) (moves : List Move) :
    Tally arena.life (arena.after moves).life (arena.history moves) ∧
      (arena.after moves).Sound := by
  induction moves generalizing arena with
  | nil => exact ⟨.nil arena.life, sound⟩
  | cons move rest inductionHypothesis =>
      obtain ⟨nextSound, taken⟩ := step_cases sound move
      obtain ⟨tally, finalSound⟩ := inductionHypothesis nextSound
      refine ⟨?_, finalSound⟩
      simp only [Arena.history, Arena.after]
      rcases taken with ⟨none', same⟩ | ⟨stroke, some', accounted, before, next⟩
      · rw [none', ← same]
        exact tally
      · rw [some', ← before]
        rw [← next] at tally
        exact .cons accounted tally

/-- The law of a history: one teardown at most, by disposing of the lifecycle,
which is final; references are held as the state says, and a teardown has come
once nobody holds any. -/
structure TornDownOnce (strokes : List Stroke) : Prop where
  atMostOne : strokes.countP (·.outcome.teardown.isSome) ≤ 1
  byDisposing : ∀ stroke ∈ strokes, stroke.outcome.teardown.isSome = true ↔
    stroke.before.state ≠ .disposed ∧ stroke.outcome.next.state = .disposed
  final : ∀ stroke ∈ strokes, stroke.before.state = .disposed →
    stroke.outcome.next.state = .disposed
  closedHeld : ∀ stroke ∈ strokes, stroke.outcome.next.state = .closed →
    1 ≤ stroke.outcome.next.retainCount
  nativeHeld : ∀ stroke ∈ strokes, stroke.outcome.next.state.isClosed = false →
    stroke.outcome.next.nativeRef = true
  complete : (∃ stroke ∈ strokes, stroke.isNativeRelease = true) →
    strokes.countP (·.isRetain) = strokes.countP (·.isRelease) →
    ∃ stroke ∈ strokes, stroke.outcome.teardown.isSome = true

theorem history_tornDownOnce (moves : List Move) :
    TornDownOnce (Arena.history {} moves) := by
  have begins : Arena.Sound {} := ⟨.fresh, nofun⟩
  obtain ⟨tally, finalSound⟩ := tally_history begins moves
  have teardowns := tally.teardowns
  have start : disposals (Arena.life {}) = 0 := rfl
  rw [start] at teardowns
  refine ⟨?_, fun stroke member => (tally.accounted stroke member).teardown,
    fun stroke member => (tally.accounted stroke member).disposed,
    fun stroke member => (tally.accounted stroke member).held.closed,
    fun stroke member => (tally.accounted stroke member).held.native, ?_⟩
  · unfold disposals at teardowns
    split at teardowns <;> omega
  · intro released balanced
    have native := tally.native.mpr (.inr released)
    have managed := tally.managed
    have nothing : (Arena.life {}).managedRefs = 0 := rfl
    rw [nothing] at managed
    have disposed : (Arena.after {} moves).life.state = .disposed := by
      have held := finalSound.held
      -- Neither live nor closed: the one needs the native reference, the other any.
      cases closed : (Arena.after {} moves).life.state.isClosed with
      | false => simp [held.native closed] at native
      | true =>
          rcases (SocketState.isClosed_iff _).mp closed with closed | disposed
          · have counted := held.closed closed
            simp only [retainCount, native] at counted
            simp at counted
            omega
          · exact disposed
    have torn : 0 < (Arena.history {} moves).countP (·.outcome.teardown.isSome) := by
      unfold disposals at teardowns
      rw [if_pos disposed] at teardowns
      omega
    exact List.countP_pos_iff.mp torn

end TransportBridge.Schedule
