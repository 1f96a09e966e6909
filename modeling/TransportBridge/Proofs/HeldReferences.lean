import TransportBridge.Proofs.LifecycleSteps

/-!
Contract: the references of a lifecycle agree with its state.

`Held` is the invariant: before the closed event the native side holds its
reference, a closed lifecycle is still held by somebody, and a disposed one by
nobody. Every step of a lifecycle keeps it, and only a step that gives a
reference up can produce a teardown.
-/

namespace TransportBridge.Lifecycle

structure Held (life : Lifecycle) : Prop where
  /-- The native reference is not given up before the closed event. -/
  native : life.state.isClosed = false → life.nativeRef = true
  /-- A closed lifecycle waits for somebody. -/
  closed : life.state = .closed → 1 ≤ life.retainCount
  /-- Nobody is left of a disposed one. -/
  disposed : life.state = .disposed → life.nativeRef = false ∧ life.managedRefs = 0

namespace Held

theorem fresh : Held {} where
  native _ := rfl
  closed state := nomatch state
  disposed state := nomatch state

/-- The native reference is enough for any lifecycle that is not disposed of. -/
theorem of_native {life : Lifecycle} (native : life.nativeRef = true)
    (stays : life.state ≠ .disposed) : Held life where
  native _ := native
  closed _ := by
    unfold retainCount
    rw [if_pos native]
    omega
  disposed disposed := absurd disposed stays

/-- A lifecycle that is not closed is held by the native side. -/
theorem of_live {life : Lifecycle} (live : life.state.isClosed = false)
    (native : life.nativeRef = true) : Held life :=
  of_native native (SocketState.ne_disposed_of_not_isClosed live)

/-- Steps that touch neither the state nor the references. -/
theorem of_same {life next : Lifecycle} (held : Held life) (state : next.state = life.state)
    (native : next.nativeRef = life.nativeRef) (managed : next.managedRefs = life.managedRefs) :
    Held next where
  native live := by
    rw [state] at live
    rw [native]
    exact held.native live
  closed closed := by
    rw [state] at closed
    have counted := held.closed closed
    unfold retainCount at counted ⊢
    rw [native, managed]
    exact counted
  disposed disposed := by
    rw [state] at disposed
    rw [native, managed]
    exact held.disposed disposed

/-! ## Events from the native side -/

theorem finishOpen {life : Lifecycle} (held : Held life) : Held life.finishOpen.2 := by
  rcases finishOpen_cases life with ⟨opening, _, finished⟩ | ⟨_, finished⟩
  · rw [finished]
    exact of_live rfl (held.native (by rw [opening]; rfl))
  · rw [finished]
    exact of_same held rfl rfl rfl

theorem abortOpen {life : Lifecycle} (held : Held life) : Held life.abortOpen := by
  rcases abortOpen_cases life with ⟨opening, _, aborted⟩ | ⟨_, aborted⟩
  · rw [aborted]
    exact of_live rfl (held.native (by rw [opening]; rfl))
  · rw [aborted]
    exact held

/-- The state that comes back has to be one of before the closed event, which
it is where it was given by the step that is taken back. -/
theorem abortCloseRequest {life : Lifecycle} {before : SocketState} (held : Held life)
    (live : before.isClosed = false) : Held (life.abortCloseRequest before) := by
  rcases abortCloseRequest_cases before life with ⟨pending, _, _, aborted⟩ | ⟨_, aborted⟩
  · rw [aborted]
    exact of_live live (held.native (by rw [pending]; rfl))
  · rw [aborted]
    exact held

theorem abortClose {life : Lifecycle} {before : SocketState} (held : Held life)
    (live : before.isClosed = false) : Held (life.abortClose before) := by
  rcases abortClose_cases before life with ⟨_, native, aborted⟩ | ⟨_, aborted⟩
  · rw [aborted]
    exact of_live live native
  · rw [aborted]
    exact held

/-! ## Calls from the managed side -/

theorem markReady {life next : Lifecycle} {forward : Bool} (held : Held life)
    (marked : life.markReady = .ok (forward, next)) : Held next := by
  rcases markReady_ok marked with ⟨_, opening, _, rfl⟩ | ⟨_, _, rfl⟩
  · refine of_live ?_ (held.native (by rw [opening]; rfl))
    dsimp only
    split <;> rfl
  · exact held

theorem requestClose {life next : Lifecycle} (held : Held life)
    (requested : life.requestClose = .ok ((), next)) : Held next := by
  obtain ⟨live, rfl⟩ := requestClose_ok requested
  exact of_live rfl (held.native live)

theorem markManagedClosed {life : Lifecycle} (held : Held life) :
    Held life.markManagedClosed.2 := by
  rcases markManagedClosed_cases life with ⟨_, live, marked⟩ | ⟨_, marked⟩
  · rw [marked]
    exact of_live rfl (held.native live)
  · rw [marked]
    exact held

theorem retain {life next : Lifecycle} {count : Nat} (held : Held life)
    (retained : life.retain = .ok (count, next)) : Held next := by
  obtain ⟨live, rfl, _⟩ := retain_ok retained
  exact of_live live (held.native live)

/-! ## Giving references up -/

/-- Trying a teardown settles the references of any lifecycle that is held but
for being closed and held by nobody. -/
private theorem tryTeardown {life : Lifecycle}
    (native : life.state.isClosed = false → life.nativeRef = true)
    (notDisposed : life.state ≠ .disposed) : Held life.tryTeardown.2 := by
  rcases tryTeardown_cases life with ⟨unheld, _, torn⟩ | ⟨needed, torn⟩
  · rw [torn]
    refine ⟨(nomatch ·), (nomatch ·), ?_⟩
    intro _
    unfold retainCount at unheld
    cases given : life.nativeRef with
    | true => simp [given] at unheld
    | false =>
        have unmanaged : life.managedRefs = 0 := by simpa [given] using unheld
        exact ⟨given, unmanaged⟩
  · rw [torn]
    refine ⟨native, ?_, fun disposed => absurd disposed notDisposed⟩
    intro closed
    rcases needed with counted | open'
    · exact Nat.one_le_iff_ne_zero.mpr counted
    · exact absurd closed open'

theorem release {life : Lifecycle} {outcome : Option Teardown × Lifecycle} (held : Held life)
    (released : life.release = .ok outcome) : Held outcome.2 := by
  obtain ⟨notDisposed, _, rfl⟩ := release_ok released
  exact tryTeardown held.native notDisposed

theorem releaseNative {life : Lifecycle} {outcome : Option Teardown × Lifecycle}
    (released : life.releaseNative = .ok outcome) : Held outcome.2 := by
  obtain ⟨_, closed, rfl⟩ := releaseNative_ok released
  refine tryTeardown (fun live => ?_) (fun disposed => ?_)
  · rw [closed] at live
    cases live
  · rw [closed] at disposed
    cases disposed

end Held

/-! ## What a teardown needs -/

/-- A teardown is produced exactly by disposing of the lifecycle. -/
theorem tryTeardown_isSome_iff {life : Lifecycle} (notDisposed : life.state ≠ .disposed) :
    life.tryTeardown.1.isSome = true ↔ life.tryTeardown.2.state = .disposed := by
  rcases tryTeardown_cases life with ⟨_, _, torn⟩ | ⟨_, torn⟩
  · rw [torn]
    exact ⟨fun _ => rfl, fun _ => rfl⟩
  · rw [torn]
    exact ⟨(nomatch ·), fun disposed => absurd disposed notDisposed⟩

theorem tryTeardown_managedRefs (life : Lifecycle) :
    life.tryTeardown.2.managedRefs = life.managedRefs := by
  rw [tryTeardown_frame]

theorem tryTeardown_nativeRef (life : Lifecycle) :
    life.tryTeardown.2.nativeRef = life.nativeRef := by
  rw [tryTeardown_frame]

theorem tryTeardown_managedClosed (life : Lifecycle) :
    life.tryTeardown.2.managedClosed = life.managedClosed := by
  rw [tryTeardown_frame]

/-! ## A lifecycle that is closing -/

/-- The closed event is being delivered, and the native side holds its
reference until that is over. -/
def Closing (life : Lifecycle) : Prop :=
  life.state = .closed ∧ life.nativeRef = true

theorem not_closing_of_live {life : Lifecycle} (live : life.state.isClosed = false) :
    ¬ life.Closing := by
  rintro ⟨closed, _⟩
  rw [closed] at live
  cases live

/-- As long as the native side holds its reference, a closed lifecycle is one
that is closing. -/
theorem Held.closing_iff {life : Lifecycle} (held : Held life) (native : life.nativeRef = true) :
    life.Closing ↔ life.state.isClosed = true := by
  constructor
  · rintro ⟨closed, _⟩
    rw [closed]
    rfl
  · intro closed
    rcases (SocketState.isClosed_iff _).mp closed with closed | disposed
    · exact ⟨closed, native⟩
    · rw [(held.disposed disposed).1] at native
      cases native

/-- A closing lifecycle lets the native reference go. -/
theorem releaseNative_of_closing {life : Lifecycle} (closing : life.Closing) :
    life.releaseNative = .ok { life with nativeRef := false }.tryTeardown := by
  obtain ⟨closed, native⟩ := closing
  unfold releaseNative
  rw [if_neg (Decidable.not_not.mpr native), if_neg (Decidable.not_not.mpr closed)]

theorem finishOpen_closing (life : Lifecycle) : life.finishOpen.2.Closing ↔ life.Closing := by
  rcases finishOpen_cases life with ⟨opening, _, finished⟩ | ⟨_, finished⟩
  · rw [finished]
    exact iff_of_false (not_closing_of_live rfl) (not_closing_of_live (by rw [opening]; rfl))
  · rw [finished]
    exact .rfl

/-- A release makes no lifecycle closing, nor the only one closing no more. -/
theorem release_closing {life : Lifecycle} {outcome : Option Teardown × Lifecycle}
    (released : life.release = .ok outcome) : outcome.2.Closing ↔ life.Closing := by
  obtain ⟨_, _, rfl⟩ := release_ok released
  rcases tryTeardown_cases { life with managedRefs := life.managedRefs - 1 } with
    ⟨unheld, _, torn⟩ | ⟨_, torn⟩
  · rw [torn]
    apply iff_of_false (nomatch ·.1)
    intro closing
    simp [retainCount, closing.2] at unheld
  · rw [torn]
    exact .rfl

end TransportBridge.Lifecycle
