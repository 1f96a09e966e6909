import TransportBridge.Proofs.Attained
import TransportBridge.Proofs.Schedule

/-!
Contract: a managed close and the closed event of the native side, in any order.

A closed event makes the lifecycle closed when it begins, and makes it what it
was before when it cannot be delivered. Between these two sections a managed
close finds the lifecycle closed, and is ignored as one that comes after the
end of the connection. It is not made up for when the end is taken back.

Owns: where a schedule places a managed close, and who hears of it; and that
no managed close is lost in a run, as user code has the word only where a
closed event has not begun or is being delivered.
-/

namespace TransportBridge.Schedule

open Lifecycle

/-- The section of a managed close that the native side is told of. -/
def Stroke.tellsClose (stroke : Stroke) : Bool :=
  stroke.operation = .managed .markManagedClosed && stroke.before.markManagedClosed.1

def Underway.isClosed : Underway → Bool
  | .closed _ => true
  | _ => false

theorem Underway.concludes_of_isClosed {underway : Underway} (closed : underway.isClosed = true)
    (ending : Ending) : ∃ conclusion, underway.conclusion? ending = some conclusion := by
  cases underway with
  | closed before => cases ending <;> exact ⟨_, rfl⟩
  | _ => cases closed

/-- A closed event is under way. -/
def Arena.closing (arena : Arena) : Bool :=
  arena.underway.any Underway.isClosed

/-- A managed close is placed where no closed event is under way. -/
def Arena.ClosedOutside (arena : Arena) (moves : List Move) : Prop :=
  ∃ earlier later, moves = earlier ++ .managed .markManagedClosed :: later ∧
    (arena.after earlier).closing = false

theorem Arena.closedOutside_cons {arena : Arena} {move : Move} {rest : List Move} :
    arena.ClosedOutside (move :: rest) ↔
      (move = .managed .markManagedClosed ∧ arena.closing = false) ∨
        (arena.step move).2.ClosedOutside rest := by
  constructor
  · rintro ⟨earlier, later, split, outside⟩
    cases earlier with
    | nil =>
        obtain ⟨rfl, rfl⟩ := List.cons.inj split
        exact .inl ⟨rfl, outside⟩
    | cons first earlier =>
        obtain ⟨rfl, rfl⟩ := List.cons.inj split
        exact .inr ⟨earlier, later, rfl, outside⟩
  · rintro (⟨rfl, outside⟩ | ⟨earlier, later, rfl, outside⟩)
    · exact ⟨[], rest, rfl, outside⟩
    · exact ⟨move :: earlier, later, rfl, outside⟩

theorem Arena.after_append (arena : Arena) (moves more : List Move) :
    arena.after (moves ++ more) = (arena.after moves).after more := by
  induction moves generalizing arena with
  | nil => rfl
  | cons move rest inductionHypothesis => exact inductionHypothesis (arena.step move).2

/-! ## What one section does -/

/-- The section neither begins nor ends a closing, and makes no managed
close. -/
structure Spares (life next : Lifecycle) : Prop where
  closing : next.Closing ↔ life.Closing
  managedClosed : next.managedClosed = life.managedClosed

namespace Spares

theorem refl (life : Lifecycle) : Spares life life :=
  ⟨.rfl, rfl⟩

theorem of_live {life next : Lifecycle} (live : life.state.isClosed = false)
    (stays : next.state.isClosed = false)
    (managedClosed : next.managedClosed = life.managedClosed) : Spares life next :=
  ⟨iff_of_false (not_closing_of_live stays) (not_closing_of_live live), managedClosed⟩

theorem finishOpen (life : Lifecycle) : Spares life life.finishOpen.2 := by
  refine ⟨finishOpen_closing life, ?_⟩
  rw [finishOpen_frame]

theorem abortOpen (life : Lifecycle) : Spares life life.abortOpen := by
  rcases abortOpen_cases life with ⟨opening, _, aborted⟩ | ⟨_, aborted⟩
  · rw [aborted]
    exact .of_live (by rw [opening]; rfl) rfl rfl
  · rw [aborted]
    exact .refl life

theorem abortReceived (byteCount : Nat) (life : Lifecycle) :
    Spares life (life.abortReceived byteCount).2 := by
  rcases abortReceived_cases byteCount life with ⟨_, _, _, aborted⟩ | aborted <;> rw [aborted]
  · exact ⟨.rfl, rfl⟩
  · exact .refl life

theorem abortCloseRequest {before : SocketState} (live : before.isClosed = false)
    (life : Lifecycle) : Spares life (life.abortCloseRequest before) := by
  rcases abortCloseRequest_cases before life with ⟨pending, _, _, aborted⟩ | ⟨_, aborted⟩
  · rw [aborted]
    exact .of_live (by rw [pending]; rfl) live rfl
  · rw [aborted]
    exact .refl life

theorem ofStep {α : Type} {life : Lifecycle} {step : Step α}
    (taken : ∀ result next, step = .ok (result, next) → Spares life next) :
    Spares life (Outcome.ofStep life step).next := by
  cases step with
  | error refusal => exact .refl life
  | ok outcome => exact taken outcome.1 outcome.2 rfl

theorem release (life : Lifecycle) : Spares life (Outcome.ofRelease life life.release).next := by
  cases step : life.release with
  | error refusal => exact .refl life
  | ok outcome =>
      refine ⟨release_closing step, ?_⟩
      obtain ⟨_, _, rfl⟩ := release_ok step
      exact tryTeardown_managedClosed _

/-- A managed close apart, the managed side leaves both alone. -/
theorem managed {taken : ManagedSection} (other : taken ≠ .markManagedClosed)
    (life : Lifecycle) : Spares life (taken.apply life).next := by
  cases taken with
  | markManagedClosed => exact absurd rfl other
  | adoptPin target =>
      refine .ofStep fun _ next adopted => ?_
      rw [(adoptPin_ok adopted).2]
      exact ⟨.rfl, rfl⟩
  | markReady =>
      refine .ofStep fun _ next marked => ?_
      rcases markReady_ok marked with ⟨_, opening, _, rfl⟩ | ⟨_, _, rfl⟩
      · exact .of_live (by rw [opening]; rfl) (by dsimp only; split <;> rfl) rfl
      · exact .refl next
  | checkHandshake =>
      refine .ofStep fun _ next checked => ?_
      rw [(checkHandshake_ok checked).2]
      exact .refl life
  | recordWrite byteCount limit =>
      refine .ofStep fun _ next recorded => ?_
      rw [(recordWrite_ok recorded).2.2]
      exact ⟨.rfl, rfl⟩
  | acknowledgeReceive byteCount =>
      refine .ofStep fun _ next acknowledged => ?_
      rw [(acknowledgeReceive_ok acknowledged).2.2.2]
      exact ⟨.rfl, rfl⟩
  | requestClose =>
      refine .ofStep fun _ next requested => ?_
      obtain ⟨live, rfl⟩ := requestClose_ok requested
      exact .of_live live rfl rfl
  | retain =>
      refine .ofStep fun _ next retained => ?_
      obtain ⟨_, rfl, _⟩ := retain_ok retained
      exact ⟨.rfl, rfl⟩
  | release => exact .release life

end Spares

/-- An event begins before the end only, and only the closed event ends. -/
theorem begin_ok {event : NativeStart} {life next : Lifecycle} {underway : Underway}
    (begun : event.begin? life = some (underway, next)) :
    life.state.isClosed = false ∧ next.state.isClosed = underway.isClosed ∧
      next.nativeRef = life.nativeRef ∧ next.managedClosed = life.managedClosed := by
  cases NativeStart.begins begun with
  | openRequest created => exact ⟨by rw [created]; rfl, rfl, rfl, rfl⟩
  | writeCompleted streaming | received streaming =>
      have live := SocketState.not_isClosed_of_acceptsStreamEvents streaming
      exact ⟨live, live, rfl, rfl⟩
  | closeRequest streaming =>
      exact ⟨SocketState.not_isClosed_of_acceptsStreamEvents streaming, rfl, rfl, rfl⟩
  | closed live => exact ⟨live, rfl, rfl, rfl⟩

/-- A closed event that could not be delivered is taken back. -/
private theorem abortClose_ended {before : SocketState} (back : before.isClosed = false)
    {life : Lifecycle} (closing : life.Closing) :
    ¬ (life.abortClose before).Closing ∧
      (life.abortClose before).managedClosed = life.managedClosed := by
  obtain ⟨closed, native⟩ := closing
  unfold abortClose
  rw [if_pos ⟨closed, native⟩]
  exact ⟨not_closing_of_live back, rfl⟩

/-- After the callback of a closed event the native side holds no reference. -/
private theorem releaseNative_ended {life : Lifecycle} (closing : life.Closing) :
    ¬ (Outcome.ofRelease life life.releaseNative).next.Closing ∧
      (Outcome.ofRelease life life.releaseNative).next.managedClosed = life.managedClosed := by
  rw [releaseNative_of_closing closing]
  refine ⟨?_, tryTeardown_managedClosed _⟩
  rintro ⟨_, native⟩
  cases native.symm.trans (tryTeardown_nativeRef _)

/-- The end of an event leaves no lifecycle closing, if only a closed event had
made it so. -/
theorem conclude_ok {underway : Underway} {ending : Ending} {conclusion : Conclusion}
    {life : Lifecycle} (live : underway.Live)
    (closing : underway.isClosed = true ↔ life.Closing)
    (concluded : underway.conclusion? ending = some conclusion) :
    ¬ (conclusion.apply life).next.Closing ∧
      (conclusion.apply life).next.managedClosed = life.managedClosed := by
  have ended {next : Lifecycle} (other : underway.isClosed = false) (spares : Spares life next) :
      ¬ next.Closing ∧ next.managedClosed = life.managedClosed := by
    refine ⟨fun still => ?_, spares.managedClosed⟩
    have wasClosed := closing.mpr (spares.closing.mp still)
    rw [other] at wasClosed
    cases wasClosed
  cases underway with
  | openRequest =>
      cases ending with
      | delivered => cases concluded; exact ended rfl (.finishOpen life)
      | undelivered => cases concluded; exact ended rfl (.abortOpen life)
      | panicked => cases concluded
  | writeCompleted => cases concluded
  | received byteCount =>
      cases ending with
      | delivered => cases concluded
      | undelivered => cases concluded; exact ended rfl (.abortReceived byteCount life)
      | panicked => cases concluded
  | closeRequest before =>
      cases ending with
      | delivered => cases concluded
      | undelivered => cases concluded; exact ended rfl (.abortCloseRequest live life)
      | panicked => cases concluded
  | closed before =>
      cases ending with
      | undelivered => cases concluded; exact abortClose_ended live (closing.mp rfl)
      | delivered => cases concluded; exact releaseNative_ended (closing.mp rfl)
      | panicked => cases concluded; exact releaseNative_ended (closing.mp rfl)

/-! ## What one move does -/

/-- The native side is told by no other move. -/
theorem Arena.untold (arena : Arena) {move : Move} (other : move ≠ .managed .markManagedClosed) :
    (arena.step move).1.any Stroke.tellsClose = false := by
  cases move with
  | begin event =>
      simp only [step]
      split
      · rfl
      · split <;> rfl
  | finish ending =>
      simp only [step]
      split <;> rfl
  | managed taken =>
      have another : taken ≠ .markManagedClosed := fun same => other (by rw [same])
      simp [step, Stroke.tellsClose, another]

/-- The lifecycle is closing exactly while a closed event is under way. -/
structure Arena.InStep (arena : Arena) : Prop where
  sound : arena.Sound
  closing : arena.closing = true ↔ arena.life.Closing

/-- The managed side has closed if it had before, or if the native side is told
of it by the move. -/
def Arena.Remembers (arena : Arena) (move : Move) : Prop :=
  (arena.step move).2.life.managedClosed =
    (arena.life.managedClosed || (arena.step move).1.any Stroke.tellsClose)

namespace Arena.InStep

variable {arena : Arena}

theorem start : InStep {} where
  sound := ⟨.fresh, nofun⟩
  closing := iff_of_false (nomatch ·) (nomatch ·.1)

private theorem begin (inStep : arena.InStep) (event : NativeStart) :
    (arena.step (.begin event)).2.InStep ∧ arena.Remembers (.begin event) := by
  have sound := inStep.sound.step (.begin event)
  unfold Remembers
  cases busy : arena.underway with
  | some underway =>
      have ignored : arena.step (.begin event) = (none, arena) := by
        simp only [Arena.step, busy]
      rw [ignored]
      exact ⟨inStep, (Bool.or_false _).symm⟩
  | none =>
      cases begun : event.begin? arena.life with
      | none =>
          have refused : arena.step (.begin event) =
              (some ⟨.start event, arena.life, .refused arena.life⟩, arena) := by
            simp only [Arena.step, busy, begun]
          rw [refused]
          exact ⟨inStep, (Bool.or_false _).symm⟩
      | some result =>
          obtain ⟨underway, next⟩ := result
          have entered : arena.step (.begin event) =
              (some ⟨.start event, arena.life, .plain next⟩, ⟨next, some underway⟩) := by
            simp only [Arena.step, busy, begun]
          obtain ⟨live, ends, native, managedClosed⟩ := begin_ok begun
          rw [entered] at sound ⊢
          refine ⟨⟨sound, ?_⟩, managedClosed.trans (Bool.or_false _).symm⟩
          have held := sound.held.closing_iff (native.trans (inStep.sound.held.native live))
          rw [held, ends]
          exact .rfl

private theorem finish (inStep : arena.InStep) (ending : Ending) :
    (arena.step (.finish ending)).2.InStep ∧ arena.Remembers (.finish ending) := by
  have sound := inStep.sound.step (.finish ending)
  unfold Remembers
  cases concluded : arena.underway.bind (·.conclusion? ending) with
  | none =>
      have silent : arena.step (.finish ending) = (none, ⟨arena.life, none⟩) := by
        simp only [Arena.step, concluded]
      rw [silent] at sound ⊢
      refine ⟨⟨sound, iff_of_false Bool.false_ne_true fun closing => ?_⟩, (Bool.or_false _).symm⟩
      obtain ⟨underway, isUnderway, isClosed⟩ :=
        (Option.any_eq_true _ _).mp (inStep.closing.mpr closing)
      obtain ⟨conclusion, concludes⟩ := Underway.concludes_of_isClosed isClosed ending
      rw [isUnderway] at concluded
      cases concludes.symm.trans concluded
  | some conclusion =>
      obtain ⟨underway, isUnderway, concludes⟩ := Option.bind_eq_some_iff.mp concluded
      have taken : arena.step (.finish ending) =
          (some ⟨.conclude conclusion, arena.life, conclusion.apply arena.life⟩,
            ⟨(conclusion.apply arena.life).next, none⟩) := by
        simp only [Arena.step, concluded]
      have closing : underway.isClosed = true ↔ arena.life.Closing := by
        rw [← inStep.closing]
        unfold Arena.closing
        rw [isUnderway]
        exact .rfl
      obtain ⟨ended, managedClosed⟩ :=
        conclude_ok (inStep.sound.live underway isUnderway) closing concludes
      rw [taken] at sound ⊢
      exact ⟨⟨sound, iff_of_false Bool.false_ne_true ended⟩,
        managedClosed.trans (Bool.or_false _).symm⟩

private theorem managed (inStep : arena.InStep) (taken : ManagedSection) :
    (arena.step (.managed taken)).2.InStep ∧ arena.Remembers (.managed taken) := by
  have sound := inStep.sound.step (.managed taken)
  by_cases closes : taken = .markManagedClosed
  · subst closes
    have told : (arena.step (.managed .markManagedClosed)).1.any Stroke.tellsClose =
        arena.life.markManagedClosed.1 := rfl
    have left : (arena.step (.managed .markManagedClosed)).2.life =
        arena.life.markManagedClosed.2 := rfl
    unfold Remembers
    rw [told, left]
    rcases markManagedClosed_cases arena.life with ⟨unclosed, live, marked⟩ | ⟨_, marked⟩
    · rw [marked]
      refine ⟨⟨sound, inStep.closing.trans ?_⟩, (Bool.or_true _).symm⟩
      rw [left, marked]
      exact iff_of_false (not_closing_of_live live) (not_closing_of_live rfl)
    · rw [marked]
      refine ⟨⟨sound, inStep.closing.trans ?_⟩, (Bool.or_false _).symm⟩
      rw [left, marked]
  · have spares := Spares.managed closes arena.life
    refine ⟨⟨sound, inStep.closing.trans spares.closing.symm⟩, ?_⟩
    have untold : (arena.step (.managed taken)).1.any Stroke.tellsClose = false := by
      simp [Arena.step, Stroke.tellsClose, closes]
    unfold Remembers
    rw [untold, Bool.or_false]
    exact spares.managedClosed

theorem step (inStep : arena.InStep) (move : Move) :
    (arena.step move).2.InStep ∧ arena.Remembers move := by
  cases move with
  | begin event => exact inStep.begin event
  | finish ending => exact inStep.finish ending
  | managed taken => exact inStep.managed taken

theorem after (inStep : arena.InStep) (moves : List Move) : (arena.after moves).InStep := by
  induction moves generalizing arena with
  | nil => exact inStep
  | cons move rest inductionHypothesis => exact inductionHypothesis (inStep.step move).1

/-- While a closed event is under way, a managed close changes nothing, and the
native side is not told of it. -/
theorem ignored (inStep : arena.InStep) (closing : arena.closing = true) :
    arena.step (.managed .markManagedClosed) =
      (some ⟨.managed .markManagedClosed, arena.life, .plain arena.life⟩, arena) := by
  have closed := (inStep.closing.mp closing).1
  have marked : arena.life.markManagedClosed = (false, arena.life) := by
    rcases markManagedClosed_cases arena.life with ⟨_, live, _⟩ | ⟨_, marked⟩
    · rw [closed] at live
      cases live
    · exact marked
  simp only [Arena.step, ManagedSection.apply, marked, Outcome.plain]

theorem tells_iff (inStep : arena.InStep) (native : arena.life.nativeRef = true) :
    (arena.step (.managed .markManagedClosed)).1.any Stroke.tellsClose = true ↔
      arena.life.managedClosed = false ∧ arena.closing = false := by
  have told : (arena.step (.managed .markManagedClosed)).1.any Stroke.tellsClose =
      arena.life.markManagedClosed.1 := rfl
  have live : arena.closing = false ↔ arena.life.state.isClosed = false := by
    rw [← Bool.not_eq_true, ← Bool.not_eq_true, inStep.closing,
      inStep.sound.held.closing_iff native]
  rw [told, live]
  rcases markManagedClosed_cases arena.life with ⟨unclosed, live, marked⟩ | ⟨ended, marked⟩
  · rw [marked]
    exact iff_of_true rfl ⟨unclosed, live⟩
  · rw [marked]
    refine iff_of_false (nomatch ·) fun both => ?_
    rcases ended with closed | closed
    · cases closed.symm.trans both.1
    · cases closed.symm.trans both.2

end Arena.InStep

/-! ## Schedules -/

theorem exists_history_cons {arena : Arena} {move : Move} {rest : List Move}
    {wanted : Stroke → Bool} :
    (∃ stroke ∈ arena.history (move :: rest), wanted stroke = true) ↔
      (arena.step move).1.any wanted = true ∨
        ∃ stroke ∈ (arena.step move).2.history rest, wanted stroke = true := by
  simp only [Arena.history, List.mem_append, Option.mem_toList, Option.any_eq_true, or_and_right,
    exists_or]

/-- As long as no closed callback has run, the managed side is on record as
closed if it was before, or if a managed close is placed outside all closed
events. -/
private theorem told_iff {arena : Arena} (inStep : arena.InStep)
    (native : arena.life.nativeRef = true) (moves : List Move)
    (unended : ¬ ∃ stroke ∈ arena.history moves, stroke.isNativeRelease = true) :
    (arena.life.managedClosed = true ∨
        ∃ stroke ∈ arena.history moves, stroke.tellsClose = true) ↔
      arena.life.managedClosed = true ∨ arena.ClosedOutside moves := by
  induction moves generalizing arena with
  | nil => simp [Arena.history, Arena.ClosedOutside]
  | cons move rest inductionHypothesis =>
      rw [exists_history_cons, not_or] at unended
      obtain ⟨unendedNow, unendedLater⟩ := unended
      have nativeStill := inStep.sound.native_step native (Bool.eq_false_iff.mpr unendedNow)
      obtain ⟨nextInStep, remembers⟩ := inStep.step move
      have later := inductionHypothesis nextInStep nativeStill unendedLater
      rw [exists_history_cons, Arena.closedOutside_cons]
      unfold Arena.Remembers at remembers
      rw [remembers, Bool.or_eq_true, or_assoc, or_assoc] at later
      rw [later]
      by_cases closes : move = .managed .markManagedClosed
      · subst closes
        rw [inStep.tells_iff native]
        cases arena.life.managedClosed <;> simp
      · simp only [arena.untold closes, closes, Bool.false_eq_true, false_and]

/-- Who hears of managed closes. Somebody does exactly if the callback of a
closed event has run, or if a managed close is placed where no closed event is
under way. The schedule comes to the same without one that is placed within a
closed event, so that it is lost if the event cannot be delivered. -/
theorem managedClose_heard (moves : List Move) :
    ((∃ stroke ∈ Arena.history {} moves, stroke.tellsClose = true) ∨
        (∃ stroke ∈ Arena.history {} moves, stroke.isNativeRelease = true) ↔
      Arena.ClosedOutside {} moves ∨
        ∃ stroke ∈ Arena.history {} moves, stroke.isNativeRelease = true) ∧
    ∀ earlier later, moves = earlier ++ .managed .markManagedClosed :: later →
      (Arena.after {} earlier).closing = true →
        Arena.after {} moves = Arena.after {} (earlier ++ later) := by
  constructor
  · by_cases ended : ∃ stroke ∈ Arena.history {} moves, stroke.isNativeRelease = true
    · exact iff_of_true (.inr ended) (.inr ended)
    · have told := told_iff .start rfl moves ended
      have unclosed : ¬ (Arena.life {}).managedClosed = true := nofun
      rw [or_iff_right unclosed, or_iff_right unclosed] at told
      rw [told]
  · rintro earlier later rfl closing
    have inStep : (Arena.after {} earlier).InStep := Arena.InStep.start.after earlier
    rw [Arena.after_append, Arena.after_append, Arena.after, inStep.ignored closing]

/-- The connection is adopted and ends. While the native side tries in vain to
say so, the managed side closes. -/
def closedWithin : List Move :=
  [.managed (.adoptPin ⟨0⟩), .begin .closed, .managed .markManagedClosed, .finish .undelivered]

/-- Nobody hears of the close, and the connection is as it was adopted. -/
theorem managedClose_unheard_within :
    (∀ stroke ∈ Arena.history {} closedWithin,
      stroke.tellsClose = false ∧ stroke.isNativeRelease = false) ∧
    Arena.after {} closedWithin =
      Arena.after {} [.managed (.adoptPin ⟨0⟩), .begin .closed, .finish .undelivered] ∧
    (Arena.after {} closedWithin).life = { pin := some ⟨0⟩ } := by
  obtain ⟨_, within⟩ := managedClose_heard closedWithin
  have same := within [.managed (.adoptPin ⟨0⟩), .begin .closed] [.finish .undelivered] rfl
    (by decide)
  exact ⟨by decide, same, by decide⟩

end TransportBridge.Schedule

/-! ## Runs -/

namespace TransportBridge

namespace Lifecycle

variable {life next : Lifecycle}

theorem Forwards.managedClosed {limit : Nat} {call : EngineCall}
    (forwards : life.Forwards limit call next) :
    next.managedClosed = life.managedClosed ∨ ∃ error, call = .closed error := by
  cases forwards with
  | opened marked =>
      rcases markReady_ok marked with ⟨_, _, _, rfl⟩ | ⟨unforwarded, _⟩
      · exact .inl rfl
      · cases unforwarded
  | httpResponse checked => exact .inl (by rw [(checkHandshake_ok checked).2])
  | write recorded => exact .inl (by rw [(recordWrite_ok recorded).2.2])
  | completedReceive acknowledged => exact .inl (by rw [(acknowledgeReceive_ok acknowledged).2.2.2])
  | closeRequest requested => exact .inl (by rw [(requestClose_ok requested).2])
  | closed marked => exact .inr ⟨_, rfl⟩

end Lifecycle

/-- The managed side is on record as closed only if the engine has been told. -/
def Lifecycle.ClosesAloud (life : Lifecycle) (deeds : List Deed) : Prop :=
  life.managedClosed = true → ∃ error, .forwarded (.closed error) ∈ deeds

namespace Lifecycle.ClosesAloud

variable {life next : Lifecycle} {deeds told : List Deed}

theorem of_same (aloud : life.ClosesAloud deeds)
    (same : next.managedClosed = life.managedClosed) (kept : deeds ⊆ told) :
    next.ClosesAloud told := by
  intro closed
  rw [same] at closed
  obtain ⟨error, forwarded⟩ := aloud closed
  exact ⟨error, kept forwarded⟩

theorem turn (aloud : life.ClosesAloud deeds) (reflects : life.Reflects deeds)
    (held : life.Held) (turn : Turn life deeds next told) : next.ClosesAloud told := by
  cases turn with
  | idle => exact aloud
  | registered => exact nofun
  | called accepts =>
      have same : next.managedClosed = life.managedClosed := by rw [accepts.frame]
      exact aloud.of_same same (List.subset_append_left _ _)
  | missed misses =>
      exact aloud.of_same (reflects.same_of_misses held misses).managedClosed (List.Subset.refl _)
  | opened =>
      have same := (Schedule.Spares.finishOpen life).managedClosed
      exact aloud.of_same same (List.Subset.refl _)
  | settled given =>
      obtain ⟨_, _, rfl⟩ := releaseNative_ok given
      exact aloud.of_same (tryTeardown_managedClosed _) (List.Subset.refl _)
  | forwarded forwards =>
      rcases forwards.managedClosed with same | ⟨error, rfl⟩
      · exact aloud.of_same same (List.subset_append_left _ _)
      · exact fun _ => ⟨error, List.mem_concat_self⟩
  | retained taken =>
      obtain ⟨_, rfl, _⟩ := retain_ok taken
      exact aloud.of_same (by rfl) (List.subset_append_left _ _)
  | released given =>
      obtain ⟨_, _, rfl⟩ := release_ok given
      exact aloud.of_same (tryTeardown_managedClosed _) (List.subset_append_left _ _)
  | unreleased => exact aloud.of_same rfl (List.subset_append_left _ _)

end Lifecycle.ClosesAloud

namespace Attained

variable {σ : Type} [Custodian σ] {world : World σ Mark}

theorem closesAloud (attained : Attained world) (id : EntryId) :
    (world.life id).ClosesAloud (world.deeds id) := by
  let both (life : Lifecycle) (deeds : List Deed) : Prop :=
    life.Reflects deeds ∧ life.ClosesAloud deeds
  have all : both (world.life id) (world.deeds id) :=
    attained.registration ⟨.fresh, nofun⟩
      (fun held ⟨reflects, aloud⟩ turn =>
        ⟨reflects.turn held turn, aloud.turn reflects held turn⟩) id
  exact all.2

/-- Wherever user code has the word, a managed close is ignored only after
another one that the engine was told of, or after the closed callback has
begun. -/
theorem heard_of_close_ignored (attained : Attained world) {id : EntryId}
    (ignored : (world.life id).markManagedClosed.1 = false) :
    (∃ error, .forwarded (.closed error) ∈ world.deeds id) ∨
      .callback .closed ∈ world.deeds id := by
  rcases Lifecycle.markManagedClosed_cases (world.life id) with ⟨_, _, marked⟩ | ⟨ended, _⟩
  · rw [marked] at ignored
    cases ignored
  · rcases ended with closed | closed
    · exact .inl (attained.closesAloud id closed)
    · exact .inr ((attained.reflects id).closed.mp closed)

end Attained

end TransportBridge
