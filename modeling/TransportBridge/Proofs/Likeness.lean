import TransportBridge.Proofs.InStep
import TransportBridge.Proofs.LifecycleSteps

/-!
Contract: buffers and lifecycles that are alike.

Where the owner of buffers is free to choose, two buffers with the same bytes
are alike, whoever frees them, and lifecycles are alike that come to the same
without the buffers that they keep. Where the owner is not free, only what is
the same is alike.

Owns: that alike lifecycles take the same steps, are refused for the same
reasons, and stay alike; and that no step takes hold of a target.

Does not own: whose lifecycles are alike.
-/

namespace TransportBridge

variable {free : Prop} {α β : Type}

/-! ## Buffers -/

namespace NativeBuffer

/-- The same buffer, or another one with the same bytes, if the owner is free.
Nobody has taken them yet. -/
def Like (free : Prop) (one other : NativeBuffer Hook) : Prop :=
  one = other ∨ free ∧ ∃ bytes, one.data = some bytes ∧ other.data = some bytes

variable {one other : NativeBuffer Hook}

theorem Like.size (alike : one.Like free other) : one.size = other.size := by
  rcases alike with rfl | ⟨_, bytes, held, held'⟩
  · rfl
  · unfold NativeBuffer.size
    rw [held, held']

theorem Like.kept (alike : one.Like free other) : free ∨ one = other :=
  alike.symm.imp_left And.left

theorem transfer_of_data {bytes : Bytes} (held : one.data = some bytes) :
    one.transfer = .ok (bytes, one.spent) := by
  unfold spent transfer view
  rw [held]
  cases one.ownership <;> rfl

/-- The same bytes are taken over from alike buffers. -/
theorem Like.transfer (alike : one.Like free other) :
    Answers (fun taken taken' => taken.1 = taken'.1 ∧ (free ∨ taken.2 = taken'.2))
      one.transfer other.transfer := by
  rcases alike with rfl | ⟨isFree, bytes, held, held'⟩
  · exact .refl (fun taken => ⟨rfl, .inr rfl⟩) one.transfer
  · rw [transfer_of_data held, transfer_of_data held']
    exact .given ⟨rfl, .inl isFree⟩

end NativeBuffer

/-! ## Lifecycles -/

/-- The bytes alone, without the buffer. -/
def PendingReceive.bare (receive : PendingReceive) : PendingReceive :=
  { receive with buffer := none }

/-- What is left to do, with the buffers apart. -/
structure Teardown.Like (free : Prop) (targets : TargetId → Prop) (one other : Teardown) :
    Prop where
  pin : one.pin = other.pin
  pins : ∀ target, one.pin = some target → targets target
  buffers : free ∨ one.buffers = other.buffers

namespace Lifecycle

/-- The lifecycle without the buffers that it keeps. -/
def bare (life : Lifecycle) : Lifecycle :=
  { life with receives := life.receives.map PendingReceive.bare }

/-- What a step gives, and the next lifecycle without its buffers. -/
def bared (outcome : α × Lifecycle) : α × Lifecycle :=
  (outcome.1, outcome.2.bare)

/-- The same but for the buffers that are kept, if the owner is free. -/
def Like (free : Prop) (life twin : Lifecycle) : Prop :=
  life = twin ∨ free ∧ life.bare = twin.bare

/-- The pin is on one of the targets, if there is one. -/
def PinsTo (targets : TargetId → Prop) (life : Lifecycle) : Prop :=
  ∀ target, life.pin = some target → targets target

variable {life twin : Lifecycle} {targets : TargetId → Prop}

theorem Like.refl (life : Lifecycle) : life.Like free life :=
  .inl rfl

/-- What a step does to alike lifecycles: the results are alike, and so are the
next lifecycles. -/
structure Shifts (free : Prop) (targets : TargetId → Prop) (like : α → β → Prop)
    (one : α × Lifecycle) (other : β × Lifecycle) : Prop where
  alike : like one.1 other.1
  next : one.2.Like free other.2
  pins : one.2.PinsTo targets

/-- Of alike lifecycles, what does not depend on the buffers is the same. -/
theorem Like.same (alike : life.Like free twin) (sight : Lifecycle → α)
    (blind : ∀ life : Lifecycle, sight life.bare = sight life) : sight twin = sight life := by
  rcases alike with rfl | ⟨_, same⟩
  · rfl
  · rw [← blind twin, ← same, blind]

theorem Like.next (alike : life.Like free twin) (step : Lifecycle → Lifecycle)
    (natural : ∀ life, step life.bare = (step life).bare) : (step life).Like free (step twin) := by
  rcases alike with rfl | ⟨isFree, same⟩
  · exact .refl _
  · refine .inr ⟨isFree, ?_⟩
    rw [← natural, ← natural, same]

/-- A step that goes by what is bare shifts alike lifecycles, as long as it takes
hold of no target. -/
theorem Like.shifts (alike : life.Like free twin) (step : Lifecycle → α × Lifecycle)
    {like : α → α → Prop}
    (natural : ∀ life, step life.bare = bared (step life))
    (tells : like (step life).1 (step life).1) (pins : (step life).2.PinsTo targets) :
    Shifts free targets like (step life) (step twin) := by
  rcases alike with rfl | ⟨isFree, same⟩
  · exact ⟨tells, .refl _, pins⟩
  · have moved := (natural life).symm.trans ((congrArg step same).trans (natural twin))
    obtain ⟨results, nexts⟩ := Prod.mk.inj moved
    exact ⟨results ▸ tells, .inr ⟨isFree, nexts⟩, pins⟩

/-- A step that goes by what is bare is taken by both of two alike lifecycles, or
refused to both for the same reason. -/
theorem Like.steps {step : Lifecycle → Step α} {like : α → α → Prop} (alike : life.Like free twin)
    (natural : ∀ life, step life.bare = (step life).map bared)
    (tells : ∀ result next, step life = .ok (result, next) →
      like result result ∧ next.PinsTo targets) :
    Answers (Shifts free targets like) (step life) (step twin) := by
  rcases alike with rfl | ⟨isFree, same⟩
  · cases stepped : step life with
    | error refusal => exact .refused refusal
    | ok outcome =>
        obtain ⟨told, pins⟩ := tells outcome.1 outcome.2 stepped
        exact .given ⟨told, .refl _, pins⟩
  · have moved := (natural life).symm.trans ((congrArg step same).trans (natural twin))
    cases stepped : step life with
    | error refusal =>
        cases stepped' : step twin with
        | error refusal' =>
            simp only [stepped, stepped', Except.map, Except.error.injEq] at moved
            rw [moved]
            exact .refused refusal'
        | ok outcome => simp [stepped, stepped', Except.map] at moved
    | ok outcome =>
        cases stepped' : step twin with
        | error refusal => simp [stepped, stepped', Except.map] at moved
        | ok outcome' =>
            simp only [stepped, stepped', Except.map, bared, Except.ok.injEq, Prod.mk.injEq] at moved
            obtain ⟨told, pins⟩ := tells outcome.1 outcome.2 stepped
            exact .given ⟨moved.1 ▸ told, .inr ⟨isFree, moved.2⟩, pins⟩

/-- A step that gives nothing and leaves the pin. -/
theorem Like.moves {step : Lifecycle → Lifecycle} (alike : life.Like free twin)
    (pinned : life.PinsTo targets) (natural : ∀ life, step life.bare = (step life).bare)
    (pin : (step life).pin = life.pin) :
    Shifts free targets Eq ((), step life) ((), step twin) := by
  refine alike.shifts (fun life => ((), step life)) (fun life => ?_) rfl ?_
  · exact congrArg (Prod.mk ()) (natural life)
  · unfold PinsTo
    rw [pin]
    exact pinned

/-! ## Events from the native side -/

section Events

variable (alike : life.Like free twin) (pinned : life.PinsTo targets)
include alike pinned

theorem beginOpen_alike :
    Answers (Shifts free targets fun target other => target = other ∧ targets target)
      life.beginOpen twin.beginOpen := by
  refine alike.steps (fun life => ?_) fun target next begun => ?_
  · cases life with
    | mk state _ _ _ _ _ _ _ _ _ pin => cases state <;> cases pin <;> rfl
  · obtain ⟨_, held, rfl⟩ := beginOpen_ok begun
    exact ⟨⟨rfl, pinned target held⟩, pinned⟩

theorem acceptWriteCompleted_alike (byteCount : Nat) :
    Answers (Shifts free targets fun target other => target = other ∧ targets target)
      (life.acceptWriteCompleted byteCount) (twin.acceptWriteCompleted byteCount) := by
  refine alike.steps (fun life => ?_) fun target next accepted => ?_
  · have same : life.bare.streamTarget .writeCompleted = life.streamTarget .writeCompleted := rfl
    unfold acceptWriteCompleted
    rw [same]
    cases life.streamTarget .writeCompleted with
    | error refusal => rfl
    | ok target =>
        simp only
        rw [apply_ite (Except.map bared)]
        rfl
  · obtain ⟨_, held, _, rfl⟩ := acceptWriteCompleted_ok accepted
    exact ⟨⟨rfl, pinned target held⟩, pinned⟩

theorem acceptCloseRequest_alike :
    Answers (Shifts free targets fun outcome other => outcome = other ∧ targets outcome.1)
      life.acceptCloseRequest twin.acceptCloseRequest := by
  refine alike.steps (fun life => ?_) fun (target, before) next accepted => ?_
  · cases life with
    | mk state _ _ _ _ _ _ _ _ _ pin => cases state <;> cases pin <;> rfl
  · obtain ⟨_, held, _, rfl⟩ := acceptCloseRequest_ok accepted
    exact ⟨⟨rfl, pinned target held⟩, pinned⟩

theorem beginClose_alike :
    Answers (Shifts free targets fun outcome other => outcome = other ∧ targets outcome.1)
      life.beginClose twin.beginClose := by
  refine alike.steps (fun life => ?_) fun (target, before) next begun => ?_
  · cases life with
    | mk state _ _ _ _ _ _ _ _ _ pin => cases state <;> cases pin <;> rfl
  · obtain ⟨_, held, _, rfl⟩ := beginClose_ok begun
    exact ⟨⟨rfl, pinned target held⟩, pinned⟩

/-- The bytes of a receive are what counts, not the buffer that is kept. -/
theorem acceptReceived_alike (byteCount : Nat) {retained retained' : Option (NativeBuffer Hook)}
    (kept : free ∨ retained = retained') :
    Answers (Shifts free targets fun target other => target = other ∧ targets target)
      (life.acceptReceived byteCount retained) (twin.acceptReceived byteCount retained') := by
  unfold acceptReceived
  rw [alike.same (streamTarget .received) fun _ => rfl]
  cases found : life.streamTarget .received with
  | error refusal => exact .refused refusal
  | ok target =>
      obtain ⟨_, held⟩ := streamTarget_ok found
      refine .given ⟨⟨rfl, pinned target held⟩, ?_, pinned⟩
      rcases alike with rfl | ⟨isFree, same⟩
      · rcases kept with isFree | rfl
        · refine .inr ⟨isFree, ?_⟩
          simp [bare, PendingReceive.bare]
        · exact .refl _
      · refine .inr ⟨isFree, ?_⟩
        simp_all [bare, PendingReceive.bare]

theorem finishOpen_alike : Shifts free targets Eq life.finishOpen twin.finishOpen := by
  refine alike.shifts finishOpen (fun life => ?_) rfl ?_
  · unfold finishOpen
    rw [apply_ite bared]
    rfl
  · unfold PinsTo
    rw [finishOpen_pin]
    exact pinned

theorem abortOpen_alike : Shifts free targets Eq ((), life.abortOpen) ((), twin.abortOpen) := by
  refine alike.moves pinned (fun life => ?_) ?_
  · unfold abortOpen
    rw [apply_ite bare]
    rfl
  · unfold abortOpen
    split <;> rfl

theorem abortCloseRequest_alike (before : SocketState) :
    Shifts free targets Eq ((), life.abortCloseRequest before)
      ((), twin.abortCloseRequest before) := by
  refine alike.moves pinned (fun life => ?_) ?_
  · unfold abortCloseRequest
    rw [apply_ite bare]
    rfl
  · unfold abortCloseRequest
    split <;> rfl

theorem abortClose_alike (before : SocketState) :
    Shifts free targets Eq ((), life.abortClose before) ((), twin.abortClose before) := by
  refine alike.moves pinned (fun life => ?_) ?_
  · unfold abortClose
    rw [apply_ite bare]
    rfl
  · unfold abortClose
    split <;> rfl

/-- What is given back is a receive of the same size, whatever it kept. -/
theorem abortReceived_alike (byteCount : Nat) :
    Shifts free targets (fun buffer other => free ∨ buffer = other)
      (life.abortReceived byteCount) (twin.abortReceived byteCount) := by
  refine ⟨?_, ?_, ?_⟩
  · rcases alike with rfl | ⟨isFree, _⟩
    · exact .inr rfl
    · exact .inl isFree
  · refine alike.next (fun life => (life.abortReceived byteCount).2) fun life => ?_
    unfold abortReceived
    simp only [bare, List.getLast?_map]
    cases life.receives.getLast? with
    | none => rfl
    | some newest =>
        simp only [Option.map_some, PendingReceive.bare, apply_ite Prod.snd, ← List.map_dropLast]
        split <;> rfl
  · rcases abortReceived_cases byteCount life with ⟨_, _, _, same⟩ | same
    all_goals
      rw [same]
      exact pinned

end Events

/-! ## Calls from the managed side -/

section Calls

variable (alike : life.Like free twin) (pinned : life.PinsTo targets)
include alike

theorem adoptPin_alike {target : TargetId} (held : targets target) :
    Answers (Shifts free targets Eq) (life.adoptPin target) (twin.adoptPin target) := by
  refine alike.steps (fun life => ?_) fun result next adopted => ?_
  · unfold adoptPin
    rw [apply_ite (Except.map bared)]
    rfl
  · obtain ⟨_, rfl⟩ := adoptPin_ok adopted
    refine ⟨rfl, fun other same => ?_⟩
    cases same
    exact held

include pinned

theorem markReady_alike : Answers (Shifts free targets Eq) life.markReady twin.markReady := by
  refine alike.steps (fun life => ?_) fun result next ready => ?_
  · cases life with
    | mk state _ _ _ managedReady => cases state <;> cases managedReady <;> rfl
  · rcases markReady_ok ready with ⟨_, _, _, rfl⟩ | ⟨_, _, rfl⟩ <;> exact ⟨rfl, pinned⟩

theorem checkHandshake_alike :
    Answers (Shifts free targets Eq) life.checkHandshake twin.checkHandshake := by
  refine alike.steps (fun life => ?_) fun result next checked => ?_
  · cases life with
    | mk state => cases state <;> rfl
  · obtain ⟨_, rfl⟩ := checkHandshake_ok checked
    exact ⟨rfl, pinned⟩

theorem recordWrite_alike (byteCount limit : Nat) :
    Answers (Shifts free targets Eq) (life.recordWrite byteCount limit)
      (twin.recordWrite byteCount limit) := by
  refine alike.steps (fun life => ?_) fun result next recorded => ?_
  · unfold recordWrite
    rw [apply_ite (Except.map bared), apply_ite (Except.map bared)]
    rfl
  · obtain ⟨_, _, rfl⟩ := recordWrite_ok recorded
    exact ⟨rfl, pinned⟩

theorem requestClose_alike :
    Answers (Shifts free targets Eq) life.requestClose twin.requestClose := by
  refine alike.steps (fun life => ?_) fun result next requested => ?_
  · unfold requestClose
    rw [apply_ite (Except.map bared)]
    rfl
  · obtain ⟨_, rfl⟩ := requestClose_ok requested
    exact ⟨rfl, pinned⟩

theorem markManagedClosed_alike :
    Shifts free targets Eq life.markManagedClosed twin.markManagedClosed := by
  refine alike.shifts markManagedClosed (fun life => ?_) rfl ?_
  · unfold markManagedClosed
    rw [apply_ite bared]
    rfl
  · unfold markManagedClosed
    split <;> exact pinned

omit alike pinned in
theorem consume_bare (byteCount : Nat) (receives : List PendingReceive) :
    (consume byteCount (receives.map PendingReceive.bare)).2 =
      (consume byteCount receives).2.map PendingReceive.bare := by
  induction receives generalizing byteCount with
  | nil => rfl
  | cons oldest rest inductionHypothesis =>
      have same : oldest.bare.remaining = oldest.remaining := rfl
      simp only [List.map_cons, consume, same]
      by_cases part : byteCount < oldest.remaining
      · rw [if_pos part, if_pos part]
        rfl
      · rw [if_neg part, if_neg part]
        exact inductionHypothesis (byteCount - oldest.remaining)

/-- As many bytes are acknowledged, whatever their buffers. -/
theorem acknowledgeReceive_alike (byteCount : Nat) :
    Answers (Shifts free targets fun freed other => free ∨ freed = other)
      (life.acknowledgeReceive byteCount) (twin.acknowledgeReceive byteCount) := by
  have next : Like free _ _ := alike.next (fun life => { life with
    unackedReceive := life.unackedReceive - byteCount
    receives := (consume byteCount life.receives).2 }) fun life => by
      simp only [bare, consume_bare]
  unfold acknowledgeReceive misplaced violated
  rw [alike.same state fun _ => rfl, alike.same unackedReceive fun _ => rfl] at next ⊢
  split
  · exact .refused _
  · split
    · exact .refused _
    · refine .given ⟨?_, next, pinned⟩
      rcases alike with rfl | ⟨isFree, _⟩
      · exact .inr rfl
      · exact .inl isFree

end Calls

/-! ## References -/

section References

variable (alike : life.Like free twin) (pinned : life.PinsTo targets)
include alike pinned

theorem retain_alike : Answers (Shifts free targets Eq) life.retain twin.retain := by
  refine alike.steps (fun life => ?_) fun result next retained => ?_
  · cases life with
    | mk state => cases state <;> rfl
  · obtain ⟨_, rfl, _⟩ := retain_ok retained
    exact ⟨rfl, pinned⟩

/-- Both are torn down, or neither is. -/
theorem tryTeardown_alike :
    Shifts free targets (Option.Rel (Teardown.Like free targets)) life.tryTeardown
      twin.tryTeardown := by
  have next : life.tryTeardown.2.Like free twin.tryTeardown.2 := by
    refine alike.next (fun life => life.tryTeardown.2) fun life => ?_
    unfold tryTeardown
    simp only [apply_ite Prod.snd, apply_ite bare]
    rfl
  refine ⟨?_, next, ?_⟩
  · unfold tryTeardown
    rw [alike.same retainCount fun _ => rfl, alike.same state fun _ => rfl]
    split
    · exact .none
    · refine .some ⟨(alike.same pin fun _ => rfl).symm, pinned, ?_⟩
      rcases alike with rfl | ⟨isFree, _⟩
      · exact .inr rfl
      · exact .inl isFree
  · rcases tryTeardown_cases life with ⟨_, _, same⟩ | ⟨_, same⟩
    · rw [same]
      intro target held
      cases held
    · rw [same]
      exact pinned

theorem release_alike :
    Answers (Shifts free targets (Option.Rel (Teardown.Like free targets))) life.release
      twin.release := by
  have next : Like free _ _ :=
    alike.next (fun life => { life with managedRefs := life.managedRefs - 1 }) fun _ => rfl
  unfold release violated
  rw [alike.same state fun _ => rfl, alike.same managedRefs fun _ => rfl] at next ⊢
  split
  · exact .refused _
  · split
    · exact .refused _
    · exact .given (tryTeardown_alike next pinned)

theorem releaseNative_alike :
    Answers (Shifts free targets (Option.Rel (Teardown.Like free targets))) life.releaseNative
      twin.releaseNative := by
  have next : Like free _ _ :=
    alike.next (fun life => { life with nativeRef := false }) fun _ => rfl
  unfold releaseNative violated
  rw [alike.same nativeRef fun _ => rfl]
  rw [alike.same state fun _ => rfl] at next ⊢
  split
  · exact .refused _
  · split
    · exact .refused _
    · exact .given (tryTeardown_alike next pinned)

/-- What nobody has any more gives up the same pin, and its buffers. -/
theorem abandon_alike :
    Shifts free targets (fun given other => (free ∨ given.1 = other.1) ∧ given.2 = other.2 ∧
      ∀ target, given.2 = some target → targets target) life.abandon twin.abandon := by
  refine ⟨⟨?_, ?_, pinned⟩, ?_, ?_⟩
  · rcases alike with rfl | ⟨isFree, _⟩
    · exact .inr rfl
    · exact .inl isFree
  · exact (alike.same pin fun _ => rfl).symm
  · exact alike.next (fun life => life.abandon.2) fun _ => rfl
  · intro target held
    cases held

end References

end Lifecycle

end TransportBridge
