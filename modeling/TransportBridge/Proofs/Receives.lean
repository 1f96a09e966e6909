import Mathlib.Data.List.Forall2
import TransportBridge.Proofs.Grains

/-!
Contract: what becomes of the bytes that have come in for one registration.

Received bytes queue up with the buffers that are lent for them. The queue
gives up from the front what has been acknowledged, and all of it when the
lifecycle is torn down. What it has given up and what it keeps are together
what has come in, in order.

Owns: how a queue is handled, and the file that is kept of one.
-/

namespace TransportBridge

namespace NativeBuffer

/-- The hooks that run when what has been kept of the buffer is dropped. -/
def lentHooks (buffer : NativeBuffer Hook) : List Hook :=
  buffer.lent.toList.flatMap dropped

theorem lentHooks_sublist (buffer : NativeBuffer Hook) :
    buffer.lentHooks.Sublist buffer.dropped := by
  unfold lentHooks lent
  split
  · simpa using buffer.dropped_spent_sublist
  · exact List.nil_sublist _

end NativeBuffer

/-- The bytes that are owed an acknowledgement. -/
def owed (receives : List PendingReceive) : Nat :=
  (receives.map (·.remaining)).sum

/-- The hooks of the buffers that wait for an acknowledgement, in order. -/
def waiting (receives : List PendingReceive) : List Hook :=
  receives.flatMap fun pending => pending.buffer.toList.flatMap NativeBuffer.dropped

/-- How many bytes there are in the buffers. -/
def bytesOf (buffers : List (NativeBuffer Hook)) : Nat :=
  (buffers.map NativeBuffer.size).sum

/-- The hooks of all that is kept of the buffers. -/
def lentBy (buffers : List (NativeBuffer Hook)) : List Hook :=
  buffers.flatMap NativeBuffer.lentHooks

/-- The buffers that come in when the report is accepted. -/
def NativeEvent.came : NativeEvent → List (NativeBuffer Hook)
  | .received data => [data]
  | _ => []

/-- How many bytes the managed side acknowledges by the call. -/
def EngineCall.acknowledges : EngineCall → Nat
  | .completedReceive byteCount => byteCount
  | _ => 0

theorem bytesOf_append (one two : List (NativeBuffer Hook)) :
    bytesOf (one ++ two) = bytesOf one + bytesOf two := by
  simp [bytesOf]

theorem lentBy_append (one two : List (NativeBuffer Hook)) :
    lentBy (one ++ two) = lentBy one ++ lentBy two :=
  List.flatMap_append

/-- The entry of the queue is what is left of the received bytes. -/
structure LeftOf (data : NativeBuffer Hook) (pending : PendingReceive) : Prop where
  buffer : pending.buffer = data.lent
  remaining : pending.remaining ≤ data.size

section LeftOf

variable {kept : List (NativeBuffer Hook)} {receives : List PendingReceive}

theorem waiting_of_leftOf (left : List.Forall₂ LeftOf kept receives) :
    waiting receives = lentBy kept := by
  induction left with
  | nil => rfl
  | @cons data oldest kept receives first _ inductionHypothesis =>
      show oldest.buffer.toList.flatMap NativeBuffer.dropped ++ waiting receives = _
      rw [inductionHypothesis, first.buffer]
      rfl

theorem owed_of_leftOf (left : List.Forall₂ LeftOf kept receives) :
    owed receives ≤ bytesOf kept := by
  induction left with
  | nil => exact Nat.le_refl _
  | cons first _ inductionHypothesis => exact Nat.add_le_add first.remaining inductionHypothesis

end LeftOf

namespace Lifecycle

/-! ## Consuming -/

theorem owed_consume {byteCount : Nat} {receives : List PendingReceive}
    (enough : byteCount ≤ owed receives) :
    owed (consume byteCount receives).2 + byteCount = owed receives := by
  induction receives generalizing byteCount with
  | nil =>
      simp only [owed, List.map_nil, List.sum_nil] at enough
      simp [consume, owed, Nat.le_zero.mp enough]
  | cons oldest rest inductionHypothesis =>
      unfold consume
      split
      · next partly =>
          simp only [owed, List.map_cons, List.sum_cons]
          omega
      · next whole =>
          have all : owed (oldest :: rest) = oldest.remaining + owed rest := rfl
          have fewer := inductionHypothesis (show byteCount - oldest.remaining ≤ owed rest by omega)
          simp only [all]
          omega

/-- What is consumed leaves from the front. -/
theorem waiting_consume (byteCount : Nat) (receives : List PendingReceive) :
    (consume byteCount receives).1.flatMap NativeBuffer.dropped ++
      waiting (consume byteCount receives).2 = waiting receives := by
  induction receives generalizing byteCount with
  | nil => rfl
  | cons oldest rest inductionHypothesis =>
      unfold consume
      split
      · rfl
      · simp only [List.flatMap_append, List.append_assoc, inductionHypothesis]
        rfl

theorem leftOf_consume {kept : List (NativeBuffer Hook)} {receives : List PendingReceive}
    (left : List.Forall₂ LeftOf kept receives) (byteCount : Nat) :
    ∃ used rest, kept = used ++ rest ∧
      (consume byteCount receives).1.flatMap NativeBuffer.dropped = lentBy used ∧
      List.Forall₂ LeftOf rest (consume byteCount receives).2 := by
  induction left generalizing byteCount with
  | nil => exact ⟨[], [], rfl, rfl, .nil⟩
  | @cons data oldest kept receives first others inductionHypothesis =>
      unfold consume
      split
      · refine ⟨[], data :: kept, rfl, rfl, .cons ⟨first.buffer, ?_⟩ others⟩
        exact Nat.le_trans (Nat.sub_le _ _) first.remaining
      · obtain ⟨used, rest, split, freed, further⟩ :=
          inductionHypothesis (byteCount - oldest.remaining)
        refine ⟨data :: used, rest, by rw [split, List.cons_append], ?_, further⟩
        simp only [List.flatMap_append, freed, first.buffer]
        rfl

/-! ## Handling -/

/-- Only received bytes are to be acknowledged. -/
theorem Accepts.unacked {life next : Lifecycle} {event : SocketEvent} {target : TargetId}
    (accepts : life.Accepts event target next) (other : event.kind ≠ .received) :
    next.unackedReceive = life.unackedReceive := by
  rw [accepts.touches other]

/-- What happens to the queue of a lifecycle: which buffers come in, how many
bytes are acknowledged, and which hooks run over that. -/
inductive Handling : Lifecycle → List (NativeBuffer Hook) → Nat → List Hook → Lifecycle → Prop where
  | untouched {life next : Lifecycle} (receives : next.receives = life.receives)
      (unacked : next.unackedReceive = life.unackedReceive)
      (stays : life.state = .disposed → next.state = .disposed) : Handling life [] 0 [] next
  | came {life next : Lifecycle} {data : NativeBuffer Hook}
      (receives : next.receives = life.receives ++ [⟨data.size, data.lent⟩])
      (unacked : next.unackedReceive = life.unackedReceive + data.size)
      (stays : life.state = .disposed → next.state = .disposed) : Handling life [data] 0 [] next
  | acknowledged {life next : Lifecycle} {byteCount : Nat} {freed : List (NativeBuffer Hook)}
      (taken : life.acknowledgeReceive byteCount = .ok (freed, next)) :
      Handling life [] byteCount (freed.flatMap NativeBuffer.dropped) next
  | tornDown {life next : Lifecycle} (receives : next.receives = [])
      (unacked : next.unackedReceive = 0) (disposed : next.state = .disposed) :
      Handling life [] 0 (waiting life.receives) next

namespace Handling

variable {life next : Lifecycle} {came : List (NativeBuffer Hook)} {count : Nat} {hooks : List Hook}

theorem refl (life : Lifecycle) : Handling life [] 0 [] life :=
  .untouched rfl rfl id

/-- What waits comes in at the back and leaves from the front. -/
theorem fifo (handling : Handling life came count hooks next) :
    waiting life.receives ++ lentBy came = hooks ++ waiting next.receives := by
  cases handling with
  | untouched receives =>
      rw [receives]
      exact List.append_nil _
  | came receives =>
      rw [receives]
      simp [waiting, lentBy, NativeBuffer.lentHooks]
  | acknowledged taken =>
      obtain ⟨_, _, rfl, rfl⟩ := acknowledgeReceive_ok taken
      rw [waiting_consume]
      exact List.append_nil _
  | tornDown receives =>
      rw [receives]
      rfl

/-- Giving up the last reference tears the queue down. -/
theorem of_tryTeardown {left : Lifecycle} (receives : left.receives = life.receives)
    (unacked : left.unackedReceive = life.unackedReceive) (state : left.state = life.state) :
    Handling life [] 0 (left.tryTeardown.1.toList.flatMap Teardown.hooks) left.tryTeardown.2 := by
  rcases tryTeardown_cases left with ⟨_, _, torn⟩ | ⟨_, torn⟩
  · have all : (some (Teardown.mk left.pin (left.receives.filterMap (·.buffer)))).toList.flatMap
        Teardown.hooks = waiting life.receives := by
      rw [← receives]
      simp [Teardown.hooks, waiting, List.filterMap_eq_flatMap_toList, List.flatMap_assoc]
    rw [torn, all]
    exact .tornDown rfl rfl rfl
  · rw [torn]
    exact .untouched receives unacked fun disposed => state.trans disposed

theorem of_retain {references : Nat} (taken : life.retain = .ok (references, next)) :
    Handling life [] 0 [] next := by
  obtain ⟨_, rfl, _⟩ := retain_ok taken
  exact .untouched rfl rfl id

theorem of_release {outcome : Option Teardown × Lifecycle} (given : life.release = .ok outcome) :
    Handling life [] 0 (outcome.1.toList.flatMap Teardown.hooks) outcome.2 := by
  obtain ⟨_, _, rfl⟩ := release_ok given
  exact .of_tryTeardown rfl rfl rfl

theorem of_releaseNative {outcome : Option Teardown × Lifecycle}
    (given : life.releaseNative = .ok outcome) :
    Handling life [] 0 (outcome.1.toList.flatMap Teardown.hooks) outcome.2 := by
  obtain ⟨_, _, rfl⟩ := releaseNative_ok given
  exact .of_tryTeardown rfl rfl rfl

/-- An accepted event comes in with what it has entered. -/
theorem of_accepts {event : NativeEvent} {target : TargetId}
    (accepts : life.Accepts event.told target next)
    (entered : next.receives = life.receives ++ event.entered) :
    Handling life event.came 0 [] next := by
  have stays (disposed : life.state = .disposed) : next.state = .disposed :=
    absurd disposed accepts.keeps.notDisposed
  cases event with
  | received data =>
      refine .came entered ?_ stays
      cases accepts with
      | received accepted =>
          obtain ⟨_, _, rfl⟩ := acceptReceived_ok accepted
          have size : (data.data.getD []).length = data.size := by
            unfold NativeBuffer.size
            cases data.data <;> rfl
          exact congrArg (life.unackedReceive + ·) size
  | _ =>
      refine .untouched (entered.trans (List.append_nil _)) (accepts.unacked ?_) stays
      exact nofun

/-- What is taken back leaves the queue as it was. -/
theorem of_misses {event : SocketEvent} (misses : life.Misses event next) (held : life.Held) :
    Handling life [] 0 [] next := by
  have stays (disposed : life.state = .disposed) : next.state = .disposed :=
    absurd disposed (misses.keeps held).1.notDisposed
  by_cases confirmation : event.kind = .writeCompleted
  · cases misses with
    | writeCompleted accepted =>
        obtain ⟨_, _, _, rfl⟩ := acceptWriteCompleted_ok accepted
        exact .untouched rfl rfl stays
    | _ => cases confirmation
  · rw [misses.touches_state confirmation] at stays ⊢
    exact .untouched rfl rfl stays

theorem of_finishOpen (life : Lifecycle) : Handling life [] 0 [] life.finishOpen.2 := by
  have disposed := finishOpen_disposed_iff life
  rw [finishOpen_frame] at disposed ⊢
  exact .untouched rfl rfl disposed.mpr

/-- A call that goes on to the engine acknowledges bytes, or leaves the queue
alone. -/
theorem of_forwards {limit : Nat} {call : EngineCall} (forwards : life.Forwards limit call next) :
    Handling life [] call.acknowledges (life.freedBy call) next := by
  have stays (disposed : life.state = .disposed) : next.state = .disposed :=
    absurd disposed forwards.keeps.1.notDisposed
  cases forwards with
  | opened marked =>
      rcases markReady_ok marked with ⟨_, _, _, rfl⟩ | ⟨_, _, rfl⟩ <;>
        exact .untouched rfl rfl stays
  | httpResponse checked =>
      obtain ⟨_, rfl⟩ := checkHandshake_ok checked
      exact .refl _
  | write recorded =>
      obtain ⟨_, _, rfl⟩ := recordWrite_ok recorded
      exact .untouched rfl rfl stays
  | completedReceive acknowledged =>
      obtain ⟨_, _, rfl, _⟩ := acknowledgeReceive_ok acknowledged
      exact .acknowledged acknowledged
  | closeRequest requested =>
      obtain ⟨_, rfl⟩ := requestClose_ok requested
      exact .untouched rfl rfl stays
  | closed marked =>
      rcases markManagedClosed_cases life with ⟨_, _, taken⟩ | ⟨_, taken⟩ <;>
        rw [taken] at marked <;> cases marked
      exact .untouched rfl rfl stays

end Handling

/-! ## Files -/

/-- Of the bytes that have come in, which the queue has given up and which it
keeps. -/
structure Filed (life : Lifecycle) (acknowledged : Nat) (gone kept : List (NativeBuffer Hook))
    (ran : List Hook) : Prop where
  left : List.Forall₂ LeftOf kept life.receives
  /-- The hooks of what is gone have run, in the order of coming in. -/
  freed : (lentBy gone).Sublist ran
  unacked : life.unackedReceive = owed life.receives
  balance : life.state = .disposed ∨
    acknowledged + owed life.receives = bytesOf (gone ++ kept)

namespace Filed

variable {life next : Lifecycle} {acknowledged count : Nat}
  {gone kept came : List (NativeBuffer Hook)} {ran later hooks : List Hook}

theorem fresh : Filed {} 0 [] [] [] :=
  ⟨.nil, .refl _, rfl, .inr rfl⟩

/-- However the queue is handled, it is on file. -/
theorem handled (filed : life.Filed acknowledged gone kept ran)
    (handling : Handling life came count hooks next) (runs : (ran ++ hooks).Sublist later) :
    ∃ gone' kept', gone' ++ kept' = gone ++ kept ++ came ∧
      next.Filed (acknowledged + count) gone' kept' later := by
  have before : ran.Sublist later := (List.sublist_append_left ran hooks).trans runs
  cases handling with
  | untouched receives unacked stays =>
      refine ⟨gone, kept, (List.append_nil _).symm, ?_, filed.freed.trans before, ?_, ?_⟩
      · rw [receives]
        exact filed.left
      · rw [unacked, receives]
        exact filed.unacked
      · rw [receives]
        exact filed.balance.imp_left stays
  | came receives unacked stays =>
      refine ⟨gone, kept ++ [_], (List.append_assoc _ _ _).symm, ?_,
        filed.freed.trans before, ?_, ?_⟩
      · rw [receives]
        exact List.rel_append filed.left (.cons ⟨rfl, Nat.le_refl _⟩ .nil)
      · rw [unacked, receives, filed.unacked]
        simp [owed]
      · rw [receives, ← List.append_assoc, bytesOf_append]
        refine filed.balance.imp stays fun balance => ?_
        simp only [owed, List.map_append, List.sum_append, bytesOf] at balance ⊢
        simp only [List.map_cons, List.map_nil, List.sum_cons, List.sum_nil]
        omega
  | acknowledged taken =>
      obtain ⟨live, enough, rfl, rfl⟩ := acknowledgeReceive_ok taken
      obtain ⟨used, rest, rfl, freed, left⟩ := leftOf_consume filed.left count
      rw [filed.unacked] at enough
      have fewer := owed_consume enough
      refine ⟨gone ++ used, rest, by simp, left, ?_, ?_, ?_⟩
      · rw [lentBy_append]
        rw [freed] at runs
        exact (filed.freed.append (.refl _)).trans runs
      · show life.unackedReceive - count = owed (consume count life.receives).2
        rw [filed.unacked]
        omega
      · refine filed.balance.imp_right fun balance => ?_
        rw [List.append_assoc]
        show _ + owed (consume count life.receives).2 = _
        omega
  | tornDown receives unacked disposed =>
      refine ⟨gone ++ kept, [], by simp, ?_, ?_, ?_, .inl disposed⟩
      · rw [receives]
        exact .nil
      · rw [waiting_of_leftOf filed.left] at runs
        rw [lentBy_append]
        exact (filed.freed.append (.refl _)).trans runs
      · rw [unacked, receives]
        rfl

end Filed

end Lifecycle

end TransportBridge
