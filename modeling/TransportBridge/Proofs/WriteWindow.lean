import Mathlib.Algebra.GroupWithZero.Nat
import TransportBridge.Proofs.ReceiveAccount

/-!
Contract: the window of bytes that have been written and not confirmed.

A write fits into the window, or finds it empty. So there may be more in it than
the limit allows, but only what is left of a single write, and nothing is written
until that is down to the limit. Confirmations take out what is in it, and no
more.

Owns: bytes that go out, the window that is left of them and how far it opens;
the two steps of the lifecycle with a sum and a difference of machine words.
-/

namespace TransportBridge

/-- Bytes that are on their way out. -/
inductive Flow where
  | written (byteCount : Nat)
  | confirmed (byteCount : Nat)
deriving DecidableEq, Repr

namespace Flow

def writtenBytes : Flow → Nat
  | .written byteCount => byteCount
  | .confirmed _ => 0

def confirmedBytes : Flow → Nat
  | .written _ => 0
  | .confirmed byteCount => byteCount

end Flow

/-- How many bytes have been written. -/
def writtenIn (flows : List Flow) : Nat :=
  (flows.map Flow.writtenBytes).sum

/-- How many bytes have been confirmed. -/
def confirmedIn (flows : List Flow) : Nat :=
  (flows.map Flow.confirmedBytes).sum

/-! ## The window -/

/-- What comes of the bytes that were pending when bytes go out, each of them
admitted by what is pending then. -/
inductive Window (limit start : Nat) : List Flow → Nat → Prop where
  | untouched : Window limit start [] start
  | written {since : List Flow} {pending byteCount : Nat}
      (earlier : Window limit start since pending)
      (fits : pending = 0 ∨ pending + byteCount ≤ limit) :
      Window limit start (since ++ [.written byteCount]) (pending + byteCount)
  | confirmed {since : List Flow} {pending byteCount : Nat}
      (earlier : Window limit start since pending) (owed : byteCount ≤ pending) :
      Window limit start (since ++ [.confirmed byteCount]) (pending - byteCount)

namespace Window

variable {limit start middle pending : Nat} {since later : List Flow}

theorem trans (one : Window limit start since middle) (two : Window limit middle later pending) :
    Window limit start (since ++ later) pending := by
  induction two with
  | untouched =>
      rw [List.append_nil]
      exact one
  | written _ fits inductionHypothesis =>
      rw [← List.append_assoc]
      exact inductionHypothesis.written fits
  | confirmed _ owed inductionHypothesis =>
      rw [← List.append_assoc]
      exact inductionHypothesis.confirmed owed

/-- What is pending is what has been written and not been confirmed. -/
theorem balance (window : Window limit start since pending) :
    pending + confirmedIn since = start + writtenIn since := by
  induction window with
  | untouched => rfl
  | written _ _ inductionHypothesis =>
      simp only [confirmedIn, writtenIn, List.map_append,
        List.map_cons, List.map_nil, List.sum_append, List.sum_cons, List.sum_nil,
        Flow.writtenBytes, Flow.confirmedBytes] at inductionHypothesis ⊢
      omega
  | confirmed _ owed inductionHypothesis =>
      simp only [confirmedIn, writtenIn, List.map_append,
        List.map_cons, List.map_nil, List.sum_append, List.sum_cons, List.sum_nil,
        Flow.writtenBytes, Flow.confirmedBytes] at inductionHypothesis ⊢
      omega

end Window

/-- One write has been let in although it is beyond the limit, as nothing was
pending. It is not empty, nothing has been written after it, and more is pending
of it than is confirmed at any time. -/
inductive Overfull (limit : Nat) : List Flow → Nat → Prop where
  | intro {before : List Flow} {byteCount : Nat} {since : List Nat} {pending : Nat}
      (empty : Window limit 0 before 0) (nonempty : 0 < byteCount)
      (left : pending + since.sum = byteCount)
      (unfinished : ∀ part, part <+: since → part.sum < byteCount) :
      Overfull limit (before ++ .written byteCount :: since.map .confirmed) pending

namespace Window

variable {limit pending : Nat} {since : List Flow}

/-- The window opens beyond the limit for a single write only. -/
theorem overfull (window : Window limit 0 since pending) (wide : limit < pending) :
    Overfull limit since pending := by
  induction window with
  | untouched => omega
  | @written since pending byteCount earlier fits inductionHypothesis =>
      obtain rfl : pending = 0 := by omega
      have unfinished : ∀ part, part <+: ([] : List Nat) → part.sum < byteCount := by
        intro part start
        rw [List.prefix_nil.mp start, List.sum_nil]
        omega
      rw [Nat.zero_add]
      exact .intro earlier (by omega) rfl unfinished
  | @confirmed _ pending byteCount _ owed inductionHypothesis =>
      obtain @⟨before, size, counts, _, empty, nonempty, left, unfinished⟩ :=
        inductionHypothesis (by omega)
      have fewer : (counts ++ [byteCount]).sum = counts.sum + byteCount := by
        rw [List.sum_append, List.sum_singleton]
      have unfinished : ∀ part, part <+: counts ++ [byteCount] → part.sum < size := by
        rintro part ⟨rest, whole⟩
        have total : part.sum + rest.sum = counts.sum + byteCount := by
          rw [← List.sum_append, whole, fewer]
        omega
      have wider := Overfull.intro empty nonempty (by omega : pending - byteCount + _ = _)
        unfinished
      rw [List.map_append, List.map_singleton] at wider
      rw [List.append_assoc, List.cons_append]
      exact wider

/-- So it is as wide as the limit or a write. -/
theorem bounded (window : Window limit 0 since pending) {most : Nat} (limited : limit ≤ most)
    (writes : ∀ byteCount, .written byteCount ∈ since → byteCount ≤ most) : pending ≤ most := by
  by_contra beyond
  obtain ⟨_, _, left, _⟩ := window.overfull (by omega)
  have within := writes _ (List.mem_append_right _ List.mem_cons_self)
  omega

end Window

/-! ## In machine words -/

/-- The greatest machine word. -/
def wordMax : Nat := 2 ^ 64 - 1

/-- The greatest number of bytes that a buffer has. -/
def sizeMax : Nat := 2 ^ 63 - 1

/-- A sum that must be a machine word. -/
def enlarge? (amount added : Nat) : Option Nat :=
  if amount + added ≤ wordMax then some (amount + added) else none

namespace Lifecycle

/-- Entering written bytes into the account, where no sum may be beyond a machine
word. -/
def recordWriteInWords? (byteCount limit : Nat) (life : Lifecycle) : Option (Step Unit) :=
  if ¬ life.state.acceptsStreamEvents then some (life.misplaced "write")
  else if 0 < life.pendingWrite then do
    let sum ← enlarge? life.pendingWrite byteCount
    if limit < sum then return .error (.backpressure life.pendingWrite limit)
    else do
      let pendingWrite ← enlarge? life.pendingWrite byteCount
      return .ok ((), { life with pendingWrite })
  else do
    let pendingWrite ← enlarge? life.pendingWrite byteCount
    return .ok ((), { life with pendingWrite })

/-- Confirming written bytes, where no difference may be below zero. -/
def acceptWriteCompletedInWords? (byteCount : Nat) (life : Lifecycle) : Option (Step TargetId) :=
  match life.streamTarget .writeCompleted with
  | .error refusal => some (.error refusal)
  | .ok target =>
    if life.pendingWrite < byteCount then
      some (violated (.completionExceeds byteCount life.pendingWrite))
    else (lessen? life.pendingWrite byteCount).map fun pendingWrite =>
      .ok (target, { life with pendingWrite })

variable {life : Lifecycle}

theorem recordWriteInWords?_eq {byteCount : Nat} (limit : Nat)
    (fits : life.pendingWrite + byteCount ≤ wordMax) :
    life.recordWriteInWords? byteCount limit = some (life.recordWrite byteCount limit) := by
  have sum : enlarge? life.pendingWrite byteCount = some (life.pendingWrite + byteCount) :=
    if_pos fits
  unfold recordWriteInWords? recordWrite
  rw [sum]
  by_cases streaming : life.state.acceptsStreamEvents = true
  · by_cases pending : 0 < life.pendingWrite
    · by_cases beyond : limit < life.pendingWrite + byteCount <;>
        simp [streaming, pending, beyond]
    · simp [streaming, pending]
  · simp [streaming]

theorem acceptWriteCompletedInWords?_eq (byteCount : Nat) :
    life.acceptWriteCompletedInWords? byteCount = some (life.acceptWriteCompleted byteCount) := by
  unfold acceptWriteCompletedInWords? acceptWriteCompleted
  cases life.streamTarget .writeCompleted with
  | error refusal => rfl
  | ok target =>
      by_cases beyond : life.pendingWrite < byteCount
      · simp [beyond]
      · simp [beyond, lessen?_of_le (Nat.le_of_not_lt beyond)]

end Lifecycle

end TransportBridge
