import Mathlib.Algebra.Order.BigOperators.Group.List
import Mathlib.Algebra.Order.Group.Nat
import TransportBridge.Proofs.Receives

/-!
Contract: the account of received bytes, move by move.

Bytes come in with the buffers that are lent for them; the newest receive may be
taken back; bytes are acknowledged, oldest first. Counted from the first byte
that has come in and stayed, every receive ends at some byte. It is queued until
an acknowledgement reaches that end, and only the oldest one may be acknowledged
in part.

Owns: where receives end and what is left of them; the acknowledgement as two
loops that may neither subtract below zero nor run out of receives; moves on the
account.
-/

namespace TransportBridge

/-- Bytes that have come in, with the buffer that is kept for them. -/
structure Incoming where
  size : Nat
  buffer : Option (NativeBuffer Hook)
deriving DecidableEq, Repr

/-- An arrival with the number of bytes that have come in up to its end. -/
structure Placed where
  ending : Nat
  arrival : Incoming
deriving DecidableEq, Repr

namespace Incoming

/-- How many bytes have come in. -/
def total : List Incoming → Nat
  | [] => 0
  | first :: rest => first.size + total rest

/-- Places arrivals one after the other. -/
def place (start : Nat) : List Incoming → List Placed
  | [] => []
  | first :: rest => ⟨start + first.size, first⟩ :: place (start + first.size) rest

def whole (arrival : Incoming) : PendingReceive :=
  ⟨arrival.size, arrival.buffer⟩

theorem total_append (earlier later : List Incoming) :
    total (earlier ++ later) = total earlier + total later := by
  induction earlier with
  | nil => exact (Nat.zero_add _).symm
  | cons first rest inductionHypothesis =>
      simp only [List.cons_append, total, inductionHypothesis]
      omega

theorem place_append (start : Nat) (earlier later : List Incoming) :
    place start (earlier ++ later) =
      place start earlier ++ place (start + total earlier) later := by
  induction earlier generalizing start with
  | nil => rfl
  | cons first rest inductionHypothesis =>
      simp only [List.cons_append, place, total, inductionHypothesis, Nat.add_assoc]

theorem length_place (start : Nat) (arrivals : List Incoming) :
    (place start arrivals).length = arrivals.length := by
  induction arrivals generalizing start with
  | nil => rfl
  | cons first rest inductionHypothesis => simp [place, inductionHypothesis]

theorem start_le_ending {start : Nat} {arrivals : List Incoming} {placed : Placed}
    (member : placed ∈ place start arrivals) : start ≤ placed.ending := by
  induction arrivals generalizing start with
  | nil => cases member
  | cons first rest inductionHypothesis =>
      rcases List.mem_cons.mp member with rfl | later
      · exact Nat.le_add_right _ _
      · have later := inductionHypothesis later
        omega

end Incoming

namespace Placed

/-- What is left of an arrival when so many bytes have been acknowledged. -/
def leftOver (acknowledged : Nat) (placed : Placed) : PendingReceive :=
  ⟨min placed.arrival.size (placed.ending - acknowledged), placed.arrival.buffer⟩

/-- An acknowledgement of so many bytes in all reaches the end. -/
def reached (acknowledged : Nat) (placed : Placed) : Bool :=
  placed.ending ≤ acknowledged

end Placed

namespace Incoming

/-- Nothing is taken off what comes in later. -/
theorem leftOver_place_of_le {acknowledged start : Nat} (later : acknowledged ≤ start)
    (arrivals : List Incoming) :
    (place start arrivals).map (Placed.leftOver acknowledged) = arrivals.map whole := by
  induction arrivals generalizing start with
  | nil => rfl
  | cons first rest inductionHypothesis =>
      have all : min first.size (start + first.size - acknowledged) = first.size := by omega
      have others := inductionHypothesis (show acknowledged ≤ start + first.size by omega)
      simp only [place, List.map_cons, Placed.leftOver, all, others, whole]

/-- The oldest receive is the only one that may be acknowledged in part. -/
def Underway (acknowledged start : Nat) : List Incoming → Prop
  | [] => True
  | first :: _ => acknowledged ≤ start + first.size

theorem underway_of_le {acknowledged start : Nat} (later : acknowledged ≤ start)
    (arrivals : List Incoming) : Underway acknowledged start arrivals := by
  cases arrivals with
  | nil => trivial
  | cons first rest => exact Nat.le_add_right_of_le later

theorem underway_concat {acknowledged start : Nat} {arrivals : List Incoming}
    (underway : Underway acknowledged start arrivals)
    (within : acknowledged ≤ start + total arrivals) (newest : Incoming) :
    Underway acknowledged start (arrivals ++ [newest]) := by
  cases arrivals with
  | nil => exact Nat.le_add_right_of_le within
  | cons first rest => exact underway

theorem underway_dropLast {acknowledged start : Nat} {arrivals : List Incoming}
    (underway : Underway acknowledged start arrivals) :
    Underway acknowledged start arrivals.dropLast := by
  match arrivals with
  | [] => trivial
  | [_] => trivial
  | _ :: _ :: _ => exact underway

theorem leftOver_place_cons {acknowledged start : Nat} {first : Incoming} {rest : List Incoming}
    (begun : start ≤ acknowledged) (underway : acknowledged ≤ start + first.size) :
    (place start (first :: rest)).map (Placed.leftOver acknowledged) =
      ⟨start + first.size - acknowledged, first.buffer⟩ :: rest.map whole := by
  have part : min first.size (start + first.size - acknowledged) =
      start + first.size - acknowledged := by omega
  simp only [place, List.map_cons, Placed.leftOver, part, leftOver_place_of_le underway]

/-- Nobody's end is reached before the oldest one's. -/
theorem none_reached {acknowledged start : Nat} {first : Incoming}
    (short : acknowledged < start + first.size) {rest : List Incoming} {placed : Placed}
    (member : placed ∈ place start (first :: rest)) : placed.reached acknowledged = false := by
  have later : start + first.size ≤ placed.ending := by
    rcases List.mem_cons.mp member with rfl | member
    · exact Nat.le_refl _
    · exact start_le_ending member
  exact decide_eq_false (by omega)

/-- An acknowledgement parts the arrivals at one place. -/
theorem exists_split {acknowledged start : Nat} (begun : start ≤ acknowledged)
    (arrivals : List Incoming) :
    ∃ used left, arrivals = used ++ left ∧
      (place start arrivals).filter (!·.reached acknowledged) =
        place (start + total used) left ∧
      start + total used ≤ acknowledged ∧ Underway acknowledged (start + total used) left := by
  induction arrivals generalizing start with
  | nil => exact ⟨[], [], rfl, rfl, begun, trivial⟩
  | cons first rest inductionHypothesis =>
      by_cases reached : start + first.size ≤ acknowledged
      · obtain ⟨used, left, split, kept, begunLeft, underway⟩ := inductionHypothesis reached
        have sum : start + total (first :: used) = start + first.size + total used :=
          (Nat.add_assoc _ _ _).symm
        refine ⟨first :: used, left, by rw [split, List.cons_append], ?_, ?_, ?_⟩
        · have leaves : (Placed.mk (start + first.size) first).reached acknowledged = true :=
            decide_eq_true reached
          rw [sum, ← kept]
          simp [place, leaves]
        · exact sum ▸ begunLeft
        · exact sum ▸ underway
      · have short : acknowledged < start + first.size := by omega
        refine ⟨[], first :: rest, rfl, ?_, begun, Nat.le_of_lt short⟩
        exact List.filter_eq_self.mpr fun placed member => by simp [none_reached short member]

end Incoming

namespace Lifecycle

open Incoming

/-! ## What an acknowledgement takes off the queue -/

/-- Receives whose end is reached leave the queue with their buffers, and the
others stay. -/
theorem consume_leftOver {acknowledged start byteCount : Nat} {arrivals : List Incoming}
    (begun : start ≤ acknowledged) (underway : Underway acknowledged start arrivals) :
    consume byteCount ((place start arrivals).map (Placed.leftOver acknowledged)) =
      (((place start arrivals).filter (·.reached (acknowledged + byteCount))).filterMap
          (·.arrival.buffer),
        ((place start arrivals).filter (!·.reached (acknowledged + byteCount))).map
          (Placed.leftOver (acknowledged + byteCount))) := by
  induction arrivals generalizing acknowledged start byteCount with
  | nil => rfl
  | cons first rest inductionHypothesis =>
      have underway : acknowledged ≤ start + first.size := underway
      rw [leftOver_place_cons begun underway]
      unfold consume
      by_cases partly : byteCount < start + first.size - acknowledged
      · have short : acknowledged + byteCount < start + first.size := by omega
        have none_leave : (place start (first :: rest)).filter
            (·.reached (acknowledged + byteCount)) = [] :=
          List.filter_eq_nil_iff.mpr fun placed member => by simp [none_reached short member]
        have all_stay : (place start (first :: rest)).filter
            (!·.reached (acknowledged + byteCount)) = place start (first :: rest) :=
          List.filter_eq_self.mpr fun placed member => by simp [none_reached short member]
        rw [if_pos partly, none_leave, all_stay,
          leftOver_place_cons (by omega) (Nat.le_of_lt short), Nat.sub_sub]
        rfl
      · -- The rest is taken up where the oldest receive ends.
        let left := byteCount - (start + first.size - acknowledged)
        have through : start + first.size + left = acknowledged + byteCount := by omega
        have ends : start + first.size ≤ acknowledged + byteCount := by omega
        have leaves : (Placed.mk (start + first.size) first).reached
            (acknowledged + byteCount) = true := decide_eq_true ends
        have others := @inductionHypothesis (start + first.size) (start + first.size) left
          (Nat.le_refl _) (underway_of_le (Nat.le_refl _) rest)
        rw [leftOver_place_of_le (Nat.le_refl _), through] at others
        rw [if_neg partly, others]
        cases kept : first.buffer <;> simp [place, leaves, kept]

theorem owed_leftOver {acknowledged start : Nat} {arrivals : List Incoming}
    (begun : start ≤ acknowledged) (underway : Underway acknowledged start arrivals)
    (within : acknowledged ≤ start + total arrivals) :
    owed ((place start arrivals).map (Placed.leftOver acknowledged)) + acknowledged =
      start + total arrivals := by
  have whole_owed (later : List Incoming) : owed (later.map whole) = total later := by
    induction later with
    | nil => rfl
    | cons first rest inductionHypothesis =>
        exact congrArg (first.size + ·) inductionHypothesis
  cases arrivals with
  | nil =>
      show 0 + acknowledged = start + 0
      simp only [total] at within
      omega
  | cons first rest =>
      have underway : acknowledged ≤ start + first.size := underway
      rw [leftOver_place_cons begun underway]
      show start + first.size - acknowledged + owed (rest.map whole) + acknowledged =
        start + (first.size + total rest)
      rw [whole_owed]
      omega

/-! ## The same in two loops -/

/-- A subtraction that must not go below zero. -/
def lessen? (amount taken : Nat) : Option Nat :=
  if taken ≤ amount then some (amount - taken) else none

/-- Takes bytes off, the oldest receive first, as long as there are any left to
take. It must not run out of receives before. -/
def takeOff? (byteCount : Nat) :
    List PendingReceive → Option (List (NativeBuffer Hook) × List PendingReceive)
  | [] => if byteCount = 0 then some ([], []) else none
  | oldest :: rest =>
    if byteCount = 0 then some ([], oldest :: rest)
    else if byteCount < oldest.remaining then
      (lessen? oldest.remaining byteCount).map fun remaining =>
        ([], { oldest with remaining } :: rest)
    else do
      let byteCount ← lessen? byteCount oldest.remaining
      let (freed, left) ← takeOff? byteCount rest
      return (oldest.buffer.toList ++ freed, left)

/-- Clears away the receives at the front that are used up. -/
def sweep : List PendingReceive → List (NativeBuffer Hook) × List PendingReceive
  | [] => ([], [])
  | oldest :: rest =>
    if oldest.remaining = 0 then (oldest.buffer.toList ++ (sweep rest).1, (sweep rest).2)
    else ([], oldest :: rest)

/-- The acknowledgement with both loops; nothing where it goes wrong inside. -/
def acknowledgeInLoops? (byteCount : Nat) (life : Lifecycle) :
    Option (Step (List (NativeBuffer Hook))) :=
  if life.state.isClosed then some (life.misplaced "completed_receive")
  else if life.unackedReceive < byteCount then
    some (violated (.acknowledgementExceeds byteCount life.unackedReceive))
  else do
    let unackedReceive ← lessen? life.unackedReceive byteCount
    let (freed, left) ← takeOff? byteCount life.receives
    return .ok (freed ++ (sweep left).1, { life with
      unackedReceive
      receives := (sweep left).2 })

/-- Taking back the newest receive; nothing where more would go off the account
than there is on it. -/
def abortInFull? (byteCount : Nat) (life : Lifecycle) :
    Option (Option (NativeBuffer Hook) × Lifecycle) :=
  match life.receives.getLast? with
  | some newest =>
    if newest.remaining = byteCount then
      (lessen? life.unackedReceive byteCount).map fun unackedReceive =>
        (newest.buffer, { life with unackedReceive, receives := life.receives.dropLast })
    else some (none, life)
  | none => some (none, life)

theorem lessen?_of_le {amount taken : Nat} (enough : taken ≤ amount) :
    lessen? amount taken = some (amount - taken) :=
  if_pos enough

theorem consume_zero (receives : List PendingReceive) : consume 0 receives = sweep receives := by
  induction receives with
  | nil => rfl
  | cons oldest rest inductionHypothesis =>
      unfold consume sweep
      by_cases empty : oldest.remaining = 0
      · simp [empty, inductionHypothesis]
      · rw [if_pos (Nat.pos_of_ne_zero empty), if_neg empty, Nat.sub_zero]

/-- Nothing is left at the front that is used up. -/
theorem head?_consume_pos (byteCount : Nat) (receives : List PendingReceive) :
    ∀ front ∈ (consume byteCount receives).2.head?, 0 < front.remaining := by
  induction receives generalizing byteCount with
  | nil => exact nofun
  | cons oldest rest inductionHypothesis =>
      unfold consume
      by_cases partly : byteCount < oldest.remaining
      · rw [if_pos partly]
        intro front first
        cases first
        exact Nat.sub_pos_of_lt partly
      · rw [if_neg partly]
        exact inductionHypothesis _

/-- Taking off and clearing away is consuming, as far as bytes are owed. -/
theorem takeOff?_of_owed {byteCount : Nat} {receives : List PendingReceive}
    (enough : byteCount ≤ owed receives) :
    ∃ freed left, takeOff? byteCount receives = some (freed, left) ∧
      consume byteCount receives = (freed ++ (sweep left).1, (sweep left).2) := by
  induction receives generalizing byteCount with
  | nil => exact ⟨[], [], if_pos (Nat.le_zero.mp enough), rfl⟩
  | cons oldest rest inductionHypothesis =>
      have all : owed (oldest :: rest) = oldest.remaining + owed rest := rfl
      by_cases nothing : byteCount = 0
      · subst nothing
        exact ⟨[], oldest :: rest, if_pos rfl, consume_zero _⟩
      unfold takeOff? consume
      rw [if_neg nothing]
      by_cases partly : byteCount < oldest.remaining
      · have part : oldest.remaining - byteCount ≠ 0 := by omega
        rw [if_pos partly, if_pos partly, lessen?_of_le (Nat.le_of_lt partly)]
        exact ⟨[], _, rfl, by simp [sweep, part]⟩
      · obtain ⟨freed, left, taken, consumed⟩ :=
          inductionHypothesis (show byteCount - oldest.remaining ≤ owed rest by omega)
        rw [if_neg partly, if_neg partly, lessen?_of_le (Nat.le_of_not_lt partly)]
        refine ⟨oldest.buffer.toList ++ freed, left, ?_, ?_⟩
        · simp only [Option.bind_eq_bind, Option.bind_some, taken]
          rfl
        · simp only [consumed, List.append_assoc]

/-- On a balanced account the loops do not go wrong and come to the same. -/
theorem acknowledgeInLoops?_of_balanced {life : Lifecycle}
    (balanced : life.unackedReceive = owed life.receives) (byteCount : Nat) :
    life.acknowledgeInLoops? byteCount = some (life.acknowledgeReceive byteCount) := by
  unfold acknowledgeInLoops? acknowledgeReceive
  by_cases closed : life.state.isClosed = true
  · rw [if_pos closed, if_pos closed]
  · rw [if_neg closed, if_neg closed]
    by_cases exceeds : life.unackedReceive < byteCount
    · rw [if_pos exceeds, if_pos exceeds]
    · have enough : byteCount ≤ life.unackedReceive := Nat.le_of_not_lt exceeds
      obtain ⟨freed, left, taken, consumed⟩ := takeOff?_of_owed (balanced ▸ enough)
      rw [if_neg exceeds, if_neg exceeds, lessen?_of_le enough, taken, consumed]
      rfl

theorem remaining_le_owed {receives : List PendingReceive} {pending : PendingReceive}
    (member : pending ∈ receives) : pending.remaining ≤ owed receives :=
  List.le_sum_of_mem (List.mem_map_of_mem member)

theorem abortInFull?_of_balanced {life : Lifecycle}
    (balanced : life.unackedReceive = owed life.receives) (byteCount : Nat) :
    life.abortInFull? byteCount = some (life.abortReceived byteCount) := by
  unfold abortInFull? abortReceived
  cases last : life.receives.getLast? with
  | none => rfl
  | some newest =>
      by_cases untouched : newest.remaining = byteCount
      · have enough : byteCount ≤ life.unackedReceive := by
          rw [balanced, ← untouched]
          exact remaining_le_owed (List.mem_of_getLast? last)
        simp only [untouched, if_true, lessen?_of_le enough, Option.map_some]
      · simp only [untouched, if_false]

end Lifecycle

/-! ## Moves on the account -/

/-- What happens to the account of received bytes: bytes come in, the newest
receive is taken back, bytes are acknowledged. In between the lifecycle changes
in any other respect. -/
inductive AccountMove where
  | receive (byteCount : Nat) (retained : Option (NativeBuffer Hook))
  | takeBack
  | acknowledge (byteCount : Nat)
  | elsewhere (step : Lifecycle → Lifecycle)

/-- A lifecycle with what has come in and has not been taken back, oldest first,
and with the number of bytes that have been acknowledged. -/
structure Account where
  life : Lifecycle
  arrived : List Incoming := []
  acknowledged : Nat := 0

namespace Account

open Incoming Lifecycle

/-- The account before anything has come in. -/
def opened (life : Lifecycle) : Account :=
  { life := { life with unackedReceive := 0, receives := [] } }

def receive (account : Account) (byteCount : Nat) (retained : Option (NativeBuffer Hook)) :
    Account :=
  match account.life.acceptReceived byteCount retained with
  | .ok (_, next) =>
    { account with life := next, arrived := account.arrived ++ [⟨byteCount, retained⟩] }
  | .error _ => account

/-- What is no longer untouched stays. -/
def takeBack (account : Account) : Account :=
  match account.arrived.getLast? with
  | some newest =>
    let next := (account.life.abortReceived newest.size).2
    { account with
      life := next
      arrived := if next = account.life then account.arrived else account.arrived.dropLast }
  | none => account

def acknowledge (account : Account) (byteCount : Nat) : Account :=
  match account.life.acknowledgeReceive byteCount with
  | .ok (_, next) =>
    { account with life := next, acknowledged := account.acknowledged + byteCount }
  | .error _ => account

/-- A change of the lifecycle that spares the account. -/
def change (account : Account) (step : Lifecycle → Lifecycle) : Account :=
  { account with life := { step account.life with
      unackedReceive := account.life.unackedReceive
      receives := account.life.receives } }

/-- A move that is refused leaves the account alone. -/
def step (account : Account) : AccountMove → Account
  | .receive byteCount retained => account.receive byteCount retained
  | .takeBack => account.takeBack
  | .acknowledge byteCount => account.acknowledge byteCount
  | .elsewhere step => account.change step

def after (account : Account) (moves : List AccountMove) : Account :=
  moves.foldl step account

/-- The arrivals that are still queued, with where they end. -/
def queued (account : Account) : List Placed :=
  (place 0 account.arrived).drop (account.arrived.length - account.life.receives.length)

/-- The account is exact: how much is owed, who is queued, and what the next
acknowledgement and the next taking back will do. -/
structure Exact (account : Account) : Prop where
  unacked_eq_owed : account.life.unackedReceive = owed account.life.receives
  /-- What has come in and stayed is acknowledged or owed. -/
  balance : account.life.unackedReceive + account.acknowledged = total account.arrived
  receives : account.life.receives =
    account.queued.map (Placed.leftOver account.acknowledged)
  /-- A receive that is taken back at once has not been. -/
  takes_back : ∀ byteCount retained, (account.life.acceptReceived byteCount retained).isOk →
    (account.receive byteCount retained).takeBack = account
  acknowledges_iff : ∀ byteCount, (account.life.acknowledgeReceive byteCount).isOk ↔
    account.life.state.isClosed = false ∧ byteCount ≤ account.life.unackedReceive
  /-- An acknowledgement takes off its bytes and frees the buffers of just those
  whose end it reaches, in order. -/
  acknowledges : ∀ byteCount freed next,
    account.life.acknowledgeReceive byteCount = .ok (freed, next) →
      next.unackedReceive + byteCount = account.life.unackedReceive ∧
      freed = (account.queued.filter (·.reached (account.acknowledged + byteCount))).filterMap
        (·.arrival.buffer) ∧
      next.receives = (account.queued.filter
        (!·.reached (account.acknowledged + byteCount))).map
          (Placed.leftOver (account.acknowledged + byteCount)) ∧
      ∀ front ∈ next.receives.head?, 0 < front.remaining
  /-- No subtraction goes below zero, and no loop runs out of receives. -/
  acknowledges_inLoops : ∀ byteCount, account.life.acknowledgeInLoops? byteCount =
    some (account.life.acknowledgeReceive byteCount)
  aborts_inFull : ∀ byteCount, account.life.abortInFull? byteCount =
    some (account.life.abortReceived byteCount)

theorem takeBack_receive (account : Account) {byteCount : Nat}
    {retained : Option (NativeBuffer Hook)}
    (accepts : (account.life.acceptReceived byteCount retained).isOk) :
    (account.receive byteCount retained).takeBack = account := by
  unfold Account.receive Account.takeBack
  cases accepted : account.life.acceptReceived byteCount retained with
  | error refusal =>
      rw [accepted] at accepts
      cases accepts
  | ok given =>
      have undone := abortReceived_acceptReceived accepted
      obtain ⟨_, _, changed⟩ := acceptReceived_ok accepted
      have changes : account.life ≠ given.2 := by
        intro same
        have longer := congrArg (fun life : Lifecycle => life.receives.length) (same.trans changed)
        simp at longer
      simp only [List.getLast?_concat, undone, if_neg changes, List.dropLast_concat]

/-- Of what has come in, who has left the queue and who is kept in it. -/
structure Kept (account : Account) (gone kept : List Incoming) : Prop where
  arrived : account.arrived = gone ++ kept
  receives : account.life.receives =
    (place (total gone) kept).map (Placed.leftOver account.acknowledged)
  begun : total gone ≤ account.acknowledged
  underway : Underway account.acknowledged (total gone) kept
  balance : account.life.unackedReceive + account.acknowledged = total account.arrived

namespace Kept

variable {account : Account} {gone kept : List Incoming}

theorem total_arrived (sound : account.Kept gone kept) :
    total account.arrived = total gone + total kept := by
  rw [sound.arrived, total_append]

theorem within (sound : account.Kept gone kept) :
    account.acknowledged ≤ total gone + total kept := by
  have balance := sound.balance
  rw [sound.total_arrived] at balance
  omega

theorem unacked_eq_owed (sound : account.Kept gone kept) :
    account.life.unackedReceive = owed account.life.receives := by
  have taken := owed_leftOver sound.begun sound.underway sound.within
  have balance := sound.balance
  rw [sound.total_arrived] at balance
  rw [sound.receives]
  omega

theorem length_receives (sound : account.Kept gone kept) :
    account.life.receives.length = kept.length := by
  rw [sound.receives, List.length_map, length_place]

theorem queued_eq (sound : account.Kept gone kept) :
    account.queued = place (total gone) kept := by
  have before : (gone ++ kept).length - kept.length = (place 0 gone).length := by
    rw [length_place, List.length_append, Nat.add_sub_cancel]
  unfold queued
  rw [sound.length_receives, sound.arrived, before, place_append, List.drop_left, Nat.zero_add]

theorem opened (life : Lifecycle) : (Account.opened life).Kept [] [] :=
  ⟨rfl, rfl, Nat.le_refl 0, trivial, rfl⟩

theorem receive (sound : account.Kept gone kept) (byteCount : Nat)
    (retained : Option (NativeBuffer Hook)) :
    ∃ kept, (account.receive byteCount retained).Kept gone kept := by
  unfold Account.receive
  cases accepted : account.life.acceptReceived byteCount retained with
  | error refusal => exact ⟨kept, sound⟩
  | ok given =>
      obtain ⟨_, _, changed⟩ := acceptReceived_ok accepted
      have newest := leftOver_place_of_le sound.within [⟨byteCount, retained⟩]
      have balance := sound.balance
      refine ⟨kept ++ [⟨byteCount, retained⟩], ?_, ?_, sound.begun,
        underway_concat sound.underway sound.within _, ?_⟩
      · show account.arrived ++ _ = _
        rw [sound.arrived, List.append_assoc]
      · show given.2.receives = _
        rw [changed, place_append, List.map_append, newest, ← sound.receives]
        rfl
      · show given.2.unackedReceive + account.acknowledged =
          total (account.arrived ++ [⟨byteCount, retained⟩])
        rw [changed, total_append, ← balance]
        simp only [total]
        omega

/-- The newest receive is the newest arrival, as long as anyone is queued. -/
theorem exists_newest (sound : account.Kept gone kept) {newest : Incoming}
    (last : account.arrived.getLast? = some newest) (queued : account.life.receives ≠ []) :
    ∃ earlier, kept = earlier ++ [newest] := by
  have nonempty : kept ≠ [] := by
    intro empty
    rw [sound.receives, empty] at queued
    exact queued rfl
  rw [sound.arrived, List.getLast?_append, List.getLast?_eq_some_getLast nonempty] at last
  refine ⟨kept.dropLast, ?_⟩
  rw [← Option.some.inj last]
  exact (List.dropLast_append_getLast nonempty).symm

theorem takeBack (sound : account.Kept gone kept) :
    ∃ kept, account.takeBack.Kept gone kept := by
  unfold Account.takeBack
  cases last : account.arrived.getLast? with
  | none => exact ⟨kept, sound⟩
  | some newest =>
      rcases abortReceived_cases newest.size account.life with
        ⟨pending, back, untouched, aborted⟩ | aborted
      · have queued : pending ∈ account.life.receives := List.mem_of_getLast? back
        have changes : ({ account.life with
            unackedReceive := account.life.unackedReceive - newest.size
            receives := account.life.receives.dropLast } : Lifecycle) ≠ account.life := by
          intro same
          have fewer := congrArg (fun life : Lifecycle => life.receives.length) same
          have some_queued := List.length_pos_of_mem queued
          simp only [List.length_dropLast] at fewer
          omega
        obtain ⟨earlier, rfl⟩ := sound.exists_newest last (List.ne_nil_of_mem queued)
        have underway := underway_dropLast sound.underway
        have enough := remaining_le_owed queued
        have balance := sound.balance
        rw [← sound.unacked_eq_owed, untouched] at enough
        rw [List.dropLast_concat] at underway
        simp only [aborted, if_neg changes]
        refine ⟨earlier, ?_, ?_, sound.begun, underway, ?_⟩
        · show account.arrived.dropLast = gone ++ earlier
          rw [sound.arrived, ← List.append_assoc, List.dropLast_concat]
        · show account.life.receives.dropLast = _
          rw [sound.receives, place_append, List.map_append]
          exact List.dropLast_concat
        · show account.life.unackedReceive - newest.size + account.acknowledged =
            total account.arrived.dropLast
          rw [sound.arrived, ← List.append_assoc] at balance ⊢
          rw [total_append] at balance
          rw [List.dropLast_concat]
          simp only [total] at balance
          omega
      · simp only [aborted, if_true]
        exact ⟨kept, sound⟩

theorem acknowledge (sound : account.Kept gone kept) (byteCount : Nat) :
    ∃ gone kept, (account.acknowledge byteCount).Kept gone kept := by
  unfold Account.acknowledge
  cases taken : account.life.acknowledgeReceive byteCount with
  | error refusal => exact ⟨gone, kept, sound⟩
  | ok given =>
      obtain ⟨_, enough, _, changed⟩ := acknowledgeReceive_ok taken
      have begun : total gone ≤ account.acknowledged + byteCount :=
        Nat.le_add_right_of_le sound.begun
      obtain ⟨used, left, split, stays, begunLeft, underway⟩ := exists_split begun kept
      have balance := sound.balance
      rw [← total_append] at stays begunLeft underway
      refine ⟨gone ++ used, left, ?_, ?_, begunLeft, underway, ?_⟩
      · rw [List.append_assoc, ← split]
        exact sound.arrived
      · show given.2.receives = _
        rw [changed]
        show (consume byteCount account.life.receives).2 = _
        rw [sound.receives, consume_leftOver sound.begun sound.underway, stays]
      · show given.2.unackedReceive + (account.acknowledged + byteCount) = total account.arrived
        rw [changed]
        show account.life.unackedReceive - byteCount + (account.acknowledged + byteCount) = _
        omega

/-- Every move keeps the account. -/
theorem step (sound : account.Kept gone kept) (move : AccountMove) :
    ∃ gone kept, (account.step move).Kept gone kept := by
  cases move with
  | receive byteCount retained => exact ⟨gone, sound.receive byteCount retained⟩
  | takeBack => exact ⟨gone, sound.takeBack⟩
  | acknowledge byteCount => exact sound.acknowledge byteCount
  | elsewhere _ =>
      exact ⟨gone, kept, sound.arrived, sound.receives, sound.begun, sound.underway, sound.balance⟩

theorem after (sound : account.Kept gone kept) (moves : List AccountMove) :
    ∃ gone kept, (account.after moves).Kept gone kept := by
  induction moves generalizing account gone kept with
  | nil => exact ⟨gone, kept, sound⟩
  | cons move rest inductionHypothesis =>
      obtain ⟨gone, kept, sound⟩ := sound.step move
      exact inductionHypothesis sound

/-- What has been kept of an account makes it exact. -/
theorem exact (sound : account.Kept gone kept) : account.Exact where
  unacked_eq_owed := sound.unacked_eq_owed
  balance := sound.balance
  receives := by rw [sound.queued_eq, sound.receives]
  takes_back _ _ accepts := takeBack_receive account accepts
  acknowledges_iff byteCount := by
    unfold acknowledgeReceive misplaced violated
    by_cases closed : account.life.state.isClosed = true
    · simp [closed, Except.isOk, Except.toBool]
    · by_cases exceeds : account.life.unackedReceive < byteCount
      · simp [closed, exceeds, Except.isOk, Except.toBool]
      · simp [closed, exceeds, Except.isOk, Except.toBool, Nat.le_of_not_lt exceeds]
  acknowledges byteCount freed next taken := by
    obtain ⟨_, enough, rfl, rfl⟩ := acknowledgeReceive_ok taken
    have front := head?_consume_pos byteCount account.life.receives
    refine ⟨Nat.sub_add_cancel enough, ?_, ?_, front⟩
    all_goals
      rw [sound.queued_eq, sound.receives, consume_leftOver sound.begun sound.underway]
  acknowledges_inLoops := acknowledgeInLoops?_of_balanced sound.unacked_eq_owed
  aborts_inFull := abortInFull?_of_balanced sound.unacked_eq_owed

end Kept

/-- Whatever happens to a lifecycle, its account of received bytes stays exact. -/
theorem exact_after (life : Lifecycle) (moves : List AccountMove) :
    ((opened life).after moves).Exact := by
  obtain ⟨gone, kept, sound⟩ := (Kept.opened life).after moves
  exact sound.exact

example : ((opened { state := .opened, pin := some ⟨0⟩ }).after
    [.receive 0 none, .receive 3 none, .acknowledge 1, .receive 4 none, .takeBack, .receive 0 none,
      .acknowledge 2]).life.receives = [] := by decide

end Account

end TransportBridge
