import Mathlib.Data.List.Nodup
import TransportBridge.Proofs.HookLedger
import TransportBridge.Proofs.Redelivery
import TransportBridge.Proofs.Sightings

/-!
Contract: every borrowed buffer is released once, and not too early.

The options of an open request and rejected bytes are given back by the call
that they came with. Bytes that have come in are given back when they have been
acknowledged, in the order in which they came, or when the registration is
disposed of. A buffer that has been taken over is never given back.

Owns: the release of buffers as user code sees it in the course of a run.
-/

namespace TransportBridge

/-! ## Fresh buffers -/

namespace NativeBuffer

/-- Nothing has been transferred, and a hook is attached. -/
structure Fresh (buffer : NativeBuffer Hook) (hook : Hook) : Prop where
  data : buffer.data.isSome = true
  hook : buffer.hook = some hook

variable {buffer : NativeBuffer Hook} {hook : Hook}

theorem dropped_of_hook (attached : buffer.hook = some hook) : buffer.dropped = [hook] := by
  unfold dropped
  rw [attached]
  rfl

/-- The native side keeps what it has lent. -/
theorem spent_of_borrowed (borrowed : buffer.ownership = .borrowed) : buffer.spent = buffer := by
  unfold spent transfer view
  rw [borrowed]
  cases buffer.data <;> rfl

theorem lentHooks_of_borrowed (borrowed : buffer.ownership = .borrowed)
    (attached : buffer.hook = some hook) : buffer.lentHooks = [hook] := by
  unfold lentHooks lent
  rw [spent_of_borrowed borrowed, borrowed]
  simpa using dropped_of_hook attached

/-- What has been taken over is not the native side's to give back. -/
theorem Fresh.spent_of_transferable (fresh : buffer.Fresh hook)
    (owned : buffer.ownership = .transferable) :
    buffer.spent.dropped = [] ∧ buffer.lentHooks = [] := by
  obtain ⟨bytes, held⟩ := Option.isSome_iff_exists.mp fresh.data
  unfold lentHooks lent spent transfer
  rw [owned, held]
  exact ⟨rfl, rfl⟩
end NativeBuffer

/-- Nothing is given back of bytes that are taken over, unless nobody knows the
handle. -/
theorem NativeBuffer.Fresh.frees_of_known {data : NativeBuffer Hook} {hook : Hook} {handle : Handle}
    {reply : Reply} (fresh : data.Fresh hook) (owned : data.ownership = .transferable)
    (known : reply ≠ .rejected (.unknownHandle handle)) :
    NativeEvent.frees handle (.received data) reply = some [] := by
  cases reply with
  | rejected error =>
      have other : error ≠ .unknownHandle handle := fun same => known (congrArg Reply.rejected same)
      simp [NativeEvent.frees, other, (fresh.spent_of_transferable owned).1]
  | _ => rfl

/-- The buffer that a report comes with. -/
def NativeEvent.buffer? : NativeEvent → Option (NativeBuffer Hook)
  | .openRequest _ options => some options
  | .received data => some data
  | _ => none

/-- The buffer that a call comes with. -/
def Frame.buffer? (frame : Frame) : Option (NativeBuffer Hook) :=
  match frame.call with
  | .native _ event => event.buffer?
  | _ => none

section Buffers

variable {σ : Type}

/-- Every report has come with a fresh buffer, and with a hook of its own. -/
structure World.FreshBuffers (world : World σ Mark) : Prop where
  fresh : ∀ record ∈ world.reading.records, ∀ buffer ∈ record.buffer?,
    buffer.data.isSome = true ∧ buffer.hook.isSome = true
  distinct : (world.reading.records.flatMap Frame.given).Nodup

/-- Borrowed buffers are released once and not too early, and others as they
should be. -/
structure World.ReleasesBuffers (world : World σ Mark) : Prop where
  once : world.hooksRun.Nodup
  /-- What a call has run by itself is part of what has run. -/
  ran : ∀ ended ∈ world.reading.ended, ended.hooks ⊆ world.hooksRun
  options : ∀ ended ∈ world.reading.ended, ∀ handle address options hook,
    ended.call = .native handle (.openRequest address options) →
      options.ownership = .borrowed → options.hook = some hook → hook ∈ ended.hooks
  rejected : ∀ ended ∈ world.reading.ended, ∀ handle data hook error,
    ended.call = .native handle (.received data) → data.ownership = .borrowed →
      data.hook = some hook → ended.reply = .rejected error → hook ∈ ended.hooks
  /-- What has not been rejected has come in for some registration. -/
  arrived : ∀ ended ∈ world.reading.ended, ∀ handle data,
    ended.call = .native handle (.received data) → (∀ error, ended.reply ≠ .rejected error) →
      ∃ id, data ∈ world.arrived id
  disposed : ∀ id, ∀ data ∈ world.arrived id, ∀ hook, data.ownership = .borrowed →
    data.hook = some hook → (world.life id).state = .disposed → hook ∈ world.hooksRun
  /-- All bytes up to the last one of the buffer have been acknowledged. -/
  acknowledged : ∀ id earlier data later hook, world.arrived id = earlier ++ data :: later →
    data.ownership = .borrowed → data.hook = some hook → hook ∈ world.hooksRun →
      bytesOf (earlier ++ [data]) ≤ world.acknowledged id ∨ (world.life id).state = .disposed
  inOrder : ∀ id, world.hooksRun.filter (· ∈ lentBy (world.arrived id)) <+:
    lentBy (world.arrived id)
  optionsTaken : ∀ ended ∈ world.reading.ended, ∀ handle address options hook,
    ended.call = .native handle (.openRequest address options) →
      options.ownership = .transferable → options.hook = some hook → hook ∉ world.hooksRun
  dataTaken : ∀ ended ∈ world.reading.ended, ∀ handle data hook,
    ended.call = .native handle (.received data) → data.ownership = .transferable →
      data.hook = some hook →
        (hook ∈ world.hooksRun ↔ ended.reply = .rejected (.unknownHandle handle))

/-! ## From the ledger -/

/-- Where nothing occurs twice, a part in order is found by its members. -/
private theorem filter_of_sublist {α : Type} [DecidableEq α] {part all : List α}
    (sublist : part.Sublist all) (once : all.Nodup) : all.filter (· ∈ part) = part := by
  induction sublist with
  | slnil => rfl
  | @cons part all first sublist inductionHypothesis =>
      obtain ⟨absent, others⟩ := List.nodup_cons.mp once
      have out : first ∉ part := fun member => absent (sublist.subset member)
      rw [List.filter_cons_of_neg (by simpa using out), inductionHypothesis others]
  | @cons_cons part all first sublist inductionHypothesis =>
      obtain ⟨absent, others⟩ := List.nodup_cons.mp once
      have rest : all.filter (· ∈ first :: part) = all.filter (· ∈ part) := by
        refine List.filter_congr fun other member => ?_
        have different : other ≠ first := fun same => absent (same ▸ member)
        simp [different]
      rw [List.filter_cons_of_pos (by simp), rest, inductionHypothesis others]

variable {world : World σ Mark} {hook : Hook}

namespace World.Balanced

/-- A hook that waits has not run, nor has one that can still be dealt out. -/
theorem covered_once (balanced : world.Balanced) (fresh : world.FreshBuffers) (hook : Hook) :
    world.hooksRun.count hook + world.waits hook + world.reading.undealt hook ≤ 1 := by
  have given : world.reading.given hook =
      (world.reading.records.flatMap Frame.given).count hook := by
    unfold Reading.given
    rw [List.count_flatMap]
    rfl
  have once := List.nodup_iff_count_le_one.mp fresh.distinct hook
  have covered := balanced.covered hook
  omega

theorem once (balanced : world.Balanced) (fresh : world.FreshBuffers) : world.hooksRun.Nodup := by
  refine List.nodup_iff_count_le_one.mpr fun hook => ?_
  have once := balanced.covered_once fresh hook
  omega

theorem not_ran_of_waiting (balanced : world.Balanced) (fresh : world.FreshBuffers) {id : EntryId}
    (waits : hook ∈ waiting (world.life id).receives) : hook ∉ world.hooksRun := by
  have some : 0 < world.waits hook := by
    cases found : world.entry? id with
    | none =>
        rw [World.life_of_absent found] at waits
        cases waits
    | some entry =>
        rw [World.life_of_entry found] at waits
        refine List.sum_pos_iff_exists_pos_nat.mpr
          ⟨_, List.mem_map_of_mem ?_, List.count_pos_iff.mpr waits⟩
        exact Array.mem_toList_iff.mpr (Array.mem_of_getElem? found)
  have once := balanced.covered_once fresh hook
  rw [← List.count_pos_iff]
  omega

theorem not_ran_of_undealt (balanced : world.Balanced) (fresh : world.FreshBuffers) {record : Frame}
    (member : record ∈ world.reading.records) (undealt : hook ∈ record.undealt) :
    hook ∉ world.hooksRun := by
  have some : 0 < world.reading.undealt hook :=
    List.sum_pos_iff_exists_pos_nat.mpr
      ⟨_, List.mem_map_of_mem member, List.count_pos_iff.mpr undealt⟩
  have once := balanced.covered_once fresh hook
  rw [← List.count_pos_iff]
  omega

/-! ### Calls -/

section Calls

variable {ended : Ended} {handle : Handle}

/-- The record of a report that has ended, with its buffer and its hook. -/
theorem fairTo (balanced : world.Balanced) (fresh : world.FreshBuffers)
    (member : ended ∈ world.reading.ended) {event : NativeEvent} {buffer : NativeBuffer Hook}
    (call : ended.call = .native handle event) (with' : event.buffer? = some buffer)
    (attached : buffer.hook = some hook) :
    ended.toFrame ∈ world.reading.records ∧ ended.FairTo handle event ∧ buffer.Fresh hook := by
  have record : ended.toFrame ∈ world.reading.records :=
    List.mem_append_right _ (List.mem_map_of_mem member)
  have brought : ended.buffer? = some buffer := by
    unfold Frame.buffer?
    rw [call]
    exact with'
  obtain ⟨whole, _⟩ := fresh.fresh _ record buffer brought
  exact ⟨record, balanced.fair ended member handle event call, whole, attached⟩

/-- The hooks that a call has run by itself have run. -/
theorem ran (world : World σ Mark) {record : Frame} (member : record ∈ world.reading.records) :
    record.hooks ⊆ world.hooksRun := by
  have faithful := (Reading.faithful world.acts).own record member
  intro hook ran
  obtain ⟨moment, own, told⟩ := List.mem_filterMap.mp ran
  exact List.mem_filterMap.mpr ⟨moment, faithful own, told⟩

/-- Bytes that have not been rejected have come in. -/
theorem arrived (balanced : world.Balanced) (member : ended ∈ world.reading.ended)
    {data : NativeBuffer Hook} (call : ended.call = .native handle (.received data))
    (accepted : ∀ error, ended.reply ≠ .rejected error) : ∃ id, data ∈ world.arrived id := by
  have record : ended.toFrame ∈ world.reading.records :=
    List.mem_append_right _ (List.mem_map_of_mem member)
  rcases (balanced.fair ended member handle _ call).told accepted with
    ⟨peer, target, attached, told, _⟩ | ⟨opening, _⟩
  · have began : .callback peer target (.received (data.data.getD [])) attached ∈ ended.own := by
      have only : .callback peer target (.received (data.data.getD [])) attached ∈
        ended.callbacks := told ▸ List.mem_singleton.mpr rfl
      exact (List.mem_filter.mp only).1
    have came := (Reading.faithful world.acts).arrived _ record _ _ _ _ _ _ call began
    exact ⟨peer.entry, List.mem_map.mpr ⟨_, List.mem_filter.mpr ⟨came, decide_eq_true rfl⟩, rfl⟩⟩
  · cases opening

/-- A call keeps the hook of a buffer that it has taken over. -/
theorem undealt_of_taken {record : Frame} {event : NativeEvent} {buffer : NativeBuffer Hook}
    (call : record.call = .native handle event) (with' : event.buffer? = some buffer)
    (fresh : buffer.Fresh hook) (owned : buffer.ownership = .transferable)
    (clean : record.hooks = []) : hook ∈ record.undealt := by
  have lent : record.lent = [] := by
    unfold Frame.lent
    rw [call]
    cases event <;> cases with' <;> first | rfl | exact (fresh.spent_of_transferable owned).2
  have given : record.given = [hook] := by
    unfold Frame.given
    rw [call, ← NativeBuffer.dropped_of_hook fresh.hook]
    cases event <;> cases with' <;> rfl
  unfold Frame.undealt
  rw [if_pos ⟨clean, .inr lent⟩, given]
  exact List.mem_singleton.mpr rfl

end Calls

/-! ### Files -/

section Files

variable {id : EntryId} {data : NativeBuffer Hook}

theorem mem_lentBy {buffers : List (NativeBuffer Hook)} (member : data ∈ buffers)
    (borrowed : data.ownership = .borrowed) (attached : data.hook = some hook) :
    hook ∈ lentBy buffers := by
  refine List.mem_flatMap.mpr ⟨data, member, ?_⟩
  rw [NativeBuffer.lentHooks_of_borrowed borrowed attached]
  exact List.mem_singleton.mpr rfl

theorem disposed (balanced : world.Balanced) (sound : world.Sound) (came : data ∈ world.arrived id)
    (borrowed : data.ownership = .borrowed) (attached : data.hook = some hook)
    (ended : (world.life id).state = .disposed) : hook ∈ world.hooksRun := by
  obtain ⟨gone, kept, arrived, filed⟩ := balanced.filed id
  have empty : (world.life id).receives = [] := by
    cases found : world.entry? id with
    | none =>
        rw [World.life_of_absent found] at ended
        cases ended
    | some entry =>
        have genuine : world.Genuine ⟨id, entry.handle⟩ := ⟨entry, found, rfl⟩
        exact ((sound.life_proper genuine).spent ended).receives
  have left := filed.left
  rw [empty] at left
  obtain rfl := List.forall₂_nil_right_iff.mp left
  rw [arrived, List.append_nil] at came
  exact filed.freed.subset (mem_lentBy came borrowed attached)

/-- A buffer that is gone has been acknowledged, and all before it. -/
theorem acknowledged (balanced : world.Balanced) (fresh : world.FreshBuffers)
    {earlier later : List (NativeBuffer Hook)} (split : world.arrived id = earlier ++ data :: later)
    (borrowed : data.ownership = .borrowed) (attached : data.hook = some hook)
    (ran : hook ∈ world.hooksRun) :
    bytesOf (earlier ++ [data]) ≤ world.acknowledged id ∨ (world.life id).state = .disposed := by
  obtain ⟨gone, kept, arrived, filed⟩ := balanced.filed id
  have absent : data ∉ kept := by
    intro waits
    have waiting : hook ∈ waiting (world.life id).receives :=
      waiting_of_leftOf filed.left ▸ mem_lentBy waits borrowed attached
    exact balanced.not_ran_of_waiting fresh waiting ran
  have among : ∃ rest, gone = earlier ++ [data] ++ rest := by
    rcases List.append_eq_append_iff.mp (arrived.symm.trans split) with
      ⟨more, _, same⟩ | ⟨more, same, rest⟩
    · exact absurd (same ▸ List.mem_append_right _ List.mem_cons_self) absent
    · cases more with
      | nil =>
          have waits : data :: later = kept := rest
          exact absurd (waits ▸ List.mem_cons_self) absent
      | cons first others =>
          obtain ⟨rfl, _⟩ := List.cons.inj rest
          exact ⟨others, by rw [same, List.append_assoc]; rfl⟩
  obtain ⟨rest, rfl⟩ := among
  rcases filed.balance with ended | balance
  · exact .inr ended
  · have owed := owed_of_leftOf filed.left
    rw [bytesOf_append, bytesOf_append (earlier ++ [data])] at balance
    left
    omega

/-- The hooks that have run of those that were lent are those of what is
gone. -/
theorem inOrder (balanced : world.Balanced) (fresh : world.FreshBuffers) (id : EntryId) :
    world.hooksRun.filter (· ∈ lentBy (world.arrived id)) <+: lentBy (world.arrived id) := by
  obtain ⟨gone, kept, arrived, filed⟩ := balanced.filed id
  have same : world.hooksRun.filter (· ∈ lentBy (world.arrived id)) =
      world.hooksRun.filter (· ∈ lentBy gone) := by
    refine List.filter_congr fun hook ran => ?_
    have absent : hook ∉ lentBy kept := by
      rw [← waiting_of_leftOf filed.left]
      exact fun waits => balanced.not_ran_of_waiting fresh waits ran
    simp [arrived, lentBy_append, absent]
  rw [same, filter_of_sublist filed.freed (balanced.once fresh), arrived, lentBy_append]
  exact List.prefix_append _ _

end Files

/-- Where the ledger is balanced, buffers have been released as they should
be. -/
theorem releases (balanced : world.Balanced) (sound : world.Sound) (fresh : world.FreshBuffers) :
    world.ReleasesBuffers where
  once := balanced.once fresh
  ran ended member := ran world (List.mem_append_right _ (List.mem_map_of_mem member))
  options ended member handle address options hook call borrowed attached := by
    obtain ⟨_, fair, _⟩ := balanced.fairTo fresh member call rfl attached
    rw [fair.hooks _ rfl, NativeBuffer.spent_of_borrowed borrowed,
      NativeBuffer.dropped_of_hook attached]
    exact List.mem_singleton.mpr rfl
  rejected ended member handle data hook error call borrowed attached rejected := by
    obtain ⟨_, fair, _⟩ := balanced.fairTo fresh member call rfl attached
    have frees : NativeEvent.frees handle (.received data) ended.reply = some [hook] := by
      rw [rejected]
      simp [NativeEvent.frees, NativeBuffer.spent_of_borrowed borrowed,
        NativeBuffer.dropped_of_hook attached]
    rw [fair.hooks _ frees]
    exact List.mem_singleton.mpr rfl
  arrived ended member handle data call accepted := balanced.arrived member call accepted
  disposed id data came hook borrowed attached ended :=
    balanced.disposed sound came borrowed attached ended
  acknowledged id earlier data later hook split borrowed attached ran :=
    balanced.acknowledged fresh split borrowed attached ran
  inOrder := balanced.inOrder fresh
  optionsTaken ended member handle address options hook call owned attached := by
    obtain ⟨record, fair, whole⟩ := balanced.fairTo fresh member call rfl attached
    have clean : ended.hooks = [] :=
      (fair.hooks _ rfl).trans (whole.spent_of_transferable owned).1
    exact balanced.not_ran_of_undealt fresh record (undealt_of_taken call rfl whole owned clean)
  dataTaken ended member handle data hook call owned attached := by
    obtain ⟨record, fair, whole⟩ := balanced.fairTo fresh member call rfl attached
    constructor
    · refine fun ran => Decidable.byContradiction fun known => ?_
      have clean : ended.hooks = [] := fair.hooks _ (whole.frees_of_known owned known)
      exact balanced.not_ran_of_undealt fresh record
        (undealt_of_taken call rfl whole owned clean) ran
    · intro unknown
      have frees : NativeEvent.frees handle (.received data) ended.reply = some [hook] := by
        rw [unknown]
        simp [NativeEvent.frees, NativeBuffer.dropped_of_hook attached]
      refine ran world record ?_
      show hook ∈ ended.hooks
      rw [fair.hooks _ frees]
      exact List.mem_singleton.mpr rfl

end World.Balanced

end Buffers

/-! ## Handles that nobody knows -/

section Unknown

variable {σ : Type} [Custodian σ] {world after asking : World σ Mark}

namespace Delivery

open References Registration

variable {host : Host σ Mark} {handle : Handle} {data : NativeBuffer Hook}

/-- Bytes for a handle that is known are not rejected as for one that is
not. -/
theorem onReceived_of_known (sound : world.Sound) {peer : Peer}
    (known : world.peer? handle = some peer) :
    onReceived host handle data world ≠ (.ok (.error (.unknownHandle handle)), after) := by
  intro ran
  have began : onReceived host handle data world = _ :=
    effectBind_of_ok (show (lookup handle .received).run world = _ from lookup_of_known known _)
  obtain ⟨_, held, _⟩ := Custody.holding_rejected sound known (began.symm.trans ran)
  cases taken : data.transfer with
  | error violation =>
      rw [taken] at held
      obtain ⟨_, refused, _⟩ := thenDropping_rejected held
      cases reject_rejected refused
  | ok outcome =>
      rw [taken] at held
      obtain ⟨bytes, spent⟩ := outcome
      obtain rfl : data.spent = spent := NativeBuffer.spent_of_transfer taken
      cases accepted : ((world.engage peer.entry).life peer.entry).acceptReceived data.size
        data.lent with
      | error refusal =>
          obtain ⟨_, entered⟩ := enterReceived_ends accepted
          have refused := (callBind_of_rejected entered).symm.trans held
          cases refusal <;> cases refused
      | ok accepting =>
          have delivery := (callBind_of_ok (enterReceived_of_ok accepted)).symm.trans held
          obtain ⟨_, delivered, _⟩ := deliverOr_rejected delivery
          obtain ⟨_, pinned, later⟩ := Lifecycle.acceptReceived_ok accepted
          have genuine : (world.engage peer.entry).Genuine peer := genuine_of_peer? sound known
          obtain ⟨entry, found, _⟩ := genuine
          have still : (((world.engage peer.entry).setLife peer.entry accepting.2).life
              peer.entry).pin = some accepting.1 := by
            rw [World.life_setLife_self found, later]
            exact pinned
          cases (deliver_rejected still delivered).1

theorem onReceived_of_unknown (unknown : world.peer? handle = none) :
    ∃ after, onReceived host handle data world = (.ok (.error (.unknownHandle handle)), after) := by
  obtain ⟨missed, looked, _⟩ : Refuses (lookup handle .received) _ _ world :=
    lookup_of_unknown unknown .received
  have began : onReceived host handle data world =
      (thenDropping data (throw (.unknownHandle handle)) : Call σ Mark Unit) missed :=
    effectBind_of_ok (show (lookup handle .received).run world = _ from looked)
  obtain ⟨after, dropped, _⟩ := dropBuffer_untouched data missed
  have thrown : (throw (.unknownHandle handle) : Call σ Mark Unit).run missed =
      (.ok (.error (.unknownHandle handle)), missed) := rfl
  exact ⟨after, began.trans (ensuring_of_ok thrown dropped)⟩

end Delivery

/-- Received bytes are rejected as for a handle that nobody knows where nobody
knows it. -/
theorem BridgeCall.received_unknown_iff (attained : Attained asking) (behaviour : Behaviour σ)
    (depth : Nat) (handle : Handle) (data : NativeBuffer Hook) :
    ((BridgeCall.native handle (.received data)).make behaviour (depth + 1) asking).1 =
        .ok (.rejected (.unknownHandle handle)) ↔ asking.peer? handle = none := by
  let host := behaviour.host (make behaviour depth)
  let called := asking.push (.marked (.called (.native handle (.received data))))
  have made :=
    congrArg Prod.fst (make_runs behaviour depth (.native handle (.received data)) asking)
  have performed : (BridgeCall.native handle (.received data)).perform host called = _ :=
    replyTo_eq (Delivery.onReceived host handle data) (fun _ => .done) called
  rw [made, performed]
  constructor
  · intro replied
    cases ran : Delivery.onReceived host handle data called with
    | mk outcome after =>
        rw [ran] at replied
        rcases outcome with panic | error | ⟨⟩ <;> cases replied
        cases known : asking.peer? handle with
        | none => rfl
        | some peer =>
            exact absurd ran (Delivery.onReceived_of_known (attained.sound.push _) known)
  · intro unknown
    obtain ⟨after, ran⟩ : ∃ after, Delivery.onReceived host handle data called = _ :=
      Delivery.onReceived_of_unknown unknown
    rw [ran]
    rfl

/-- All that user code sees in a run has buffers released as they should be,
and bytes are rejected as for a handle that nobody knows just where nobody
knows it. Any run may be watched (`Reachable.observed`). -/
theorem Observed.buffers_released {run : World (Watched σ) Mark} (observed : Observed run)
    {seen : World σ Mark} (member : seen ∈ run.host.seen) (fresh : seen.FreshBuffers)
    (attained : Attained asking) :
    seen.ReleasesBuffers ∧
    ∀ (behaviour : Behaviour σ) depth handle data,
      ((BridgeCall.native handle (.received data)).make behaviour (depth + 1) asking).1 =
        .ok (.rejected (.unknownHandle handle)) ↔ asking.peer? handle = none := by
  refine ⟨?_, BridgeCall.received_unknown_iff attained⟩
  obtain ⟨config, surroundings, trail⟩ := observed.trail
  obtain ⟨noted, noting, rfl⟩ := trail.noted rfl member
  have balanced : noted.unwatched.Balanced :=
    ⟨noting.balanced.covered, noting.balanced.filed, noting.balanced.fair⟩
  have sound := noting.sound (.fresh config _)
  have unwatched : noted.unwatched.Sound := ⟨sound.found, sound.bound, sound.proper⟩
  exact balanced.releases unwatched fresh

end Unknown

namespace Bystander

/-- Options and received bytes, of which the last ones are not acknowledged. -/
def lending : World (Watched Bystander) Mark :=
  let borrow (data : Bytes) (hook : Hook) := (NativeBuffer.borrowed data).withRelease hook
  let give (data : Bytes) (hook : Hook) := (NativeBuffer.transferable data).withRelease hook
  let stranger : Handle := ⟨8, by decide⟩
  Behaviour.silent.watchedInTurn 1
    [.adoptInbound handle ⟨0⟩,
      .native handle (.openRequest ⟨"stream", "near", 1, ""⟩ (borrow [] "options")),
      .native handle (.received (borrow [1, 2] "first")),
      .native handle (.received (borrow [] "empty")),
      .native handle (.received (borrow [3, 4] "last")),
      .native handle (.received (give [5] "taken")),
      .native stranger (.received (give [6] "unknown")),
      .socket ⟨0⟩ (.completedReceive 3)]
    (.fresh {} (Surroundings.working.watched []))

/-- The connection is closed, and disposed of. -/
def returned : World (Watched Bystander) Mark :=
  ((BridgeCall.native handle (.closed 1 0 [])).make Behaviour.silent.watched 1 lending.noted).2

end Bystander

/-- What is not acknowledged is given back last; what has been taken over is
not. -/
theorem Observed.buffers_released_of_returned :
    Bystander.returned.unwatched.hooksRun = ["options", "unknown", "first", "empty", "last"] ∧
    Bystander.returned.unwatched.ReleasesBuffers ∧
    ((BridgeCall.native Bystander.handle (.received (.borrowed [1]))).make Behaviour.silent 1
      Bystander.start).1 = .ok (.rejected (.unknownHandle Bystander.handle)) := by
  have observed : Observed Bystander.returned.noted := .called (.inTurn (.fresh _ _) _ _ _) _ _ _
  have member : Bystander.returned.unwatched ∈ Bystander.returned.noted.host.seen :=
    List.mem_append_right _ (List.mem_singleton.mpr rfl)
  have fresh : Bystander.returned.unwatched.FreshBuffers := ⟨by decide +kernel, by decide +kernel⟩
  have attained : Attained Bystander.start := .fresh _ _
  obtain ⟨releases, unknown⟩ := observed.buffers_released member fresh attained
  exact ⟨by decide +kernel, releases, (unknown .silent 0 _ _).mpr (by decide)⟩

end TransportBridge
