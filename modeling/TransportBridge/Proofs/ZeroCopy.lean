import Mathlib.Data.List.Forall2
import TransportBridge.Proofs.AccordCalls
import TransportBridge.Proofs.BareWorlds
import TransportBridge.Proofs.Sightings

/-!
Contract: the same run with other buffers.

A run is reissued when the buffers that are handed over in it are replaced by
others with the same bytes, at the top as well as in the code that the bridge
calls: transferable ones by borrowed ones, or the other way round, and with
other hooks. All that there is to see in a reissued run is what there was to see
in the first one, but for the hooks that run and for what they are counted as.

Owns: calls, code and runs that are reissued, and that they agree at all points.

Does not own: how long a borrowed buffer is kept.
-/

namespace TransportBridge

variable {σ α : Type}

/-! ## What is reissued -/

/-- The same call, but that the bytes may come in another buffer. Neither buffer
has given them away yet. -/
inductive BridgeCall.Reissues : BridgeCall → BridgeCall → Prop where
  | same (call : BridgeCall) : Reissues call call
  | openRequest (handle : Handle) (address : Address) {options options' : NativeBuffer Hook}
      {bytes : Bytes} (held : options.data = some bytes) (held' : options'.data = some bytes) :
      Reissues (.native handle (.openRequest address options))
        (.native handle (.openRequest address options'))
  | received (handle : Handle) {data data' : NativeBuffer Hook} {bytes : Bytes}
      (held : data.data = some bytes) (held' : data'.data = some bytes) :
      Reissues (.native handle (.received data)) (.native handle (.received data'))

/-- The same code, but that other buffers may be handed over in its calls. From
worlds that are the same but for the buffers it goes on in the same way. -/
inductive UserCode.Reissues : UserCode σ α → UserCode σ α → Prop where
  | finish (result : α) : Reissues (.finish result) (.finish result)
  | unwind (panic : Panic) : Reissues (.unwind panic) (.unwind panic)
  | look {next next' : World σ Mark → UserCode σ α}
      (rest : ∀ world twin, World.SameButBuffers Eq world twin →
        Reissues (next world) (next' twin)) :
      Reissues (.look next) (.look next')
  | rearrange (change : Surroundings σ → Surroundings σ) {next next' : UserCode σ α}
      (rest : Reissues next next') :
      Reissues (.rearrange change next) (.rearrange change next')
  | call {made made' : BridgeCall} (reissues : made.Reissues made')
      {next next' : Reply → UserCode σ α} (rest : ∀ reply, Reissues (next reply) (next' reply)) :
      Reissues (.call made next) (.call made' next')

structure Behaviour.Reissues (behaviour other : Behaviour σ) : Prop where
  callback (peer : Peer) (target : TargetId) (event : SocketEvent) :
      (behaviour.callback peer target event).Reissues (other.callback peer target event)
  createHandle (address : Address) (framing : Framing) :
      (behaviour.createHandle address framing).Reissues (other.createHandle address framing)
  engine (handle : Handle) (call : EngineCall) :
      (behaviour.engine handle call).Reissues (other.engine handle call)
  createTarget (factory : FactoryId) (handle : Handle) (address : Address) (options : Bytes) :
      (behaviour.createTarget factory handle address options).Reissues
        (other.createTarget factory handle address options)

theorem BridgeCall.Reissues.permits {call call' : BridgeCall} (reissues : call.Reissues call') :
    (Scope.whole True).Permits call call' := by
  cases reissues with
  | same => exact Scope.permits_whole True call
  | openRequest handle address held held' =>
      exact .native trivial (.openRequest address (.inr ⟨trivial, _, held, held'⟩))
  | received handle held held' =>
      exact .native trivial (.received (.inr ⟨trivial, _, held, held'⟩))

/-! ## Watched code -/

/-- The hosts are the same, and so are the worlds that their code has seen, but
for the buffers. -/
structure Watched.SameButBuffers (watched other : Watched σ) : Prop where
  host : watched.host = other.host
  seen : List.Forall₂ (World.SameButBuffers Eq) watched.seen other.seen

theorem Watched.keeping [Custodian σ] :
    Keeping (Watched.SameButBuffers : Watched σ → Watched σ → Prop) where
  knows kept entry := by
    simp only [Custodian.knows, kept.host]
  forget kept target := by
    simp only [Custodian.forget, kept.host]
    exact ⟨trivial, rfl, kept.seen⟩

namespace World.SameButBuffers

variable {world twin : World (Watched σ) Mark}

theorem unwatched (same : world.SameButBuffers Watched.SameButBuffers twin) :
    world.unwatched.SameButBuffers Eq twin.unwatched :=
  { same with host := same.host.host }

theorem amid (same : world.SameButBuffers Watched.SameButBuffers twin)
    {surroundings surroundings' : Surroundings (Watched σ)}
    (unwatched : surroundings.unwatched = surroundings'.unwatched)
    (seen : List.Forall₂ (World.SameButBuffers Eq) surroundings.host.seen
      surroundings'.host.seen) :
    (world.amid surroundings).SameButBuffers Watched.SameButBuffers (twin.amid surroundings') := by
  have runtime := congrArg Surroundings.runtime unwatched
  have thread := congrArg Surroundings.thread unwatched
  have factory := congrArg Surroundings.factory unwatched
  have host := congrArg Surroundings.host unwatched
  exact { same with
    runtime := runtime
    thread := thread
    factory := factory
    host := ⟨host, seen⟩ }

/-- What is around the two bridges, without the notes. -/
theorem surroundings (same : world.SameButBuffers Watched.SameButBuffers twin) :
    world.surroundings.unwatched = twin.surroundings.unwatched := by
  unfold World.surroundings Surroundings.unwatched
  rw [same.runtime, same.thread, same.factory, same.host.host]

theorem noting (same : world.SameButBuffers Watched.SameButBuffers twin)
    {seen seen' : World σ Mark} (alike : seen.SameButBuffers Eq seen') :
    (world.amid (world.surroundings.noting seen)).SameButBuffers Watched.SameButBuffers
      (twin.amid (twin.surroundings.noting seen')) := by
  refine same.amid same.surroundings ?_
  exact List.rel_append same.host.seen (.cons alike .nil)

theorem noted (same : world.SameButBuffers Watched.SameButBuffers twin) :
    world.noted.SameButBuffers Watched.SameButBuffers twin.noted :=
  same.noting same.unwatched

end World.SameButBuffers

section Watching

/-- The worlds of two watched runs are the same but for the buffers. -/
abbrev Ties.reissued : Ties (Watched σ) (Watched σ) :=
  World.SameButBuffers.ties Watched.SameButBuffers

theorem UserCode.KeepsStep.noting {code code' : UserCode (Watched σ) α}
    (keeps : code.KeepsStep (Scope.whole True) Ties.reissued code') :
    code.noting.KeepsStep (Scope.whole True) Ties.reissued code'.noting := by
  refine .look ?_
  rintro _ rfl world twin same
  refine .rearrange ?_ keeps
  rintro _ rfl later later' same'
  exact same'.noting same.unwatched

theorem UserCode.Reissues.watched {code code' : UserCode σ α} (reissues : code.Reissues code') :
    code.watched.KeepsStep (Scope.whole True) Ties.reissued code'.watched := by
  induction reissues with
  | finish result => exact KeepsStep.noting (.finish result)
  | unwind panic => exact KeepsStep.noting (.unwind panic)
  | look _ inductionHypothesis =>
      refine KeepsStep.noting (.look ?_)
      rintro _ rfl world twin same
      exact inductionHypothesis _ _ same.unwatched
  | rearrange change _ inductionHypothesis =>
      refine KeepsStep.noting (.rearrange ?_ inductionHypothesis)
      rintro _ rfl world twin same
      exact same.amid (congrArg change same.surroundings) same.host.seen
  | call reissues _ inductionHypothesis =>
      exact KeepsStep.noting (.call reissues.permits inductionHypothesis)

theorem Behaviour.Reissues.watched {behaviour other : Behaviour σ}
    (reissues : behaviour.Reissues other) :
    behaviour.watched.KeepsStep (Scope.whole True) Ties.reissued other.watched where
  callback _ _ _ event := (reissues.callback _ _ event).watched
  engine _ call := (reissues.engine _ call).watched
  createHandle _ address framing := (reissues.createHandle address framing).watched
  createTarget _ factory handle address options :=
    (reissues.createTarget factory handle address options).watched

end Watching

/-! ## Runs -/

/-- The worlds between the calls at the top of a watched run and of the same run
reissued. -/
inductive Reissued [Custodian σ] : World (Watched σ) Mark → World (Watched σ) Mark → Prop where
  | fresh (config : Config) (surroundings : Surroundings σ) :
      Reissued (.fresh config (surroundings.watched [])) (.fresh config (surroundings.watched []))
  | rearranged {world twin : World (Watched σ) Mark} (reissued : Reissued world twin)
      (surroundings : Surroundings σ) :
      Reissued (world.amid (surroundings.watched world.host.seen))
        (twin.amid (surroundings.watched twin.host.seen))
  | called {world twin : World (Watched σ) Mark} (reissued : Reissued world twin)
      {behaviour other : Behaviour σ} (behaves : behaviour.Reissues other) (depth : Nat)
      {call call' : BridgeCall} (calls : call.Reissues call') :
      Reissued (call.make behaviour.watched depth world.noted).2.noted
        (call'.make other.watched depth twin.noted).2.noted

theorem Reissued.inTurn [Custodian σ] {world twin : World (Watched σ) Mark}
    (reissued : Reissued world twin) {behaviour other : Behaviour σ}
    (behaves : behaviour.Reissues other) (depth : Nat) {calls calls' : List BridgeCall}
    (each : List.Forall₂ BridgeCall.Reissues calls calls') :
    Reissued (behaviour.watchedInTurn depth calls world)
      (other.watchedInTurn depth calls' twin) := by
  induction each generalizing world twin with
  | nil => exact reissued
  | cons calls _ inductionHypothesis => exact inductionHypothesis (.called reissued behaves depth calls)

/-- What can be told of a lifecycle. -/
structure Lifecycle.Standing where
  state : SocketState
  retainCount : Nat
  pendingWrite : Nat
  unackedReceive : Nat
deriving DecidableEq

def Lifecycle.standing (life : Lifecycle) : Lifecycle.Standing :=
  ⟨life.state, life.retainCount, life.pendingWrite, life.unackedReceive⟩

/-- Nothing but the hooks that have run, and how many a disposal has freed, tells
the worlds apart: calls have had the same replies, callbacks have been told the
same, the engine has been called for the same, the metrics are the same, and all
lifecycles stand the same. -/
structure World.Indistinct (world twin : World σ Mark) : Prop extends world.SameButBuffers Eq twin where
  standing (entry : EntryId) : (world.life entry).standing = (twin.life entry).standing

theorem World.SameButBuffers.indistinct {world twin : World σ Mark}
    (same : world.SameButBuffers Eq twin) : world.Indistinct twin where
  toSameButBuffers := same
  standing entry := by
    have standing := congrArg Lifecycle.standing (same.life entry)
    exact standing

/-- A watched run and the same run reissued are the same but for the buffers, in
all that has been seen of them. -/
theorem Reissued.sameButBuffers [Custodian σ] {world twin : World (Watched σ) Mark}
    (reissued : Reissued world twin) : world.SameButBuffers Watched.SameButBuffers twin := by
  induction reissued with
  | fresh config surroundings => exact ⟨rfl, rfl, rfl, rfl, rfl, rfl, rfl, rfl, rfl, rfl, rfl, .nil⟩
  | rearranged _ surroundings inductionHypothesis =>
      exact inductionHypothesis.amid rfl inductionHypothesis.host.seen
  | called _ behaves depth calls inductionHypothesis =>
      have inStep := (World.SameButBuffers.accord Watched.keeping).make behaves.watched depth
        calls.permits
      exact (inStep _ rfl _ _ inductionHypothesis.noted).linked.noted

/-- Borrowing agrees with copying: whatever buffers are handed over, a run is the
same at every point, but for the hooks that run and the count of what they have
freed. -/
theorem Reissued.runs_agree [Custodian σ] {world twin : World (Watched σ) Mark}
    (reissued : Reissued world twin) :
    world.unwatched.Indistinct twin.unwatched ∧
      List.Forall₂ World.Indistinct world.host.seen twin.host.seen := by
  have same := reissued.sameButBuffers
  exact ⟨same.unwatched.indistinct, same.host.seen.imp fun _ _ same => same.indistinct⟩

/-! ### Buffers that are lent, and buffers that are given away -/

namespace Bystander

/-- A target that has bytes come in while it is opened, and that leaves the last
byte unacknowledged whenever some have come in. -/
def lingering (handing : Bytes → NativeBuffer Hook) : Behaviour Bystander :=
  answering fun
    | .openRequest _ _ => .call (.native handle (.received (handing [1, 2]))) fun _ => .finish ()
    | .received _ => .look fun world =>
        .call (.socket ⟨0⟩ (.completedReceive ((world.life ⟨0⟩).unackedReceive - 1)))
          fun _ => .finish ()
    | _ => .finish ()

/-- A connection, with what comes in handed over in such buffers. -/
def handingOver (handing : Bytes → NativeBuffer Hook) : List BridgeCall :=
  [.adoptInbound handle ⟨0⟩,
    .native handle (.openRequest ⟨"stream", "near", 1, ""⟩ (handing [0])),
    .native handle (.received (handing [3, 4])), .native handle (.closed 1 0 [])]

def onLoan (bytes : Bytes) : NativeBuffer Hook :=
  (NativeBuffer.borrowed bytes).withRelease "lent"

def lingeringRun (handing : Bytes → NativeBuffer Hook) : World (Watched Bystander) Mark :=
  (lingering handing).watchedInTurn 3 (handingOver handing)
    (.fresh {} (start.surroundings.watched []))

section Handing

variable {handing handing' : Bytes → NativeBuffer Hook}
  (held : ∀ bytes, (handing bytes).data = some bytes)
  (held' : ∀ bytes, (handing' bytes).data = some bytes)
include held held'

theorem lingering_reissues : (lingering handing).Reissues (lingering handing') where
  callback _ _ event := by
    cases event with
    | openRequest => exact .call (.received handle (held _) (held' _)) fun _ => .finish ()
    | received =>
        refine .look fun world twin same => ?_
        have unacked : (world.life ⟨0⟩).unackedReceive = (twin.life ⟨0⟩).unackedReceive :=
          congrArg Lifecycle.Standing.unackedReceive (same.indistinct.standing ⟨0⟩)
        rw [unacked]
        exact .call (.same _) fun _ => .finish ()
    | _ => exact .finish ()
  createHandle _ _ := .unwind .other
  engine _ _ := .finish ()
  createTarget _ _ _ _ := .unwind .other

theorem lingeringRun_reissued : Reissued (lingeringRun handing) (lingeringRun handing') := by
  refine Reissued.inTurn (.fresh _ _) (lingering_reissues held held') 3 ?_
  refine .cons (.same _) (.cons ?_ (.cons ?_ (.cons (.same _) .nil)))
  · exact .openRequest handle _ (held _) (held' _)
  · exact .received handle (held _) (held' _)

end Handing

end Bystander

/-- Lent buffers have three hooks run, the last of them when the connection is
disposed of, and given ones none. -/
theorem Reissued.runs_agree_of_lingering :
    let lent := Bystander.lingeringRun Bystander.onLoan
    let given := Bystander.lingeringRun NativeBuffer.transferable
    lent.unwatched.hooksRun = ["lent", "lent", "lent"] ∧ given.unwatched.hooksRun = [] ∧
    Reissued lent given ∧
    lent.unwatched.Indistinct given.unwatched ∧
    List.Forall₂ World.Indistinct lent.host.seen given.host.seen := by
  have reissued : Reissued (Bystander.lingeringRun Bystander.onLoan)
      (Bystander.lingeringRun NativeBuffer.transferable) :=
    Bystander.lingeringRun_reissued (fun _ => rfl) fun _ => rfl
  exact ⟨by decide +kernel, by decide +kernel, reissued, reissued.runs_agree⟩

end TransportBridge
