import TransportBridge.Conformance.Harness
import TransportBridge.Proofs.Tapes

/-!
Contract: both byte streams of a connection, where attempts that fail are made
again.

On a stage of recordings and nothing else, a run is a list of beats: somebody
makes a call at the top, or something about the runtime, the engine or the
factory is arranged. The native side sends payloads to a target, the managed side
writes chunks to a handle, and both make an attempt again until it succeeds,
before they go on to the next. Then the tapes hold exactly what was sent and
written, in order.

Owns: beats, attempts, what it means that attempts are made again, and the laws
of one beat and of a run.

Does not own: when an attempt fails. The lifecycle and the runtime decide that.
-/

namespace TransportBridge

/-- A write is turned away, as too many bytes are unconfirmed. -/
def BridgeError.isBackpressure : BridgeError → Bool
  | writeBackpressure _ _ _ => true
  | _ => false

namespace Session

open Conformance

/-! ## Runs -/

/-- What is done at the top, on a stage of recordings. -/
inductive Beat where
  /-- A target comes on stage under a name. -/
  | cast (name : String) (cooperative : Bool)
  | openOutbound (address : Address) (framing : Option Framing) (target : TargetId)
  | adoptInbound (handle : Handle) (target : TargetId)
  | native (handle : Handle) (event : NativeEvent)
  | socket (peer : Peer) (call : SocketCall)
  | installFactory
  | engine (order : EngineOp)
  | runtime (order : RuntimeControl)
  | onThread (thread : ThreadId)
deriving DecidableEq, Repr

/-- The world after a beat, however it ends. -/
def Beat.after (world : World Stage Act) : Beat → World Stage Act
  | cast name cooperative => (castTarget (.mk name cooperative []) world).2
  | openOutbound address framing target =>
    ((Registration.openOutbound (host runner) address framing target).run world).2
  | adoptInbound handle target => ((Registration.adoptInbound handle target).run world).2
  | native handle event => (deliver handle event world).2
  | socket peer call => (Conformance.call peer call world).2
  | installFactory => (installRecordingFactory world).2
  | engine order => (controlEngine none order world).2
  | runtime order => { world with runtime := world.runtime.control world.thread order }
  | onThread thread => { world with thread }

/-- The world after all beats. -/
def playBeats : List Beat → World Stage Act → World Stage Act
  | [], world => world
  | beat :: rest, world => playBeats rest (beat.after world)

/-! ## Attempts -/

/-- One attempt to pass bytes on, and how it ended. -/
structure Attempt (α : Type) where
  payload : Bytes
  outcome : Except Panic (Except BridgeError α)

namespace Attempt

variable {α : Type}

def Settled (attempt : Attempt α) : Prop :=
  ∀ panic, attempt.outcome ≠ .error panic

/-- The bytes that are passed on by an attempt, if it succeeds. -/
def passed (attempt : Attempt α) : Bytes :=
  match attempt.outcome with
  | .ok (.ok _) => attempt.payload
  | _ => []

end Attempt

/-- The attempts pass the payloads on one after the other. Each is attempted until
it succeeds, and fails before that for reasons that may be tried again. -/
inductive Retried {α : Type} (retryable : BridgeError → Bool) :
    List (Attempt α) → List Bytes → Prop where
  | done : Retried retryable [] []
  | again {payload : Bytes} {error : BridgeError} {attempts : List (Attempt α)}
      {payloads : List Bytes} (mayRetry : retryable error = true)
      (retried : Retried retryable attempts (payload :: payloads)) :
      Retried retryable (⟨payload, .ok (.error error)⟩ :: attempts) (payload :: payloads)
  | through {payload : Bytes} {attempts : List (Attempt α)} {payloads : List Bytes} (result : α)
      (retried : Retried retryable attempts payloads) :
      Retried retryable (⟨payload, .ok (.ok result)⟩ :: attempts) (payload :: payloads)

namespace Retried

variable {α : Type} {retryable : BridgeError → Bool} {attempts : List (Attempt α)}
  {payloads : List Bytes}

/-- Goes through the attempts, payload by payload. -/
def check (retryable : BridgeError → Bool) : List (Attempt α) → List Bytes → Bool
  | [], payloads => payloads.isEmpty
  | ⟨payload, .ok (.error error)⟩ :: attempts, expected :: payloads =>
    payload == expected && retryable error && check retryable attempts (expected :: payloads)
  | ⟨payload, .ok (.ok _)⟩ :: attempts, expected :: payloads =>
    payload == expected && check retryable attempts payloads
  | _, _ => false

theorem check_of_retried (retried : Retried retryable attempts payloads) :
    check retryable attempts payloads = true := by
  induction retried with
  | done => rfl
  | again mayRetry _ inductionHypothesis => simp [check, mayRetry, inductionHypothesis]
  | through _ _ inductionHypothesis => simp [check, inductionHypothesis]

theorem of_check (checks : check retryable attempts payloads = true) :
    Retried retryable attempts payloads := by
  induction attempts generalizing payloads with
  | nil =>
      cases List.isEmpty_iff.mp checks
      exact .done
  | cons attempt rest inductionHypothesis =>
      obtain ⟨payload, outcome⟩ := attempt
      cases payloads with
      | nil => rcases outcome with panic | error | result <;> cases checks
      | cons expected payloads =>
          rcases outcome with panic | error | result
          · cases checks
          · simp only [check, Bool.and_eq_true, beq_iff_eq] at checks
            obtain ⟨⟨rfl, mayRetry⟩, checks⟩ := checks
            exact .again mayRetry (inductionHypothesis checks)
          · simp only [check, Bool.and_eq_true, beq_iff_eq] at checks
            obtain ⟨rfl, checks⟩ := checks
            exact .through result (inductionHypothesis checks)

instance : Decidable (Retried retryable attempts payloads) :=
  decidable_of_iff _ ⟨of_check, check_of_retried⟩

theorem settled (retried : Retried retryable attempts payloads) :
    ∀ attempt ∈ attempts, attempt.Settled := by
  induction retried with
  | done => exact fun _ => nofun
  | again _ _ inductionHypothesis =>
      exact List.forall_mem_cons.mpr ⟨fun _ => nofun, inductionHypothesis⟩
  | through _ _ inductionHypothesis =>
      exact List.forall_mem_cons.mpr ⟨fun _ => nofun, inductionHypothesis⟩

theorem passed (retried : Retried retryable attempts payloads) :
    attempts.flatMap Attempt.passed = payloads.flatten := by
  induction retried with
  | done => rfl
  | again _ _ inductionHypothesis => exact inductionHypothesis
  | through _ _ inductionHypothesis =>
      rw [List.flatMap_cons, inductionHypothesis]
      rfl

end Retried

/-- The target that the registration of a handle has pinned. -/
def pinned? (world : World Stage Act) (handle : Handle) : Option TargetId :=
  (world.peer? handle).bind fun peer => (world.life peer.entry).pin

/-- The beat attempts to pass received bytes to the target. -/
def Beat.sending? (target : TargetId) (world : World Stage Act) : Beat → Option (Attempt Unit)
  | .native handle (.received data) =>
    if pinned? world handle = some target then
      some ⟨data.data.getD [], (deliver handle (.received data) world).1⟩
    else none
  | _ => none

/-- The beat attempts to write bytes to the handle. -/
def Beat.writing? (handle : Handle) (world : World Stage Act) :
    Beat → Option (Attempt (Option Nat))
  | .socket peer (.write data) =>
    if peer.handle = handle then some ⟨data, (Conformance.call peer (.write data) world).1⟩
    else none
  | _ => none

/-- The attempts of one kind in a run, in order. -/
def attempts {α : Type} (attempt? : World Stage Act → Beat → Option (Attempt α)) :
    List Beat → World Stage Act → List (Attempt α)
  | [], _ => []
  | beat :: rest, world =>
    (attempt? world beat).toList ++ attempts attempt? rest (beat.after world)

/-- The attempts to pass received bytes to a target. -/
abbrev sendings (target : TargetId) : List Beat → World Stage Act → List (Attempt Unit) :=
  attempts (Beat.sending? target)

/-- The attempts to write to a handle. -/
abbrev writings (handle : Handle) :
    List Beat → World Stage Act → List (Attempt (Option Nat)) :=
  attempts (Beat.writing? handle)

/-! ## Beats that add nothing -/

open Stage

section Beats

variable {ears : TargetId → Prop} {wires : Handle → Prop} {world : World Stage Act}

theorem castTarget_keeps (name : String) (cooperative : Bool) :
    (silence ears wires).Keeps (castTarget (.mk name cooperative [])) := by
  refine .bind (changeStage_keeps fun stage plain => ?_) fun cast =>
    .bind (.optionForM HostFrame.letGoOfTarget_keeps _) fun _ => .pure _
  have added : Silent ears wires stage (stage.addRole ⟨some name, { cooperative }, []⟩).2 :=
    .of_addRole plain rfl rfl
  exact added.trans (.of_cast added.unscripted rfl rfl rfl fun _ _ => rfl)

theorem dismiss_keeps (factory : FactoryId) :
    (silence ears wires).Keeps (dismiss factory) := by
  refine .look fun world => ?_
  split
  · exact .pure ()
  · refine .bind (changeStage_keeps fun stage plain => ?_) fun created =>
      .forM HostFrame.letGoOfTarget_keeps _
    unfold Stage.takeCreated
    split
    · exact .of_factory plain _ _ _
    · exact .refl plain

theorem installRecordingFactory_keeps :
    (silence ears wires).Keeps installRecordingFactory := by
  have installs : (silence ears wires).Keeps (install (.recording [] none)) := by
    refine .bind (changeStage_keeps fun stage plain => ?_) fun id => .look fun world =>
      .bind (.modify fun _ => rfl) fun _ => .bind (.optionForM dismiss_keeps _) fun _ => .pure id
    refine .of_factories plain fun factory answers found => ?_
    rw [Array.getElem?_push] at found
    split at found
    · cases found
    · exact plain.factories factory answers found
  exact .bind installs fun id => .bind (changeStage_keeps fun stage plain =>
    .of_cast plain rfl rfl rfl fun _ _ => rfl) fun before => .optionForM dismiss_keeps _

theorem withHandle_keeps (ref : HandleRef) {body : Handle → SessionM Answer}
    (kept : ∀ handle, (silence ears wires).Keeps (body handle)) :
    (silence ears wires).Keeps (withHandle none ref body) := by
  have found : (silence ears wires).Keeps (ref.find none) := by
    cases ref <;> exact .aside fun _ => rfl
  refine .bind found fun handle => ?_
  cases handle with
  | none => exact .pure _
  | some handle => exact kept handle

/-- Orders and questions are no writes. -/
theorem controlEngine_keeps (order : EngineOp) :
    (silence ears wires).Keeps (controlEngine none order) := by
  have asked {question : Stage → Answer} :
      (silence ears wires).Keeps (do return question (← getStage)) :=
    .look fun _ => .pure _
  cases order with
  | echo enabled =>
      exact .bind (changeStage_keeps fun _ plain =>
        .of_cast plain rfl rfl rfl fun _ _ => rfl) fun _ => .pure _
  | refuseCreate error =>
      exact .bind (changeStage_keeps fun _ plain =>
        .of_cast plain rfl rfl rfl fun _ _ => rfl) fun _ => .pure _
  | reuse ref =>
      exact withHandle_keeps ref fun _ => .bind (changeStage_keeps fun _ plain =>
        .of_cast plain rfl rfl rfl fun _ _ => rfl) fun _ => .pure _
  | allocate => exact changeStage_keeps fun _ plain => .of_cast plain rfl rfl rfl fun _ _ => rfl
  | calls ref =>
      cases ref with
      | none => exact asked
      | some ref => exact withHandle_keeps ref fun _ => asked
  | written ref => exact withHandle_keeps ref fun _ => asked
  | closedCount ref => exact withHandle_keeps ref fun _ => asked

theorem Beat.sending?_of_pinned {handle : Handle} {data : NativeBuffer Hook} {peer : Peer}
    {target : TargetId} (known : world.peer? handle = some peer)
    (pinned : (world.life peer.entry).pin = some target) :
    (Beat.native handle (.received data)).sending? target world =
      some ⟨data.data.getD [], (deliver handle (.received data) world).1⟩ := by
  refine if_pos ?_
  unfold pinned?
  rw [known]
  exact pinned

/-- A beat that passes nothing to certain targets and writes nothing to certain
handles adds nothing to their tapes. -/
theorem Beat.after_silent (beat : Beat) (plain : world.host.Unscripted)
    (unsent : ∀ target, ears target → beat.sending? target world = none)
    (unwritten : ∀ handle, wires handle → beat.writing? handle world = none) :
    Silent ears wires world.host (beat.after world).host := by
  have heeded : (silence ears wires).Heeded ears wires (host runner) := host_heeded (exec_replies 8)
  cases beat with
  | cast name cooperative => exact castTarget_keeps name cooperative world plain
  | openOutbound address framing target => exact heeded.openOutbound _ _ _ world plain
  | adoptInbound handle target =>
      have kept : (silence ears wires).KeepsAt world
          (Registration.adoptInbound handle target).run := HostFrame.register_spares _ _ world
      exact kept plain
  | native handle event =>
      by_cases received : ∃ data, event = .received data
      · obtain ⟨data, rfl⟩ := received
        have kept : (silence ears wires).KeepsAt world
            (Delivery.onReceived (host runner) handle data).run := by
          refine HostFrame.onReceived_keepsAt fun peer target known pinned => ?_
          refine heeded.callback _ _ _ fun listens => ?_
          cases (unsent target listens).symm.trans (Beat.sending?_of_pinned known pinned)
        exact kept plain
      · exact heeded.dispatch _ (fun data same => received ⟨data, same⟩) world plain
  | socket peer call =>
      refine heeded.invoke peer (fun wired data same => ?_) world plain
      subst same
      cases (unwritten peer.handle wired).symm.trans (if_pos rfl)
  | installFactory => exact installRecordingFactory_keeps world plain
  | engine order => exact controlEngine_keeps order world plain
  | runtime order => exact .refl plain
  | onThread thread => exact .refl plain

end Beats

/-! ## Beats that make an attempt -/

section Attempts

variable {α : Type} {world : World Stage Act} {target : TargetId} {handle : Handle} {beat : Beat}

/-- What an attempt leaves on a tape that its move adds to. -/
theorem tape_of_made {frame : HostFrame Stage} {move : Stage → Stage → Prop}
    (within : Stage → Prop) (tape : Stage → Bytes) (attempt : Attempt α) {stage next : Stage}
    (kept : ∀ {one two}, frame.Rel one two → within one → within two ∧ tape two = tape one)
    (moved : ∀ {one two}, move one two → within one →
      within two ∧ tape two = tape one ++ attempt.payload)
    (made : frame.Made move attempt.outcome stage next) (settled : attempt.Settled)
    (begun : within stage) : within next ∧ tape next = tape stage ++ attempt.passed := by
  obtain ⟨payload, outcome⟩ := attempt
  rcases outcome with panic | error | result
  · exact absurd rfl (settled panic)
  · obtain ⟨still, same⟩ := kept made begun
    exact ⟨still, same.trans (List.append_nil _).symm⟩
  · obtain ⟨ready, done, came, moves, left⟩ := made
    obtain ⟨readied, before⟩ := kept came begun
    obtain ⟨finished, added⟩ := moved moves readied
    obtain ⟨ended, after⟩ := kept left finished
    exact ⟨ended, by rw [after, added, before]; rfl⟩

theorem Beat.sending?_eq_some {attempt : Attempt Unit}
    (sends : beat.sending? target world = some attempt) :
    ∃ handle data, beat = .native handle (.received data) ∧
      pinned? world handle = some target ∧
      attempt = ⟨data.data.getD [], (deliver handle (.received data) world).1⟩ := by
  unfold Beat.sending? at sends
  split at sends
  · next handle data =>
      obtain ⟨pins, same⟩ := Option.ite_none_right_eq_some.mp sends
      exact ⟨handle, data, rfl, pins, (Option.some.inj same).symm⟩
  · cases sends

theorem Beat.writing?_eq_some {attempt : Attempt (Option Nat)}
    (writes : beat.writing? handle world = some attempt) :
    ∃ peer data, beat = .socket peer (.write data) ∧ peer.handle = handle ∧
      attempt = ⟨data, (Conformance.call peer (.write data) world).1⟩ := by
  unfold Beat.writing? at writes
  split at writes
  · next peer data =>
      obtain ⟨same, made⟩ := Option.ite_none_right_eq_some.mp writes
      exact ⟨peer, data, rfl, same, (Option.some.inj made).symm⟩
  · cases writes

/-- The target is on a stage where nobody has turns to play. -/
def Listens (target : TargetId) (stage : Stage) : Prop :=
  stage.Unscripted ∧ (stage.role? target).isSome

/-- One beat adds to a target's tape what it passes to the target. -/
theorem Beat.after_heard (listens : Listens target world.host)
    (settled : ∀ attempt ∈ beat.sending? target world, attempt.Settled) :
    Listens target (beat.after world).host ∧ (beat.after world).host.heard target =
      world.host.heard target ++ (beat.sending? target world).toList.flatMap Attempt.passed := by
  obtain ⟨plain, onStage⟩ := listens
  cases sends : beat.sending? target world with
  | none =>
      have silent : Silent (· = target) (fun _ => False) world.host (beat.after world).host :=
        beat.after_silent plain (fun _ same => same ▸ sends) fun _ => nofun
      refine ⟨⟨silent.unscripted, silent.stays target onStage⟩, ?_⟩
      exact (silent.heard target rfl).trans (List.append_nil _).symm
  | some attempt =>
      rw [Option.toList_some, List.flatMap_singleton]
      have ended := settled attempt (Option.mem_def.mpr sends)
      obtain ⟨handle, data, rfl, pins, rfl⟩ := Beat.sending?_eq_some sends
      have made : (silence (· = target) fun _ => False).Made (Hears target (data.data.getD []))
          (deliver handle (.received data) world).1 world.host
          (deliver handle (.received data) world).2.host := by
        refine HostFrame.onReceived_makes fun peer other known pinned => ?_
        have same : pinned? world handle = some other := by
          unfold pinned?
          rw [known]
          exact pinned
        cases pins.symm.trans same
        exact callTarget_performs (exec_replies 8) peer target _
      refine tape_of_made (Listens target) (·.heard target) ⟨_, _⟩ (fun kept within => ?_)
        (fun moved within => ?_) made ended ⟨plain, onStage⟩
      · have silent := kept within.1
        exact ⟨⟨silent.unscripted, silent.stays target within.2⟩, silent.heard target rfl⟩
      · obtain ⟨still, stays, heard⟩ := moved within.1 within.2
        exact ⟨⟨still, stays⟩, heard⟩

/-- One beat adds to a handle's tape what it writes to the handle. -/
theorem Beat.after_written (plain : world.host.Unscripted)
    (settled : ∀ attempt ∈ beat.writing? handle world, attempt.Settled) :
    (beat.after world).host.Unscripted ∧ (beat.after world).host.engine.written handle =
      world.host.engine.written handle ++
        (beat.writing? handle world).toList.flatMap Attempt.passed := by
  cases writes : beat.writing? handle world with
  | none =>
      have silent : Silent (fun _ => False) (· = handle) world.host (beat.after world).host :=
        beat.after_silent plain (fun _ => nofun) fun _ same => same ▸ writes
      exact ⟨silent.unscripted,
        (silent.written handle rfl).trans (List.append_nil _).symm⟩
  | some attempt =>
      rw [Option.toList_some, List.flatMap_singleton]
      have ended := settled attempt (Option.mem_def.mpr writes)
      obtain ⟨peer, data, rfl, rfl, rfl⟩ := Beat.writing?_eq_some writes
      have made : (silence (fun _ => False) (· = peer.handle)).Made (Writes peer.handle data)
          (Conformance.call peer (.write data) world).1 world.host
          (Conformance.call peer (.write data) world).2.host :=
        HostFrame.write_makes (callEngine_performs (exec_replies 8) peer.handle data)
      refine tape_of_made Unscripted (·.engine.written peer.handle) ⟨_, _⟩
        (fun kept within => ?_) (fun moved within => ?_) made ended plain
      · have silent := kept within
        exact ⟨silent.unscripted, silent.written peer.handle rfl⟩
      · exact moved within

/-! ## Runs of attempts -/

/-- If each beat adds what its attempt passes on, so does a run with all of its
attempts. -/
theorem tape_of_attempts (within : Stage → Prop) (tape : Stage → Bytes)
    {attempt? : World Stage Act → Beat → Option (Attempt α)}
    (adds : ∀ world beat, within world.host →
      (∀ attempt ∈ attempt? world beat, attempt.Settled) →
      within (beat.after world).host ∧ tape (beat.after world).host =
        tape world.host ++ (attempt? world beat).toList.flatMap Attempt.passed)
    (beats : List Beat) (begun : within world.host)
    (settled : ∀ attempt ∈ attempts attempt? beats world, attempt.Settled) :
    tape (playBeats beats world).host =
      tape world.host ++ (attempts attempt? beats world).flatMap Attempt.passed := by
  induction beats generalizing world with
  | nil => exact (List.append_nil _).symm
  | cons beat rest inductionHypothesis =>
      obtain ⟨first, later⟩ := List.forall_mem_append.mp settled
      obtain ⟨still, added⟩ := adds world beat begun fun attempt made =>
        first attempt (Option.mem_toList.mpr made)
      show tape (playBeats rest (beat.after world)).host = tape world.host ++
        ((attempt? world beat).toList ++ attempts attempt? rest (beat.after world)).flatMap _
      rw [inductionHypothesis still later, added, List.flatMap_append, List.append_assoc]

/-- Where the native side repeats what could not be delivered for want of a
context, and the managed side what was too much to write, until each goes
through: the target has received the payloads, and the engine the chunks, one after
the other and nothing else. -/
theorem streams_exact (plain : world.host.Unscripted)
    (onStage : (world.host.role? target).isSome) (beats : List Beat)
    {payloads chunks : List Bytes}
    (sent : Retried (·.kind = .runtimeAttachment) (sendings target beats world) payloads)
    (written : Retried BridgeError.isBackpressure (writings handle beats world) chunks) :
    (playBeats beats world).host.heard target =
      world.host.heard target ++ payloads.flatten ∧
    (playBeats beats world).host.engine.written handle =
      world.host.engine.written handle ++ chunks.flatten := by
  constructor
  · rw [← sent.passed]
    exact tape_of_attempts (Listens target) (·.heard target) (fun _ _ => Beat.after_heard) beats
      ⟨plain, onStage⟩ sent.settled
  · rw [← written.passed]
    exact tape_of_attempts Unscripted (·.engine.written handle) (fun _ _ => Beat.after_written)
      beats plain written.settled

end Attempts

/-! ## A run in which attempts fail -/

/-- A stage that nobody has come on yet. -/
theorem unscripted_empty : Stage.Unscripted {} where
  engineTurns := rfl
  turns cast := by simp [Stage.role?] at cast
  factories _ _ := by simp

/-- Three bytes may be unconfirmed. -/
def emptyHouse : World Stage Act where
  config := { maxPendingWriteBytes := 3 }
  runtime := .simulated {}
  host := {}

/-- A cooperative target has come on stage. -/
def rehearsal : World Stage Act :=
  Beat.after emptyHouse (.cast "target" true)

/-- The first payload is sent twice, as no thread can be attached for it at first,
and so is the second chunk written twice, as too much is unconfirmed. -/
def troubledBeats : List Beat :=
  let handle := RecordingEngine.firstHandle
  let peer : Peer := ⟨⟨0⟩, handle⟩
  [.openOutbound syncAddress none ⟨0⟩,
    .native handle (.openRequest syncAddress (.transferable [])),
    .runtime (.failNextAttach (-1)),
    .native handle (.received (.borrowed [1, 2])),
    .socket peer (.write [5, 6]),
    .native handle (.received (.transferable [1, 2])),
    .socket peer (.write [7, 8]),
    .native handle (.received (.borrowed [])),
    .native handle (.writeCompleted 2),
    .socket peer (.write [7, 8]),
    .native handle (.received (.borrowed [3])),
    .native handle (.closed 1 1000 [])]

theorem streams_exact_of_troubled :
    (sendings ⟨0⟩ troubledBeats rehearsal).length = 4 ∧
    (writings RecordingEngine.firstHandle troubledBeats rehearsal).length = 3 ∧
    (playBeats troubledBeats rehearsal).host.heard ⟨0⟩ = [1, 2, 3] ∧
    (playBeats troubledBeats rehearsal).host.engine.written RecordingEngine.firstHandle =
      [5, 6, 7, 8] := by
  have silent : Silent (fun _ => False) (fun _ => False) emptyHouse.host rehearsal.host :=
    Beat.after_silent _ unscripted_empty (by nofun) (by nofun)
  have onStage : (rehearsal.host.role? ⟨0⟩).isSome := by decide +kernel
  have sent : Retried (·.kind = .runtimeAttachment) (sendings ⟨0⟩ troubledBeats rehearsal)
      [[1, 2], [], [3]] := by
    decide +kernel
  have written : Retried BridgeError.isBackpressure
      (writings RecordingEngine.firstHandle troubledBeats rehearsal) [[5, 6], [7, 8]] := by
    decide +kernel
  obtain ⟨hears, writes⟩ := streams_exact silent.unscripted onStage troubledBeats sent written
  exact ⟨by decide +kernel, by decide +kernel, hears, writes⟩

end Session

end TransportBridge
