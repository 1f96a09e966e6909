import TransportBridge.Proofs.HostMoves
import TransportBridge.Session.Exec

/-!
Contract: what is on the tapes of a stage, and who adds to it.

The bytes that a target has received and the bytes that have been written to a
handle are read off recordings. On a stage where nobody has turns to play, a
target adds to its tape when it is told of received bytes, and the engine adds to
a handle's tape when it is told of a write. All else that the host of a session
does leaves the tapes alone: the replies of cooperative targets, and the echo of
the engine.

Owns: stages without turns, tapes, and the frame of what is not added to them.
-/

namespace TransportBridge

/-! ## Recordings -/

theorem Recording.received_record (recording : Recording) (peer : Peer) (bytes : Bytes) :
    (recording.record peer (.received bytes)).received = recording.received ++ bytes := by
  simp [received, record]

theorem Recording.received_record_of_ne (recording : Recording) (peer : Peer)
    {event : SocketEvent} (other : event.kind ≠ .received) :
    (recording.record peer event).received = recording.received := by
  cases event with
  | received data => exact absurd rfl other
  | _ => simp [received, record]

namespace RecordingEngine

theorem written_record (engine : RecordingEngine) (handle : Handle) (data : Bytes) :
    (engine.record handle (.write data)).written handle = engine.written handle ++ data := by
  simp [written, record]

theorem written_record_of_ne (engine : RecordingEngine) {handle other : Handle}
    {call : EngineCall} (apart : other = handle → ∀ data, call ≠ .write data) :
    (engine.record other call).written handle = engine.written handle := by
  cases call with
  | write data =>
      have different : other ≠ handle := fun same => apart same data rfl
      simp [written, record, different]
  | _ => simp [written, record]

/-- An answered request is no write. -/
theorem written_create (engine : RecordingEngine) (address : Address) (framing : Framing)
    (handle : Handle) : (engine.create address framing).2.written handle =
      engine.written handle := by
  cases refusal : engine.refusal with
  | some error => simp [create, refusal, written]
  | none => cases reuse : engine.reuse <;> simp [create, refusal, reuse, allocate, written]

end RecordingEngine

namespace Session

/-! ## Tapes -/

namespace Stage

/-- Nobody has turns to play: what acts here are recordings and nothing else. -/
structure Unscripted (stage : Stage) : Prop where
  engineTurns : stage.engineTurns = []
  turns {target : TargetId} {role : Role} (cast : stage.role? target = some role) :
      role.turns = []
  factories (factory : FactoryId) (answers : List FactoryAnswer) :
      stage.factories[factory.index]? ≠ some (.scripted answers)

/-- The bytes that a target has received so far. -/
def heard (stage : Stage) (target : TargetId) : Bytes :=
  (((stage.role? target).map Role.recording).getD {}).received

/-- One role is played otherwise. -/
def recast (stage : Stage) (target : TargetId) (change : Role → Role) : Stage :=
  { stage with cast := stage.cast.modify target.index change }

theorem role?_recast (stage : Stage) (target other : TargetId) (change : Role → Role) :
    (stage.recast target change).role? other =
      if other = target then (stage.role? target).map change else stage.role? other := by
  unfold role? recast
  by_cases same : other = target
  · subst same
    simp [Array.getElem?_modify]
  · have different : target.index ≠ other.index := by
      intro equal
      exact same (by cases target; cases other; simp_all)
    simp [Array.getElem?_modify, same, different]

/-- Between the two, nothing has been added to certain tapes. -/
structure Silent (ears : TargetId → Prop) (wires : Handle → Prop) (stage next : Stage) : Prop where
  unscripted : next.Unscripted
  stays (target : TargetId) : (stage.role? target).isSome → (next.role? target).isSome
  heard (target : TargetId) : ears target → next.heard target = stage.heard target
  written (handle : Handle) : wires handle →
      next.engine.written handle = stage.engine.written handle

variable {ears : TargetId → Prop} {wires : Handle → Prop} {stage middle next : Stage}

namespace Silent

theorem refl (plain : stage.Unscripted) : Silent ears wires stage stage :=
  ⟨plain, fun _ => id, fun _ _ => rfl, fun _ _ => rfl⟩

theorem trans (one : Silent ears wires stage middle) (two : Silent ears wires middle next) :
    Silent ears wires stage next where
  unscripted := two.unscripted
  stays target onStage := two.stays target (one.stays target onStage)
  heard target listens := (two.heard target listens).trans (one.heard target listens)
  written handle wired := (two.written handle wired).trans (one.written handle wired)

/-- The cast stays, and with it what there is to play. -/
theorem of_cast (plain : stage.Unscripted) (cast : next.cast = stage.cast)
    (engineTurns : next.engineTurns = stage.engineTurns)
    (factories : next.factories = stage.factories)
    (written : ∀ handle, wires handle →
      next.engine.written handle = stage.engine.written handle) :
    Silent ears wires stage next := by
  have roles : next.role? = stage.role? := by
    funext target
    unfold role?
    rw [cast]
  refine ⟨⟨?_, ?_, ?_⟩, ?_, ?_, written⟩
  · exact engineTurns.trans plain.engineTurns
  · intro target role found
    exact plain.turns (by rwa [roles] at found)
  · rw [factories]
    exact plain.factories
  · rw [roles]
    exact fun _ => id
  · intro target _
    unfold Stage.heard
    rw [roles]

theorem of_recast (plain : stage.Unscripted) (target : TargetId) {change : Role → Role}
    (turns : ∀ role, stage.role? target = some role → (change role).turns = [])
    (received : ears target → ∀ role, (change role).recording.received = role.recording.received) :
    Silent ears wires stage (stage.recast target change) where
  unscripted := by
    refine ⟨plain.engineTurns, ?_, plain.factories⟩
    intro other role found
    rw [role?_recast] at found
    split at found
    · obtain ⟨before, cast, rfl⟩ := Option.map_eq_some_iff.mp found
      exact turns before cast
    · exact plain.turns found
  stays other onStage := by
    rw [role?_recast]
    split
    · next same =>
        subst same
        rwa [Option.isSome_map]
    · exact onStage
  heard other listens := by
    unfold Stage.heard
    rw [role?_recast]
    split
    · next same =>
        subst same
        cases stage.role? other with
        | none => rfl
        | some role => exact received listens role
    · rfl
  written _ _ := rfl

end Silent

theorem heard_addRole (stage : Stage) (role : Role) (unheard : role.recording.received = [])
    (target : TargetId) : (stage.addRole role).2.heard target = stage.heard target := by
  unfold heard role? addRole
  rw [Array.getElem?_push]
  split
  · next last =>
      rw [last, Array.getElem?_size]
      exact unheard
  · rfl

theorem Silent.of_addRole (plain : stage.Unscripted) {role : Role} (turns : role.turns = [])
    (unheard : role.recording.received = []) :
    Silent ears wires stage (stage.addRole role).2 where
  unscripted := by
    refine ⟨plain.engineTurns, ?_, plain.factories⟩
    intro target other found
    unfold role? addRole at found
    rw [Array.getElem?_push] at found
    split at found
    · cases found
      exact turns
    · exact plain.turns found
  stays target onStage := by
    unfold role? addRole at *
    rw [Array.getElem?_push]
    split
    · rfl
    · exact onStage
  heard target _ := heard_addRole stage role unheard target
  written _ _ := rfl

theorem Silent.of_factories (plain : stage.Unscripted) {factories : Array FactoryRole}
    (record : ∀ (factory : FactoryId) (answers : List FactoryAnswer),
      factories[factory.index]? ≠ some (.scripted answers)) :
    Silent ears wires stage { stage with factories } where
  unscripted := ⟨plain.engineTurns, plain.turns, record⟩
  stays _ := id
  heard _ _ := rfl
  written _ _ := rfl

/-- A factory that records has no turns to play. -/
theorem Silent.of_factory (plain : stage.Unscripted) (factory : FactoryId)
    (created : List (Handle × TargetId)) (refusal : Option ErrorRecord) :
    Silent ears wires stage { stage with
      factories := stage.factories.setIfInBounds factory.index (.recording created refusal) } := by
  refine .of_factories plain fun other answers found => ?_
  rw [Array.getElem?_setIfInBounds] at found
  split at found
  · split at found <;> cases found
  · exact plain.factories other answers found

end Stage

/-! ## The frame of silence -/

open Stage

/-- Nothing is added to certain tapes, as long as nobody has turns to play. -/
def silence (ears : TargetId → Prop) (wires : Handle → Prop) : HostFrame Stage where
  Rel stage next := stage.Unscripted → Silent ears wires stage next
  refl _ := .refl
  trans one two plain := (one plain).trans (two (one plain).unscripted)
  forgets target stage plain := by
    show Silent ears wires stage (stage.forget target).2
    unfold Stage.forget
    split
    · exact .refl plain
    · exact .of_recast plain target (fun role cast => show role.turns = [] from plain.turns cast)
        fun _ _ => rfl

section Silence

variable {ears : TargetId → Prop} {wires : Handle → Prop} {run : Runner} {α : Type}

theorem changeStage_keeps {step : Stage → α × Stage}
    (silent : ∀ stage, stage.Unscripted → Silent ears wires stage (step stage).2) :
    (silence ears wires).Keeps (changeStage step) :=
  fun world => silent world.host

/-- Nobody has a turn to play. -/
theorem taken_keeps {step : Stage → List Op × Stage} {next : List Op → SessionM α}
    (silent : ∀ stage, stage.Unscripted →
      (step stage).1 = [] ∧ Silent ears wires stage (step stage).2)
    (rest : (silence ears wires).Keeps (next [])) :
    (silence ears wires).Keeps (changeStage step >>= next) := by
  intro world plain
  obtain ⟨none, still⟩ := silent world.host plain
  have taken : changeStage step world = (.ok [], { world with host := (step world.host).2 }) := by
    rw [← none]
    rfl
  rw [bind_of_ok taken]
  exact still.trans (rest { world with host := (step world.host).2 } still.unscripted)

theorem takeTargetTurn_silent {stage : Stage} (plain : stage.Unscripted) (target : TargetId)
    (event : EventKind) : (stage.takeTargetTurn target event).1 = [] ∧
      Silent ears wires stage (stage.takeTargetTurn target event).2 := by
  unfold takeTargetTurn
  cases cast : stage.role? target with
  | none => exact ⟨rfl, .refl plain⟩
  | some role =>
      simp only [plain.turns cast, takeTurn, true_and]
      exact .of_recast plain target (fun _ _ => rfl) fun _ _ => rfl

theorem takeEngineTurn_silent {stage : Stage} (plain : stage.Unscripted) (cue : EngineCue) :
    (stage.takeEngineTurn cue).1 = [] ∧
      Silent ears wires stage (stage.takeEngineTurn cue).2 := by
  unfold takeEngineTurn
  simp only [plain.engineTurns, takeEngineTurns, true_and]
  exact .of_cast plain rfl plain.engineTurns.symm rfl fun _ _ => rfl

/-- What cooperative targets reply, and what an engine echoes, adds to no tape. -/
structure Replies (frame : HostFrame Stage) (run : Runner) : Prop where
  opened (peer : Peer) : frame.Keeps (run (some peer) (.socket .self .opened))
  acknowledged (peer : Peer) (byteCount : Nat) :
      frame.Keeps (run (some peer) (.socket .self (.completedReceive byteCount)))
  echoed (handle : Handle) (domain code : Int) (message : Bytes) :
      frame.Keeps (run none (.native (.literal handle.raw) (.closed domain code message)))

theorem reply_keeps (replies : Replies (silence ears wires) run) (peer : Peer)
    {stage : Stage} {target : TargetId} {event : SocketEvent} {reply : SocketCall}
    (found : stage.reply? target event = some reply) :
    (silence ears wires).Keeps (run (some peer) (.socket .self reply)) := by
  obtain ⟨role, -, replied⟩ := Option.bind_eq_some_iff.mp found
  unfold Recording.reply? at replied
  split at replied
  · cases (Option.ite_none_right_eq_some.mp replied).2
    exact replies.opened peer
  · cases (Option.ite_none_right_eq_some.mp replied).2
    exact replies.acknowledged peer _
  · cases replied

theorem letGoOf_keeps (before : Option Peer) : (silence ears wires).Keeps
    (before.forM fun peer => Custody.letGo peer.entry : SessionM Unit) := by
  cases before with
  | none => exact .pure ()
  | some peer => exact HostFrame.letGo_keeps peer.entry

theorem record_silent {stage : Stage} (plain : stage.Unscripted) (target : TargetId) (peer : Peer)
    {event : SocketEvent} (spared : ears target → event.kind ≠ .received) :
    Silent ears wires stage (stage.record target peer event) :=
  .of_recast plain target (fun role cast => show role.turns = [] from plain.turns cast)
    fun listens role =>
    role.recording.received_record_of_ne peer (spared listens)

/-- What a target does after it has recorded an event. -/
theorem afterRecord_keeps (replies : Replies (silence ears wires) run) (peer : Peer)
    (target : TargetId) (event : SocketEvent) {stage : Stage} :
    (silence ears wires).Keeps (do
      if let some reply := stage.reply? target event then
        let _ ← run (some peer) (.socket .self reply) : SessionM Unit) := by
  cases found : stage.reply? target event with
  | none => exact .pure ()
  | some reply => exact .bind (reply_keeps replies peer found) fun _ => .pure ()

theorem playTurn_keeps (peer : Peer) (target : TargetId) (event : EventKind) :
    (silence ears wires).Keeps (do
      play run (some peer) (← changeStage (·.takeTargetTurn target event)) : SessionM Unit) :=
  taken_keeps (fun _ plain => takeTargetTurn_silent plain target event) (.pure ())

theorem callTarget_keeps (replies : Replies (silence ears wires) run) (peer : Peer)
    (target : TargetId) {event : SocketEvent} (spared : ears target → event.kind ≠ .received) :
    (silence ears wires).Keeps (callTarget run peer target event) := by
  refine .bind (.look fun world => .bind ?_ fun _ => ?_) fun _ => playTurn_keeps peer target _
  · refine .bind (changeStage_keeps fun stage plain => ?_) letGoOf_keeps
    exact record_silent plain target peer spared
  · exact afterRecord_keeps replies peer target event

theorem createHandle_keeps (address : Address) (framing : Framing) :
    (silence ears wires).Keeps (createHandle run address framing) := by
  refine .bind (changeStage_keeps fun stage plain => ?_) fun answer => ?_
  · exact .of_cast plain rfl rfl rfl fun handle _ =>
      stage.engine.written_create address framing handle
  · exact taken_keeps (fun _ plain => takeEngineTurn_silent plain _)
      (.bind (.pure ()) fun _ => .pure answer)

theorem echo_keeps (replies : Replies (silence ears wires) run) (handle : Handle)
    (error : ErrorRecord) : (silence ears wires).Keeps (echo run handle error) := by
  refine .look fun world => ?_
  cases world.host.engine.echoesClosed with
  | false => exact .pure ()
  | true => exact .bind (replies.echoed _ _ _ _) fun _ => .pure ()

/-- What the engine does after it has recorded a call. -/
def afterCall (run : Runner) (handle : Handle) (call : EngineCall) : SessionM Unit := do
  if let .closed error := call then
    echo run handle error
  let ops ← changeStage (·.takeEngineTurn (.ofCall call))
  match (← get).peer? handle with
  | some peer => Custody.holding peer.entry (play run (some peer) ops)
  | none => play run none ops

theorem afterCall_keeps (replies : Replies (silence ears wires) run) (handle : Handle)
    (call : EngineCall) : (silence ears wires).Keeps (afterCall run handle call) := by
  have turn {cue : EngineCue} (stage : Stage) (plain : stage.Unscripted) :
      (stage.takeEngineTurn cue).1 = [] ∧
        Silent ears wires stage (stage.takeEngineTurn cue).2 :=
    takeEngineTurn_silent plain cue
  cases call with
  | closed error =>
      refine .bind (echo_keeps replies handle error) fun _ => taken_keeps turn ?_
      refine .look fun world => ?_
      cases world.peer? handle with
      | none => exact .pure ()
      | some peer => exact HostFrame.holding_keeps _ (.pure ())
  | _ =>
      refine taken_keeps turn (.look fun world => ?_)
      cases world.peer? handle with
      | none => exact .pure ()
      | some peer => exact HostFrame.holding_keeps _ (.pure ())

theorem callEngine_keeps (replies : Replies (silence ears wires) run) (handle : Handle)
    {call : EngineCall} (spared : wires handle → ∀ data, call ≠ .write data) :
    (silence ears wires).Keeps (callEngine run handle call) := by
  refine .bind (changeStage_keeps fun stage plain => ?_) fun _ =>
    afterCall_keeps replies handle call
  refine .of_cast plain rfl rfl rfl fun other wired => ?_
  exact stage.engine.written_record_of_ne fun same => spared (same ▸ wired)

theorem createTarget_keeps (factory : FactoryId) (handle : Handle) :
    (silence ears wires).Keeps (createTarget run factory handle) := by
  intro world
  refine .bind ((silence ears wires).refl world.host) fun stage middle ran => ?_
  cases ran
  cases found : world.host.factories[factory.index]? with
  | none =>
      have declines : world.host.takeFactoryAnswer factory =
          (.decline [] .success, world.host) := by
        unfold takeFactoryAnswer
        rw [found]
      have taken : changeStage (Stage.takeFactoryAnswer · factory) world =
          (.ok (.decline [] .success), world) := by
        show (Except.ok (world.host.takeFactoryAnswer factory).1,
          { world with host := (world.host.takeFactoryAnswer factory).2 }) = _
        rw [declines]
      intro plain
      dsimp only
      rw [bind_of_ok taken]
      exact .refl plain
  | some role =>
      cases role with
      | scripted answers => exact fun plain => absurd found (plain.factories factory answers)
      | recording created refusal =>
          cases refusal with
          | some error => exact .refl
          | none =>
              dsimp only
              refine HostFrame.Keeps.bind (changeStage_keeps fun stage plain => ?_)
                (fun target => .pure _) world
              have added : Silent ears wires stage
                  (stage.addRole ⟨none, { cooperative := true }, []⟩).2 :=
                .of_addRole plain rfl rfl
              exact added.trans (.of_factory added.unscripted _ _ _)

theorem host_heeded (replies : Replies (silence ears wires) run) :
    (silence ears wires).Heeded ears wires (host run) where
  callback peer target _ spared := callTarget_keeps replies peer target spared
  createHandle := createHandle_keeps
  engine handle _ spared := callEngine_keeps replies handle spared
  createTarget factory handle _ _ := createTarget_keeps factory handle

theorem settle_keeps {call : Call Stage Act α} (kept : (silence ears wires).Spares call)
    (answer : α → Answer) : (silence ears wires).Keeps (settle call answer) := by
  refine .bind kept fun outcome => ?_
  cases outcome <;> exact .pure _

/-- However deep the nesting goes. -/
theorem exec_replies (depth : Nat) : Replies (silence ears wires) (exec depth) := by
  induction depth with
  | zero => exact ⟨fun _ => .throw _, fun _ _ => .throw _, fun _ _ _ _ => .throw _⟩
  | succ depth inductionHypothesis =>
      have heeded := host_heeded inductionHypothesis
      refine ⟨fun peer => ?_, fun peer byteCount => ?_, fun handle domain code message => ?_⟩
      · exact HostFrame.holding_keeps _ (settle_keeps (heeded.invoke peer (by nofun)) _)
      · exact HostFrame.holding_keeps _ (settle_keeps (heeded.invoke peer (by nofun)) _)
      · refine .bind (.pure (Handle.ofRaw? handle.raw)) fun found => ?_
        cases found with
        | none => exact .pure _
        | some handle => exact settle_keeps (heeded.dispatch handle (by nofun)) _

/-! ## What is added -/

/-- The target hears the bytes. -/
def Hears (target : TargetId) (bytes : Bytes) (stage next : Stage) : Prop :=
  stage.Unscripted → (stage.role? target).isSome →
    next.Unscripted ∧ (next.role? target).isSome ∧
      next.heard target = stage.heard target ++ bytes

/-- The bytes are written to the handle. -/
def Writes (handle : Handle) (data : Bytes) (stage next : Stage) : Prop :=
  stage.Unscripted → next.Unscripted ∧
    next.engine.written handle = stage.engine.written handle ++ data

theorem record_hears (stage : Stage) (target : TargetId) (peer : Peer) (bytes : Bytes) :
    Hears target bytes stage (stage.record target peer (.received bytes)) := by
  intro plain onStage
  have recast : stage.record target peer (.received bytes) = stage.recast target fun role =>
      { role with recording := role.recording.record peer (.received bytes) } := rfl
  obtain ⟨role, cast⟩ := Option.isSome_iff_exists.mp onStage
  have silent : Silent (fun _ => False) (fun _ => False) stage
      (stage.record target peer (.received bytes)) :=
    .of_recast plain target (fun other cast => show other.turns = [] from plain.turns cast) nofun
  refine ⟨silent.unscripted, silent.stays target onStage, ?_⟩
  unfold heard
  rw [recast, role?_recast, if_pos rfl, cast]
  exact role.recording.received_record peer bytes

/-- Whoever is told of received bytes has them on tape, once. -/
theorem callTarget_performs (replies : Replies (silence ears wires) run) (peer : Peer)
    (target : TargetId) (bytes : Bytes) :
    (silence ears wires).Performs (Hears target bytes)
      (callTarget run peer target (.received bytes)) := by
  refine .andThen (.after (.aside fun _ => rfl) fun stage => .andThen ?_ fun _ => ?_)
    fun _ => playTurn_keeps peer target _
  · refine .andThen (.of_move fun world _ after ran => ?_) letGoOf_keeps
    cases ran
    exact record_hears world.host target peer bytes
  · exact afterRecord_keeps replies peer target _

/-- An engine that is told of a write has it on tape, once. -/
theorem callEngine_performs (replies : Replies (silence ears wires) run) (handle : Handle)
    (data : Bytes) : (silence ears wires).Performs (Writes handle data)
      (callEngine run handle (.write data)) := by
  refine .andThen (.of_move fun world _ after ran => ?_) fun _ =>
    afterCall_keeps replies handle (.write data)
  cases ran
  intro plain
  have silent : Silent (fun _ => False) (fun _ => False) world.host
      { world.host with engine := world.host.engine.record handle (.write data) } :=
    .of_cast plain rfl rfl rfl nofun
  exact ⟨silent.unscripted, world.host.engine.written_record handle data⟩

end Silence

end Session

end TransportBridge
